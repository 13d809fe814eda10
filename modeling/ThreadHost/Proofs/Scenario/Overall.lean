import ThreadHost.Console.Actions
import ThreadHost.Tool.Scenarios
/-!
# The verdict on all scenarios

Three things are told of a list of reports: the exit code of the tool, the printed summary, and the
message of the console. Each is worked out in its own way; all of them come down to whether some
scenario failed or ended with an error (`AllGood`), and give the same numbers (`overall_agrees`).
-/

namespace ThreadHost

open Console (announcement wentWrong)
open Tool (finish)
open Tool.Scenarios (complain conclude isGood)

variable {reports : List Report}

/-- No scenario failed or ended with an error. -/
def AllGood (reports : List Report) : Prop :=
  ∀ report ∈ reports, report.verdict ≠ .failed ∧ report.verdict ≠ .error

/-- A scenario went wrong if it is counted as failed or as an error, and it is never both. -/
theorem countP_wentWrong (reports : List Report) :
    reports.countP wentWrong = (Summary.ofReports reports).failed +
      (Summary.ofReports reports).errors := by
  unfold Summary.ofReports
  induction reports with
  | nil => rfl
  | cons report reports inductionHypothesis =>
    simp only [List.countP_cons, inductionHypothesis]
    cases verdict : report.verdict <;> simp [wentWrong, verdict] <;> omega

/-- What is left beside failures and errors makes up all reports with them. -/
theorem Summary.count_eq_length (reports : List Report) :
    (ofReports reports).passed + (ofReports reports).failed + (ofReports reports).errors =
      reports.length := by
  have most : reports.countP wentWrong ≤ reports.length := List.countP_le_length
  rw [countP_wentWrong] at most
  unfold ofReports at most ⊢
  simp only at most ⊢
  omega

/-- The tool looks whether all scenarios passed or were skipped. -/
theorem code_eq_zero_iff : (conclude reports).code = 0 ↔ AllGood reports := by
  have good : ∀ report : Report,
      isGood report = true ↔ report.verdict ≠ .failed ∧ report.verdict ≠ .error := by
    intro report
    cases verdict : report.verdict <;> simp [isGood, verdict]
  simp only [conclude, AllGood, ← good, ← List.all_eq_true]
  split <;> simp_all

/-- The summary counts failures and errors. -/
theorem allPassed_iff : (Summary.ofReports reports).allPassed = true ↔ AllGood reports := by
  simp only [Summary.allPassed, Summary.ofReports, Bool.and_eq_true, decide_eq_true_eq,
    List.countP_eq_zero, AllGood]
  exact ⟨fun none report member => ⟨none.1 report member, none.2 report member⟩,
    fun good => ⟨fun report member => (good report member).1,
      fun report member => (good report member).2⟩⟩

/-- The console looks for scenarios that went wrong. -/
theorem filter_wentWrong_iff : reports.filter wentWrong = [] ↔ AllGood reports := by
  simp [List.filter_eq_nil_iff, wentWrong, AllGood]

namespace Summary

/-- The line of a summary that gives its numbers. -/
def totalLine (summary : Summary) : String :=
  "Total: " ++ toString summary.passed ++ " passed/skipped, " ++ toString summary.failed ++
    " failed, " ++ toString summary.errors ++ " errors"

/-- The last words of a summary in which nothing went wrong. -/
def passedLine : String := "Overall: PASSED"

/-- A summary ends with its numbers and the verdict on all. -/
theorem lines_eq (reports : List Report) :
    lines reports = ["", ruler '=', "NETWORK SCENARIO SUMMARY", ruler '='] ++
      reports.map Report.summaryLine ++ [ruler '-', (ofReports reports).totalLine,
        if (ofReports reports).allPassed then passedLine else "Overall: FAILED", ruler '='] := by
  unfold lines passedLine
  simp only
  split <;> rfl

/-- No other line of a summary reads like its last words. -/
theorem passedLine_mem_lines_iff : passedLine ∈ lines reports ↔ AllGood reports := by
  have noReport : passedLine ∉ reports.map Report.summaryLine := by
    intro member
    obtain ⟨report, -, same⟩ := List.mem_map.1 member
    have start := congrArg (fun line => line.toList.head?) same
    simp [Report.summaryLine, passedLine] at start
  have noTotal : passedLine ≠ (ofReports reports).totalLine := by
    intro same
    have start := congrArg (fun line => line.toList.head?) same
    simp [totalLine, passedLine] at start
  have noHead : passedLine ∉ ["", ruler '=', "NETWORK SCENARIO SUMMARY", ruler '='] := by decide
  have noRuler : passedLine ≠ ruler '-' ∧ passedLine ≠ ruler '=' := by decide
  have notFailed : passedLine ≠ "Overall: FAILED" := by decide
  rw [lines_eq, ← allPassed_iff, List.mem_append, List.mem_append, or_iff_right noHead,
    or_iff_right noReport]
  cases (ofReports reports).allPassed <;> simp [noTotal, noRuler, notFailed]

end Summary

/-- The message about scenarios all of which ended well. -/
def successMessage (all : Nat) : String × Console.Severity :=
  (s!"✓ All {all} scenarios passed", .information)

/-- The message about scenarios some of which went wrong. -/
def failureMessage (count all : Nat) (names : List String) : String × Console.Severity :=
  (s!"{count}/{all} scenarios failed: " ++ ", ".intercalate names, .error)

/-- What the console tells of the reports. -/
theorem announcement_eq (reports : List Report) :
    announcement reports =
      if reports.filter wentWrong = [] then successMessage reports.length
      else failureMessage (reports.countP wentWrong) reports.length
        ((reports.filter wentWrong).map Report.name) := by
  unfold announcement
  simp only [List.isEmpty_iff, List.countP_eq_length_filter]
  split <;> rfl

/-- Only scenarios that all ended well are announced so. -/
theorem announcement_eq_success_iff :
    announcement reports = successMessage reports.length ↔ AllGood reports := by
  rw [announcement_eq, ← filter_wentWrong_iff]
  split
  · exact iff_of_true rfl ‹_›
  · refine iff_of_false (fun same => ?_) ‹_›
    cases congrArg Prod.snd same

/-- The reports of scenarios that failed or ended with an error, in order. -/
def badReports (reports : List Report) : List Report :=
  reports.filter fun report => report.verdict ∈ [Verdict.failed, .error]

theorem filter_wentWrong_eq (reports : List Report) :
    reports.filter wentWrong = badReports reports :=
  List.filter_congr fun report _ => by simp [wentWrong]

/-- What the tool, the summary and the console say about the same reports. -/
structure Agreement (reports : List Report) (summary : Summary) : Prop where
  /-- The exit code is zero exactly if the summary says that all passed. -/
  printed : ∀ host wire, (finish complain (.ok (conclude reports)) [] host wire).ending = .exit 0 ↔
    Summary.passedLine ∈ Summary.lines reports
  /-- And exactly then the console says so, too. -/
  announced : ∀ host wire,
    (finish complain (.ok (conclude reports)) [] host wire).ending = .exit 0 ↔
      announcement reports = successMessage reports.length
  /-- Otherwise it counts the failures and errors of the summary, and names the scenarios. -/
  failed : announcement reports ≠ successMessage reports.length →
    announcement reports = failureMessage (summary.failed + summary.errors) reports.length
      ((badReports reports).map Report.name)
  /-- These are the numbers that the summary prints, and all numbers in it make up all reports. -/
  numbers : summary.totalLine ∈ Summary.lines reports
  total : summary.passed + summary.failed + summary.errors = reports.length

/-- Whatever scenarios came to, their exit code, their summary and their message tell of the same
verdict and of the same numbers. -/
theorem overall_agrees (reports : List Report) :
    Agreement reports (Summary.ofReports reports) := by
  have exits : ∀ host wire,
      (finish complain (.ok (conclude reports)) [] host wire).ending = .exit 0 ↔
        AllGood reports := by
    intro host wire
    rw [← code_eq_zero_iff, finish]
    exact ⟨fun same => Tool.Ending.exit.inj same, congrArg _⟩
  refine {
    printed := fun host wire => (exits host wire).trans Summary.passedLine_mem_lines_iff.symm
    announced := fun host wire => (exits host wire).trans announcement_eq_success_iff.symm
    failed := ?_
    numbers := ?_
    total := Summary.count_eq_length reports }
  · intro other
    rw [Ne, announcement_eq_success_iff, ← filter_wentWrong_iff] at other
    rw [announcement_eq, if_neg other, countP_wentWrong, filter_wentWrong_eq]
  · rw [Summary.lines_eq]
    simp

end ThreadHost
