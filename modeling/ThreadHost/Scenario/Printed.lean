import ThreadHost.Decimal.Fixed
import ThreadHost.Scenario.Report
import ThreadHost.Text.Padded
/-!
# Printed reports

A report in full, and the summary of several.
-/

namespace ThreadHost

/-- A line across, made of one character. -/
def ruler (character : Char) : String := String.ofList (List.replicate 60 character)

/-- Lines as they are printed, each with its end. -/
def printedLines (lines : List String) : String := String.join (lines.map (· ++ "\n"))

/-- The lines of a step. -/
def Step.lines (step : Step) : List String :=
  let head := "  [" ++ (if step.passed then "PASS" else "FAIL") ++ "] " ++ step.name
  if step.message = "" then [head] else [head, "         " ++ step.message]

namespace Report

/-- How many of all steps passed. -/
def ratio (report : Report) : String := s!"{report.passedCount}/{report.steps.length}"

/-- The lines of a report. -/
def lines (report : Report) : List String :=
  ["", ruler '=',
    "Scenario: " ++ report.name,
    "Description: " ++ report.description,
    "Result: " ++ report.verdict.title,
    "Duration: " ++ Decimal.fixed 2 report.duration ++ "s",
    "Steps: " ++ report.ratio ++ " passed",
    ruler '-'] ++ report.steps.flatMap Step.lines ++ [ruler '=']

/-- A report as it is printed. -/
def printed (report : Report) : String := printedLines report.lines

/-- The line of a report in a summary. -/
def summaryLine (report : Report) : String :=
  "  [" ++ Text.padEnd 7 report.verdict.title ++ "] " ++ report.name ++ ": " ++ report.ratio ++
    " steps"

end Report

/-- How many of several scenarios ended how. -/
structure Summary where
  /-- All that neither failed nor ended with an error. -/
  passed : Nat
  failed : Nat
  errors : Nat
  deriving Repr, DecidableEq

namespace Summary

/-- Count the failures and errors; what is left passed or was skipped. -/
def ofReports (reports : List Report) : Summary :=
  let failed := reports.countP fun report => report.verdict = .failed
  let errors := reports.countP fun report => report.verdict = .error
  ⟨reports.length - failed - errors, failed, errors⟩

/-- Whether nothing went wrong. -/
def allPassed (summary : Summary) : Bool := summary.failed = 0 && summary.errors = 0

/-- The lines of a summary. -/
def lines (reports : List Report) : List String :=
  let summary := ofReports reports
  ["", ruler '=', "NETWORK SCENARIO SUMMARY", ruler '='] ++ reports.map Report.summaryLine ++
    [ruler '-',
      s!"Total: {summary.passed} passed/skipped, {summary.failed} failed, {summary.errors} errors",
      "Overall: " ++ (if summary.allPassed then "PASSED" else "FAILED"),
      ruler '=']

/-- A summary as it is printed. -/
def printed (reports : List Report) : String := printedLines (lines reports)

end Summary

end ThreadHost
