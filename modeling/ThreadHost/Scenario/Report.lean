import ThreadHost.Datum
/-!
# Scenario reports

What a scenario did, step by step, and how it ended.
-/

namespace ThreadHost

/-- How a scenario ended. -/
inductive Verdict where
  | passed
  | failed
  | skipped
  | error
  deriving Repr, DecidableEq

namespace Verdict

/-- The name of a verdict. -/
def name : Verdict → String
  | .passed => "passed"
  | .failed => "failed"
  | .skipped => "skipped"
  | .error => "error"

/-- The name of a verdict in capitals. -/
def title : Verdict → String
  | .passed => "PASSED"
  | .failed => "FAILED"
  | .skipped => "SKIPPED"
  | .error => "ERROR"

/-- The verdict of a name. -/
def ofName? (name : String) : Option Verdict :=
  [passed, failed, skipped, error].find? fun verdict => verdict.name = name

end Verdict

/-- One step of a scenario. -/
structure Step where
  name : String
  passed : Bool
  message : String := ""
  details : Table := []

/-- What a step is given besides its details. No detail can have one of these names. -/
def Step.ownNames : List String := ["self", "name", "passed", "message"]

/-- The first detail with a name that is taken. -/
def Step.clash? (step : Step) : Option String :=
  (step.details.map Prod.fst).find? Step.ownNames.contains

/-- What a scenario did. -/
structure Report where
  name : String
  description : String
  verdict : Verdict := .passed
  steps : List Step := []
  /-- How long the scenario took, in seconds. -/
  duration : Float := 0

namespace Report

/-- The report with one more step. -/
def addStep (report : Report) (step : Step) : Report :=
  { report with steps := report.steps ++ [step] }

/-- The report with one more step that counts: a step that did not pass turns a passed scenario
into a failed one, and leaves any other verdict alone. -/
def note (report : Report) (step : Step) : Report :=
  let report := report.addStep step
  if !step.passed && report.verdict = .passed then { report with verdict := .failed } else report

/-- The report with another verdict. -/
def conclude (report : Report) (verdict : Verdict) : Report := { report with verdict }

/-- How many steps passed. -/
def passedCount (report : Report) : Nat := report.steps.countP (·.passed)

/-- How many steps did not pass. -/
def failedCount (report : Report) : Nat := report.steps.countP (!·.passed)

end Report

end ThreadHost
