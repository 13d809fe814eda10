import ThreadHost.Datum.Shown
import ThreadHost.Host
import ThreadHost.Scenario.Report
/-!
# Running a scenario

A scenario acts on a state and reports its steps. A wait that expired, an error of the device and
a failure of the link end it with a last step that did not pass; any other failure goes on, and
the report is lost.
-/

namespace ThreadHost

/-- A scenario under way: the state it acts on, and its report so far. -/
structure Underway (σ : Type) where
  state : σ
  report : Report

/-- A scenario with its name. -/
structure Scenario (σ : Type) where
  name : String := "Unnamed Scenario"
  description : String := ""
  body : Act (Underway σ) Unit

namespace Scenario

variable {σ α : Type}

/-- Change the report. -/
def report (change : Report → Report) : Act (Underway σ) Unit :=
  modify fun underway => { underway with report := change underway.report }

/-- Report a step. -/
def note (step : Step) : Act (Underway σ) Unit := report (·.note step)

/-- A step as it is given to an operation, unless one of its details has a name that is taken. -/
def accepted (operation : String) (step : Step) : Except Fault Step :=
  match step.clash? with
  | some name => .error (.misuse (.givenTwice operation name))
  | none => .ok step

/-- Report a step with any details. -/
def noteGiven (step : Step) : Act (Underway σ) Unit := do
  note (← Act.ofFault (accepted "NetworkScenario._log_step" step))

/-- Add a step with any details, which does not count. -/
def addGiven (step : Step) : Act (Underway σ) Unit := do
  let step ← Act.ofFault (accepted "ScenarioReport.add_step" step)
  report (·.addStep step)

/-- The verdict that a datum names. -/
def verdictOf (datum : Datum) : Except Fault Verdict :=
  let refusal := Fault.unknownVerdict datum.quoted
  match datum with
  | .text name =>
    match Verdict.ofName? name with
    | some verdict => .ok verdict
    | none => .error refusal
  | _ => .error refusal

/-- Report how the scenario ended. -/
def conclude (verdict : Verdict) : Act (Underway σ) Unit := report (·.conclude verdict)

/-- Do something with the state. -/
def onState (act : Act σ α) : Act (Underway σ) α :=
  Act.onPart Underway.state (fun state underway => { underway with state }) act

/-- The report of a scenario that ended with a failure, unless the failure goes on. -/
def settle (report : Report) (failure : Failure) : Option Report :=
  match failure with
  | .plain (.waitExpired ..) =>
    some (report.note ⟨"Wait for state", false, failure.message, []⟩)
  | .deviceError .. =>
    let step : Step := ⟨"Device command", false, "Protocol error: " ++ failure.message, []⟩
    some ((report.note step).conclude .error)
  | .link .. | .writeRejected .. | .readFailed .. =>
    let step : Step := ⟨"Device link", false, "Link error: " ++ failure.message, []⟩
    some ((report.note step).conclude .error)
  | .plain _ => none

/-- The outcome of a body: its report, or the failure that goes on. -/
def outcome (report : Report) : Except Failure Unit → Except Failure Report
  | .ok () => .ok report
  | .error failure =>
    match settle report failure with
    | some report => .ok report
    | none => .error failure

/-- Run a scenario on a state whose clock can be read. -/
def run (clock : σ → Float) (scenario : Scenario σ) : Act σ Report := fun state =>
  let start : Underway σ := ⟨state, { name := scenario.name, description := scenario.description }⟩
  let (ending, underway) := scenario.body.perform start
  let duration := clock underway.state - clock state
  ((outcome underway.report ending).map ({ · with duration }), underway.state)

/-- Run scenarios one after another; a failure that goes on ends it. -/
def runAll (clock : σ → Float) (scenarios : List (Scenario σ)) : Act σ (List Report) :=
  scenarios.mapM (run clock)

end Scenario

end ThreadHost
