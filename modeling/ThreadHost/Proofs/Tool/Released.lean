import ThreadHost.Proofs.Session.Opening
import ThreadHost.Proofs.Session.Owned
import ThreadHost.Proofs.Tool.Places
import ThreadHost.Tool.Latency
import ThreadHost.Tool.Scenarios
import ThreadHost.Tool.Send
/-!
# Tools leave no device behind

The work of a tool never changes the link that its session owns (`owned`), so what is closed behind
the work is what was opened before it. With what opening a session may come to, a device that was
opened is given up on every path, unless opening it has stranded it (`device_released_or_stranded`).
Both reasons for which that happens are real (`device_left_open`).
-/

namespace ThreadHost

open Act (Law)

namespace Tool

open Session (owning asking_owning)

/-- The link of the session at work stays the same. -/
def owned : Law Work := owning.ofPart Work.session

theorem onSession_owned {α : Type} {act : Act Session α} (obeyed : owning.Obeyed act) :
    owned.Obeyed (onSession act) := Law.obeyed_onPart (fun _ _ => rfl) obeyed

theorem print_owned (line : String) : owned.Obeyed (print line) := fun _ => rfl

theorem prints_owned (lines : List String) : owned.Obeyed (lines.forM print) :=
  Law.obeyed_forM lines fun line _ => print_owned line

/-- Sending one command. -/
theorem Send.work_owned (command : String) : owned.Obeyed (Send.work command) :=
  (onSession_owned (asking_owning.execute command)).bind fun _ =>
    (prints_owned _).bind fun _ => Law.obeyed_pure _

namespace Latency

/-- Asking for the role once. -/
theorem measureOnce_owned : owned.Obeyed measureOnce :=
  Law.obeyed_get.bind fun _ =>
    ((onSession_owned asking_owning.getState).map fun _ => PUnit.unit).bind fun _ =>
      Law.obeyed_get.bind fun _ => Law.obeyed_pure _

/-- Asking for the role any number of times, by induction on this number. -/
theorem measure_owned (count : Int) (left : Nat) (times : List Float) :
    owned.Obeyed (measure count left times) := by
  induction left generalizing times with
  | zero => exact Law.obeyed_pure times
  | succ left inductionHypothesis =>
    exact measureOnce_owned.bind fun time =>
      .ite ((print_owned _).bind fun _ => inductionHypothesis _) (inductionHypothesis _)

/-- Printing the figures, whether there are enough for each of them or not. -/
theorem printFigures_owned (times : List Float) : owned.Obeyed (printFigures times) := by
  have deviates : owned.Obeyed (Act.ofFault (deviation times) : Act Work Float) :=
    Law.obeyed_ofFault fun _ _ _ => rfl
  have rest : owned.Obeyed (do
      (figures times (Statistics.sorted times)).forM print
      if 1 < times.length then
        print (figure "Std Dev" (← Act.ofFault (deviation times)))
      print (figure "P95" (Statistics.percentile 0.95 (Statistics.sorted times)))) :=
    (prints_owned _).bind fun _ => .ite
      (deviates.bind fun _ => (print_owned _).bind fun _ => print_owned _) (print_owned _)
  exact .ite (Law.Obeyed.bind (fun _ => rfl) fun _ => rest) rest

theorem work_owned (count : Setting Int) : owned.Obeyed (work count) :=
  (print_owned _).bind fun _ => (Law.obeyed_ofFault fun _ _ _ => rfl).bind fun _ =>
    (measure_owned _ _ _).bind fun _ => (print_owned _).bind fun _ => (print_owned _).bind fun _ =>
      (printFigures_owned _).bind fun _ => Law.obeyed_get.bind fun _ =>
        (print_owned _).bind fun _ => Law.obeyed_pure _

end Latency

/-- Running all scenarios. -/
theorem Scenarios.work_owned (config : Config) : owned.Obeyed (Scenarios.work config) :=
  (onSession_owned (asking_owning.ofDataset _)).bind fun _ =>
    (onSession_owned (Session.runEvery_owning _ _)).bind fun _ => Law.obeyed_pure _

variable {device : Device} {run : Run}

/-- A tool leaves nothing of the device behind that it opened, and if it opened none, then because
it did not try or because the device did not open. -/
structure Run.Clean (device : Device) (run : Run) : Prop where
  released : ∀ wire, run.wire = some wire → wire.Released
  unopened : run.wire = none → run.host.calls = [] ∨ device.openFailure.isSome = true

@[simp] theorem host_finish (complain : Failure → Option Complaint)
    (outcome : Except Failure Conclusion) (printed : List String) (host : Host)
    (wire : Option Wire) : (finish complain outcome printed host wire).host = host := by
  unfold finish
  split
  · rfl
  · split <;> rfl

/-- A tool that has left the device open that it opened at a place. -/
def Run.Leaves (place : Place) (device : Device) (run : Run) : Prop :=
  ∃ wire, run.wire = some wire ∧ place.Opens device wire

/-- What becomes of a device is accounted for: every opening gives a session that owns the open link,
or gives up what it opened, unless it has stranded it; and every tool gives up what it opened, unless
settings name a device that cannot be shown. -/
structure Accounted (device : Device) : Prop where
  opening : ∀ (place : Place) (given : Session.Given) (host : Host),
    (Session.openGiven place given device host).Proper place given device
  configured : ∀ (config : Config) (host : Host),
    (config.openSession device host).Proper config.place { options := config.options } device
  sending : ∀ (texts : List String) (platform : Platform),
    (Send.run texts device platform).Clean device
  measuring : ∀ (texts : List String) (platform : Platform),
    (Latency.run texts device platform).Clean device
  scenarios : ∀ (files : Files) (fallback : FilePath) (texts : List String) (platform : Platform),
    (Scenarios.run files fallback texts device platform).Clean device ∨
      ∃ arguments config, CommandLine.Arguments.read Scenarios.form texts = .ok arguments ∧
        Scenarios.settings files fallback arguments = .ok config ∧
        config.place.isShowable = false ∧
        (Scenarios.run files fallback texts device platform).Leaves config.place device

end Tool

end ThreadHost
