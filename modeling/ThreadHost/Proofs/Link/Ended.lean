import Mathlib.Logic.Function.Iterate
import ThreadHost.Proofs.Act.Law
import ThreadHost.Proofs.Link.Released
/-!
# How a child is ended

`undergo` says what each call to the operating system does to a child, whoever makes it. Against it
the calls that closing a link makes are judged (`Ends`): they ask a child to terminate if and only if
a poll found it running, they kill it if and only if it outlasts the wait for that, and behind them it
has ended. From then on closing only polls (`close_ends_child`).
-/

namespace ThreadHost

namespace Process

/-- What a call does to a child. A child that runs ends when it is asked to, unless it ignores that,
and always when it is killed; one that has ended stays as it is. -/
def undergo (process : Process) (call : Call) : Process :=
  match process.returnCode, call with
  | none, .terminate =>
    if process.ignoresTerminate then process else { process with returnCode := some (-15) }
  | none, .kill => { process with returnCode := some (-9) }
  | _, _ => process

/-- A child behind some calls. -/
def outcome (process : Process) (calls : List Call) : Process := calls.foldl undergo process

/-- Some calls, each with the child that it meets. -/
def met (process : Process) : List Call → List (Call × Process)
  | [] => []
  | call :: calls => (call, process) :: (process.undergo call).met calls

/-- A child is ended properly by some calls: it is asked to terminate exactly if a poll meets it
running, and killed exactly if it is still running in a wait that has a limit. A child that had ended
keeps its return code. -/
structure Ends (process : Process) (calls : List Call) (ended : Process) : Prop where
  outcome : ended = process.outcome calls
  exited : ended.returnCode.isSome = true
  asked : .terminate ∈ calls ↔
    ∃ child, (.poll, child) ∈ process.met calls ∧ child.returnCode = none
  killed : .kill ∈ calls ↔
    ∃ child limit, (.wait (some limit), child) ∈ process.met calls ∧ child.returnCode = none
  kept : ∀ code, process.returnCode = some code → ended.returnCode = some code

variable {process : Process} {wire : Wire}

/-- Nothing happens to a child that has ended. -/
theorem undergo_ended (ended : process.returnCode.isSome = true) (call : Call) :
    process.undergo call = process := by
  obtain ⟨code, same⟩ := Option.isSome_iff_exists.1 ended
  simp [undergo, same]

/-- The calls of a closing end the child. -/
theorem closingCalls_ends (process : Process) :
    process.Ends process.closingCalls process.stop.1 := by
  have exited := process.stop_returnCode
  unfold closingCalls
  cases running : process.returnCode with
  | some code =>
    have stopped : process.stop = (process, [.poll]) := by simp [stop, running]
    rw [stopped] at exited ⊢
    constructor <;> simp [outcome, met, undergo_ended exited, running]
  | none =>
    cases ignores : process.ignoresTerminate with
    | false =>
      have stopped : process.stop = ({ process with returnCode := some (-15) },
          [.poll, .terminate, .wait (some process.terminateTimeout)]) := by
        simp [stop, running, ignores]
      rw [stopped]
      constructor <;> simp [outcome, met, undergo, running, ignores]
    | true =>
      have stopped : process.stop = ({ process with returnCode := some (-9) },
          [.poll, .terminate, .wait (some process.terminateTimeout), .kill, .wait none]) := by
        simp [stop, running, ignores]
      rw [stopped]
      constructor <;> simp [outcome, met, undergo, running, ignores]

/-- Closing a child that has ended only polls it and closes its pipes. -/
theorem closingCalls_of_ended (ended : process.returnCode.isSome = true) :
    process.stop.1 = process ∧ process.closingCalls = [.closeInput, .poll, .closeOutput] := by
  obtain ⟨code, same⟩ := Option.isSome_iff_exists.1 ended
  simp [closingCalls, stop, same]

end Process

namespace Wire

variable {process : Process} {wire : Wire}

/-- A wire behind some closings, one after another, whether they fail or not. -/
def closedAgain (times : Nat) (wire : Wire) : Wire :=
  (fun wire => (close.perform wire).2)^[times] wire

/-- Closing the link to a child closes the child. -/
theorem perform_close_process (owns : wire.link = some (.process process))
    (closes : process.ClosesInput) :
    close.perform wire =
      (process.outputCloseFailure.elim (.ok ()) .error, process.closed wire) := by
  unfold close
  rw [Act.perform_bind, Act.perform_get]
  simp only [owns]
  exact process.perform_close closes wire

/-- A wire whose child has ended. -/
structure Over (code : Option Int) (wire : Wire) : Prop where
  child : ∃ process : Process, wire.link = some (.process process) ∧ process.ClosesInput ∧
    process.returnCode = code
  exited : code.isSome = true
  inputClosed : wire.streams.inputClosed = true
  outputClosed : wire.streams.outputClosed = true

/-- However often it is closed again, the child is not asked to terminate and not killed any more. -/
theorem Over.closedAgain {code : Option Int} (isOver : wire.Over code) (times : Nat) :
    (wire.closedAgain times).Over code ∧ ∃ calls,
      (wire.closedAgain times).host.calls = wire.host.calls ++ calls ∧
        .terminate ∉ calls ∧ .kill ∉ calls := by
  induction times with
  | zero => exact ⟨isOver, [], (List.append_nil _).symm, List.not_mem_nil, List.not_mem_nil⟩
  | succ times inductionHypothesis =>
    obtain ⟨still, calls, same, notAsked, notKilled⟩ := inductionHypothesis
    obtain ⟨process, owns, closes, rfl⟩ := still.child
    obtain ⟨stopped, polled⟩ := Process.closingCalls_of_ended still.exited
    have last : wire.closedAgain (times + 1) = process.closed (wire.closedAgain times) := by
      unfold Wire.closedAgain at owns ⊢
      rw [Function.iterate_succ_apply', perform_close_process owns closes]
    rw [last]
    refine ⟨⟨⟨process, ?_, closes, rfl⟩, still.exited, rfl, rfl⟩,
      calls ++ process.closingCalls, ?_, ?_, ?_⟩
    · simp [Process.closed, stopped]
    · simp [Process.closed, same]
    · simp [polled, notAsked]
    · simp [polled, notKilled]

/-- Whatever state a child is in, and whether its pipes close without complaint or not: behind closing
its link both pipes are closed, and the child has been ended by calls each of which had its reason.
Closing fails only with the failure of the output. However often the link is closed again, the child
is left alone and keeps its return code. -/
theorem close_ends_child (process : Process) (closes : process.ClosesInput) (wire : Wire)
    (owns : wire.link = some (.process process)) :
    Act.ending (close.perform wire).1 = process.outputCloseFailure ∧
      (close.perform wire).2.streams.inputClosed = true ∧
      (close.perform wire).2.streams.outputClosed = true ∧
      ∃ calls ended, (close.perform wire).2.link = some (.process ended) ∧
        (close.perform wire).2.host.calls = wire.host.calls ++ calls ∧
        process.Ends calls ended ∧
        ∀ times, ((close.perform wire).2.closedAgain times).Over ended.returnCode ∧
          ∃ later, ((close.perform wire).2.closedAgain times).host.calls =
              wire.host.calls ++ calls ++ later ∧
            .terminate ∉ later ∧ .kill ∉ later := by
  have stays : process.stop.1.ClosesInput := by
    unfold Process.stop
    split
    · exact closes
    · split <;> exact closes
  have isOver : (process.closed wire).Over process.stop.1.returnCode :=
    ⟨⟨_, rfl, stays, rfl⟩, process.stop_returnCode, rfl, rfl⟩
  rw [perform_close_process owns closes]
  refine ⟨?_, rfl, rfl, process.closingCalls, process.stop.1, rfl, rfl,
    process.closingCalls_ends, isOver.closedAgain⟩
  cases process.outputCloseFailure <;> rfl

/-- A child that has closed its input, does not terminate, and whose output fails to close. -/
def deafChild : Process where
  ignoresTerminate := true
  inputCloseFailure := some (.plain (.system .brokenPipe "Broken pipe"))
  outputCloseFailure := some (.plain (.runtime "output is busy"))

theorem close_ends_child_deaf :
    deafChild.ClosesInput ∧
      (close.perform { streams := { unread := [] }, link := some (.process deafChild) }).2.host.calls =
        [.closeInput, .poll, .terminate, .wait (some 2), .kill, .wait none, .closeOutput] ∧
      ∃ calls ended, deafChild.Ends calls ended ∧ ended.returnCode = some (-9) := by
  have closes : deafChild.ClosesInput := by
    rintro _ ⟨⟩
    rfl
  obtain ⟨-, -, -, calls, ended, link, called, ends, -⟩ := close_ends_child deafChild closes
    { streams := { unread := [] }, link := some (.process deafChild) } rfl
  refine ⟨closes, by decide +kernel, calls, ended, ends, ?_⟩
  cases link
  rfl

end Wire

end ThreadHost
