import Mathlib.Algebra.GroupWithZero.Nat
import ThreadHost.Proofs.Act.Law
import ThreadHost.Session.Operations
/-!
# Runs of operations

A run carries out operations one after another, whether they are answered or fail. It is kept step
by step, with the session on both sides of each operation, so that what a session has counted can
be compared with what its operations did: what every step keeps, a run keeps (`afterRun_keeps`), and
what each step adds to an amount or to a record, a run adds up (`afterRun_add`, `afterRun_append`).
-/

namespace ThreadHost.Session

/-- One operation of a run: the session before it, how it ended, and the session after it. -/
structure Step where
  operation : Operation
  before : Session
  outcome : Except Failure Answer
  after : Session

/-- Whether a step failed with a failure of some kind. -/
def Step.fails (kind : Failure → Bool) (step : Step) : Bool := (Act.ending step.outcome).any kind

/-- An operation carried out on a session. -/
def Operation.step (operation : Operation) (session : Session) : Step :=
  let (outcome, after) := (perform operation).perform session
  { operation, before := session, outcome, after }

/-- The steps of some operations, one operation after another. -/
def run : List Operation → Session → List Step
  | [], _ => []
  | operation :: operations, session =>
    operation.step session :: run operations (operation.step session).after

/-- The session after some operations. -/
def afterRun (operations : List Operation) (session : Session) : Session :=
  operations.foldl (fun session operation => (operation.step session).after) session

/-- Every step of a run starts from a session that has what all steps keep. -/
theorem of_mem_run {Kept : Session → Prop}
    (kept : ∀ (operation : Operation) session, Kept session → Kept (operation.step session).after)
    {operations : List Operation} {session : Session} (start : Kept session) {step : Step}
    (member : step ∈ run operations session) :
    ∃ operation before, Kept before ∧ step = Operation.step operation before := by
  induction operations generalizing session with
  | nil => cases member
  | cons operation operations inductionHypothesis =>
    rcases List.mem_cons.1 member with rfl | later
    · exact ⟨operation, session, start, rfl⟩
    · exact inductionHypothesis (kept operation session start) later

/-- What every step keeps, a run keeps. -/
theorem afterRun_keeps {Kept : Session → Prop}
    (kept : ∀ (operation : Operation) session, Kept session → Kept (operation.step session).after)
    (operations : List Operation) {session : Session} (start : Kept session) :
    Kept (afterRun operations session) := by
  induction operations generalizing session with
  | nil => exact start
  | cons operation operations inductionHypothesis =>
    exact inductionHypothesis (kept operation session start)

/-- An amount that each step raises by its gain is raised by the gains of the whole run. -/
theorem afterRun_add (amount : Session → Nat) (gain : Step → Nat) (operations : List Operation)
    {session : Session}
    (gains : ∀ step ∈ run operations session,
      amount step.after = amount step.before + gain step) :
    amount (afterRun operations session) =
      amount session + ((run operations session).map gain).sum := by
  induction operations generalizing session with
  | nil => rfl
  | cons operation operations inductionHypothesis =>
    obtain ⟨first, others⟩ := List.forall_mem_cons.1 gains
    refine (inductionHypothesis others).trans ?_
    rw [first, run, List.map_cons, List.sum_cons, Nat.add_assoc]
    rfl

/-- A record to which each step adds its part has been given all parts of the run, in order. -/
theorem afterRun_append {α : Type} (record : Session → List α) (part : Step → List α)
    (operations : List Operation) {session : Session}
    (parts : ∀ step ∈ run operations session,
      record step.after = record step.before ++ part step) :
    record (afterRun operations session) =
      record session ++ (run operations session).flatMap part := by
  induction operations generalizing session with
  | nil => exact (List.append_nil _).symm
  | cons operation operations inductionHypothesis =>
    obtain ⟨first, others⟩ := List.forall_mem_cons.1 parts
    refine (inductionHypothesis others).trans ?_
    rw [first, run, List.flatMap_cons, List.append_assoc]
    rfl

end ThreadHost.Session
