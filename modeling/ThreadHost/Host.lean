import ThreadHost.Failure
/-!
# The host

What an operation on a device can change outside of it: the clock, the record of pauses, and the
record of calls to the operating system. Which pauses the clock takes and how much memory holds
depends on the platform. Operations are functions on a state that either answer or fail; the state
they leave behind is kept in both cases.
-/

namespace ThreadHost

/-- An operation on a state that answers or fails. -/
abbrev Act (σ α : Type) := ExceptT Failure (StateM σ) α

/-- The outcome of an operation and the state it leaves behind. -/
def Act.perform {σ α : Type} (act : Act σ α) (state : σ) : Except Failure α × σ :=
  (ExceptT.run act).run state

/-- Whatever a pure outcome is, as an operation that changes nothing. -/
def Act.ofExcept {σ α : Type} : Except Failure α → Act σ α
  | .ok value => pure value
  | .error failure => throw failure

/-- Fail with a fault as it is. -/
def Act.refuse {σ α : Type} (fault : Fault) : Act σ α := throw (.plain fault)

/-- Whatever a pure outcome is, its fault as it is. -/
def Act.ofFault {σ α : Type} : Except Fault α → Act σ α
  | .ok value => pure value
  | .error fault => Act.refuse fault

/-- Run an operation for its outcome, which never fails. -/
def Act.attempt {σ α : Type} (act : Act σ α) : Act σ (Except Failure α) := fun state =>
  let (outcome, after) := act.perform state
  (.ok outcome, after)

/-- Run an operation on a part of the state. -/
def Act.onPart {σ τ α : Type} (part : σ → τ) (put : τ → σ → σ) (act : Act τ α) : Act σ α :=
  fun state =>
    let (outcome, after) := act.perform (part state)
    (outcome, put after state)

/-- Run an operation and then another one, whether the first answered or failed. A failure of the
second one hides the outcome of the first. -/
def Act.thenAlways {σ α : Type} (act : Act σ α) (last : Act σ Unit) : Act σ α := fun state =>
  let (outcome, middle) := act.perform state
  match last.perform middle with
  | (.ok (), after) => (outcome, after)
  | (.error failure, after) => (.error failure, after)

/-- Run an operation; when it fails, run another one before the failure goes on. A failure of the
second one hides that of the first. -/
def Act.onFailure {σ α : Type} (act : Act σ α) (cleanUp : Act σ Unit) : Act σ α := fun state =>
  match act.perform state with
  | (.ok value, after) => (.ok value, after)
  | (.error failure, middle) =>
    match cleanUp.perform middle with
    | (.ok (), after) => (.error failure, after)
    | (.error later, after) => (.error later, after)

namespace Act

variable {σ τ α β : Type}

@[simp] theorem perform_pure (value : α) (state : σ) :
    (pure value : Act σ α).perform state = (.ok value, state) := rfl

@[simp] theorem perform_throw (failure : Failure) (state : σ) :
    (throw failure : Act σ α).perform state = (.error failure, state) := rfl

@[simp] theorem perform_refuse (fault : Fault) (state : σ) :
    (Act.refuse fault : Act σ α).perform state = (.error (.plain fault), state) := rfl

/-- An operation that is followed by another one goes on only where it answers. -/
theorem perform_bind (act : Act σ α) (next : α → Act σ β) (state : σ) :
    (act >>= next).perform state =
      match act.perform state with
      | (.ok value, after) => (next value).perform after
      | (.error failure, after) => (.error failure, after) := by
  simp only [Act.perform, ExceptT.run_bind, StateT.run_bind]
  rcases StateT.run (ExceptT.run act) state with ⟨_ | _, _⟩ <;> rfl

/-- Where two operations answer one after the other, the first has answered. -/
theorem of_perform_bind_ok {act : Act σ α} {next : α → Act σ β} {state after : σ} {value : β}
    (answered : (act >>= next).perform state = (.ok value, after)) :
    ∃ first middle, act.perform state = (.ok first, middle) ∧
      (next first).perform middle = (.ok value, after) := by
  rw [perform_bind] at answered
  cases result : act.perform state with
  | mk outcome middle =>
    rw [result] at answered
    cases outcome with
    | error failure => cases answered
    | ok first => exact ⟨first, middle, rfl, answered⟩

/-- Changing the answer changes neither a failure nor the state. -/
@[simp] theorem perform_map (change : α → β) (act : Act σ α) (state : σ) :
    (change <$> act).perform state =
      ((act.perform state).1.map change, (act.perform state).2) := by
  rw [map_eq_pure_bind, perform_bind]
  rcases act.perform state with ⟨_ | _, _⟩ <;> rfl

@[simp] theorem perform_get (state : σ) : (get : Act σ σ).perform state = (.ok state, state) := rfl

@[simp] theorem perform_set (after state : σ) :
    (set after : Act σ PUnit).perform state = (.ok ⟨⟩, after) := rfl

@[simp] theorem perform_modify (change : σ → σ) (state : σ) :
    (modify change : Act σ PUnit).perform state = (.ok ⟨⟩, change state) := rfl

@[simp] theorem perform_onPart (part : σ → τ) (put : τ → σ → σ) (act : Act τ α) (state : σ) :
    (Act.onPart part put act).perform state =
      ((act.perform (part state)).1, put (act.perform (part state)).2 state) := rfl

@[simp] theorem perform_attempt (act : Act σ α) (state : σ) :
    act.attempt.perform state = (.ok (act.perform state).1, (act.perform state).2) := rfl

end Act

/-- A call to the operating system. -/
inductive Call where
  | spawn (arguments : List Datum)
  | closeInput
  | closeOutput
  | poll
  | terminate
  | wait (limit : Option Float)
  | kill
  | openPort (name baud : Datum) (writeTimeout : Option Float)
  | discardInput
  | closePort
  deriving Repr, DecidableEq

/-- What a host runs on. -/
structure Platform where
  /-- Why the clock does not take a pause of some length, other than that it is negative. -/
  refuses : Float → Option PauseRefusal := fun _ => none
  /-- Whether memory holds so many bytes in one piece. -/
  holds : Nat → Bool := fun _ => true

/-- The clock in seconds, and what was done, oldest first. -/
structure Host where
  clock : Float := 0
  pauses : List Float := []
  calls : List Call := []
  platform : Platform := {}

namespace Host

/-- Record a call. -/
def record (host : Host) (call : Call) : Host := { host with calls := host.calls ++ [call] }

/-- Let time pass. -/
def advance (host : Host) (seconds : Float) : Host := { host with clock := host.clock + seconds }

/-- Why there is no pause of some seconds. -/
def pauseRefusal? (host : Host) (seconds : Float) : Option PauseRefusal :=
  (host.platform.refuses seconds).or (if seconds < 0 then some .negative else none)

/-- The host behind a pause. -/
def paused (host : Host) (seconds : Float) : Host :=
  { host.advance seconds with pauses := host.pauses ++ [seconds] }

/-- Pause for some seconds. -/
def pause (seconds : Float) : Act Host Unit := do
  match (← get).pauseRefusal? seconds with
  | some refusal => Act.refuse (.pause refusal)
  | none => modify (·.paused seconds)

/-- What is not negative is refused by the platform, if at all. -/
theorem pauseRefusal?_of_not_negative {seconds : Float} (notNegative : ¬seconds < 0)
    (host : Host) : host.pauseRefusal? seconds = host.platform.refuses seconds := by
  rw [pauseRefusal?, if_neg notNegative, Option.or_none]

/-- A pause is refused, or time passes. -/
theorem perform_pause (seconds : Float) (host : Host) :
    (pause seconds).perform host =
      match host.pauseRefusal? seconds with
      | some refusal => (.error (.plain (.pause refusal)), host)
      | none => (.ok (), host.paused seconds) := by
  unfold pause
  rw [Act.perform_bind, Act.perform_get]
  simp only
  cases host.pauseRefusal? seconds <;> rfl

end Host

end ThreadHost
