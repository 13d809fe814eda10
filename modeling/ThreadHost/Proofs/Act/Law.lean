import ThreadHost.Waiting
/-!
# Laws of acts

A law relates the state before an act, the way the act ends, and the state after it. It holds of
doing nothing, and of two acts in a row of which it holds. So an act that is put together from acts
which obey a law obeys the law as well: what all operations have in common is proved of the
accesses that they consist of, and of nothing above them.
-/

namespace ThreadHost.Act

variable {σ τ α β : Type}

/-- How an act ended: with a failure, or with an answer. -/
def ending : Except Failure α → Option Failure
  | .ok _ => none
  | .error failure => some failure

/-- Behind a failure nothing more is done. -/
theorem perform_bind_error {act : Act σ α} {next : α → Act σ β} {before after : σ}
    {failure : Failure} (failed : act.perform before = (.error failure, after)) :
    (act >>= next).perform before = (.error failure, after) := by
  rw [perform_bind, failed]

/-- What is left behind an act that is followed by another one in any case. -/
theorem snd_perform_thenAlways (act : Act σ α) (last : Act σ Unit) (state : σ) :
    ((act.thenAlways last).perform state).2 = (last.perform (act.perform state).2).2 := by
  have run : (act.thenAlways last).perform state = act.thenAlways last state := rfl
  rw [run, thenAlways]
  rcases act.perform state with ⟨outcome, middle⟩
  simp only
  rcases last.perform middle with ⟨later | _, after⟩ <;> rfl

/-- An act that is followed by one that ends well has the outcome that it has by itself. -/
theorem perform_thenAlways_of_ok {act : Act σ α} {last : Act σ Unit} {state : σ}
    (endsWell : (last.perform (act.perform state).2).1 = .ok ()) :
    (act.thenAlways last).perform state =
      ((act.perform state).1, (last.perform (act.perform state).2).2) := by
  have run : (act.thenAlways last).perform state = act.thenAlways last state := rfl
  rw [run, thenAlways]
  rcases performed : act.perform state with ⟨outcome, middle⟩
  rw [performed] at endsWell
  rcases finished : last.perform middle with ⟨later | _, after⟩
  · rw [finished] at endsWell
    cases endsWell
  · simp only [finished]

/-- What holds between the state before an act, its ending, and the state after it. -/
structure Law (σ : Type) where
  Holds : σ → Option Failure → σ → Prop
  refl : ∀ state, Holds state none state
  trans : ∀ {before middle after : σ} {ending : Option Failure},
    Holds before none middle → Holds middle ending after → Holds before ending after

namespace Law

variable {law : Law σ}

/-- An act obeys a law in every state. -/
def Obeyed (law : Law σ) (act : Act σ α) : Prop :=
  ∀ state, law.Holds state (ending (act.perform state).1) (act.perform state).2

/-- An act obeys a law in one state. -/
def ObeyedAt (law : Law σ) (act : Act σ α) (state : σ) : Prop :=
  law.Holds state (ending (act.perform state).1) (act.perform state).2

/-- A law that does not look at how an act ended. -/
def Blind (law : Law σ) : Prop :=
  ∀ {before after : σ} {ending : Option Failure} (other : Option Failure),
    law.Holds before ending after → law.Holds before other after

theorem obeyed_pure (value : α) : law.Obeyed (pure value) := law.refl

theorem obeyed_get : law.Obeyed (get : Act σ σ) := law.refl

/-- A failure that the law allows in every state. -/
theorem obeyed_throw {failure : Failure} (may : ∀ state, law.Holds state (some failure) state) :
    law.Obeyed (throw failure : Act σ α) := may

/-- Two acts, one after the other. Behind a failure of the first there is nothing more. -/
theorem ObeyedAt.bind {act : Act σ α} {next : α → Act σ β} {state : σ}
    (first : law.ObeyedAt act state) (rest : ∀ value, law.Obeyed (next value)) :
    law.ObeyedAt (act >>= next) state := by
  unfold ObeyedAt at first ⊢
  rw [perform_bind]
  generalize act.perform state = result at first
  obtain ⟨failure | value, middle⟩ := result
  · exact first
  · exact law.trans first (rest value middle)

theorem Obeyed.bind {act : Act σ α} {next : α → Act σ β} (first : law.Obeyed act)
    (rest : ∀ value, law.Obeyed (next value)) : law.Obeyed (act >>= next) :=
  fun state => ObeyedAt.bind (first state) rest

/-- An act that depends on the state in which it begins. -/
theorem obeyed_get_bind {next : σ → Act σ α} (each : ∀ state, law.ObeyedAt (next state) state) :
    law.Obeyed (get >>= next) := each

/-- Changing the answer of an act. -/
theorem Obeyed.map {act : Act σ α} (inner : law.Obeyed act) (change : α → β) :
    law.Obeyed (change <$> act) := by
  intro state
  have here := inner state
  rw [perform_map]
  generalize act.perform state = result at here
  obtain ⟨_ | _, _⟩ := result <;> exact here

/-- An act whose failure is caught. -/
theorem Obeyed.attempt {act : Act σ α} (blind : law.Blind) (inner : law.Obeyed act) :
    law.Obeyed act.attempt := fun state => blind none (inner state)

/-- A decision between two acts. -/
theorem Obeyed.ite {condition : Prop} [Decidable condition] {yes no : Act σ α}
    (ifTrue : law.Obeyed yes) (ifFalse : law.Obeyed no) :
    law.Obeyed (if condition then yes else no) := by
  split
  · exact ifTrue
  · exact ifFalse

/-- An outcome that is there already, if the law allows its failure. -/
theorem obeyed_ofExcept {outcome : Except Failure α}
    (may : ∀ failure, outcome = .error failure → ∀ state, law.Holds state (some failure) state) :
    law.Obeyed (Act.ofExcept outcome) := by
  cases outcome with
  | ok value => exact law.refl
  | error failure => exact may failure rfl

/-- A pure outcome whose fault goes on as it is. -/
theorem obeyed_ofFault {outcome : Except Fault α}
    (may : ∀ fault, outcome = .error fault →
      ∀ state, law.Holds state (some (.plain fault)) state) :
    law.Obeyed (Act.ofFault outcome) := by
  cases outcome with
  | ok value => exact law.refl
  | error fault => exact may fault rfl

/-- The same act for each item, one item after the other. -/
theorem obeyed_forM {act : α → Act σ PUnit} (items : List α)
    (each : ∀ item ∈ items, law.Obeyed (act item)) : law.Obeyed (items.forM act) := by
  induction items with
  | nil => exact law.refl
  | cons item items inductionHypothesis =>
    exact (each item List.mem_cons_self).bind fun _ =>
      inductionHypothesis fun other member => each other (List.mem_cons_of_mem _ member)

/-- An answer for each item, one item after the other. -/
theorem obeyed_mapM {act : α → Act σ β} (items : List α)
    (each : ∀ item ∈ items, law.Obeyed (act item)) : law.Obeyed (items.mapM act) := by
  induction items with
  | nil => exact law.refl
  | cons item items inductionHypothesis =>
    rw [List.mapM_cons]
    exact (each item List.mem_cons_self).bind fun _ =>
      (inductionHypothesis fun other member => each other (List.mem_cons_of_mem _ member)).bind
        fun _ => obeyed_pure _

/-- A wait obeys what its checks, the pauses it makes and its end for lack of time obey. -/
theorem obeyed_waitUntil {clock : Waiting.Clock σ Float} {check : Act σ Bool}
    {deadline interval : Float} {expired : Failure} (checked : law.Obeyed check)
    (paused : ∀ remaining, ¬remaining ≤ 0 →
      law.Obeyed (clock.pause (Waiting.pauseLength interval remaining)))
    (may : ∀ state, law.Holds state (some expired) state) (checks : Nat) :
    law.Obeyed (Waiting.waitUntil clock check deadline interval expired checks) := by
  induction checks with
  | zero => exact obeyed_pure _
  | succ checks inductionHypothesis =>
    refine checked.bind fun ok => .ite (obeyed_pure _) (obeyed_get.bind fun state => ?_)
    -- A pause is made only while there is time left.
    by_cases ended : deadline - clock.now state ≤ 0
    · simp only [if_pos ended]
      exact obeyed_throw may
    · simp only [if_neg ended]
      exact (paused _ ended).bind fun _ => inductionHypothesis

/-- What an act leaves as it is. -/
def keeping (part : σ → β) : Law σ where
  Holds before _ after := part after = part before
  refl _ := rfl
  trans first second := second.trans first

/-- A law of a part of the state, as one of the whole state. -/
def ofPart (part : σ → τ) (law : Law τ) : Law σ where
  Holds before ending after := law.Holds (part before) ending (part after)
  refl state := law.refl (part state)
  trans := law.trans

/-- What is good stays good, and an act fails only as it may. -/
def safe (Good : σ → Prop) (May : Failure → Prop) : Law σ where
  Holds before ending after :=
    Good before → Good after ∧ ∀ failure, ending = some failure → May failure
  refl _ good := ⟨good, by rintro _ ⟨⟩⟩
  trans first second good := second (first good).1

section Safe

variable {Good : σ → Prop} {May May' : Failure → Prop} {before after : σ}

/-- An act that ends well, and leaves what is good. -/
theorem safe_of_kept (kept : Good before → Good after) : (safe Good May).Holds before none after :=
  fun good => ⟨kept good, by rintro _ ⟨⟩⟩

/-- A failure that may be, and leaves what is good. -/
theorem safe_of_failure {failure : Failure} (may : May failure) (kept : Good before → Good after) :
    (safe Good May).Holds before (some failure) after :=
  fun good => ⟨kept good, fun _ same => Option.some.inj same ▸ may⟩

/-- What fails only in some ways fails only in ways among which these are. -/
theorem Obeyed.weaken {act : Act σ α} (inner : (safe Good May).Obeyed act)
    (weaker : ∀ failure, May failure → May' failure) : (safe Good May').Obeyed act :=
  fun state good => (inner state good).imp_right fun may failure failed =>
    weaker failure (may failure failed)

/-- Behind an act whose failure is caught, that failure is one that may be. -/
theorem Obeyed.attempt_bind {act : Act σ α} {next : Except Failure α → Act σ β}
    (first : (safe Good May').Obeyed act) (answered : ∀ value, (safe Good May).Obeyed (next (.ok value)))
    (failed : ∀ failure, May' failure → (safe Good May).Obeyed (next (.error failure))) :
    (safe Good May).Obeyed (act.attempt >>= next) := by
  intro state good
  have here := first state good
  rw [perform_bind, perform_attempt]
  rcases performed : act.perform state with ⟨failure | value, middle⟩
  · rw [performed] at here
    exact failed failure (here.2 failure rfl) middle here.1
  · rw [performed] at here
    exact answered value middle here.1

end Safe

/-- An act on a part obeys on the whole what it obeys on the part. -/
theorem obeyed_onPart {part : σ → τ} {put : τ → σ → σ} {law : Law τ} {act : Act τ α}
    (puts : ∀ inner whole, part (put inner whole) = inner) (obeyed : law.Obeyed act) :
    (law.ofPart part).Obeyed (Act.onPart part put act) := by
  intro state
  have inner := obeyed (part state)
  rw [perform_onPart]
  change law.Holds (part state) _ (part (put _ state))
  rw [puts]
  exact inner

end Law

end ThreadHost.Act
