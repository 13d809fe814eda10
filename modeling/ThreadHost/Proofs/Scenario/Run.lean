import ThreadHost.Proofs.Act.Law
import ThreadHost.Scenario.Catalogue
/-!
# Scenarios that are run

A scenario is its body and what becomes of the report behind it. `Settles` says how the way in which
the body ended goes into the report, and `settles_of_run` that a scenario which is reported was
settled so. What a body obeys is put together from what its acts on the state and its notes obey:
`obeyed_onState` and `obeyed_report`.
-/

namespace ThreadHost

namespace Report

variable (report : Report) (step : Step) (verdict : Verdict)

/-- A note adds its step; one that did not pass turns a passed report into a failed one. -/
theorem note_eq :
    report.note step = { report with
      steps := report.steps ++ [step]
      verdict :=
        if step.passed = false ∧ report.verdict = .passed then .failed else report.verdict } := by
  cases passed : step.passed <;> by_cases soFar : report.verdict = .passed <;>
    simp [note, addStep, passed, soFar]

@[simp] theorem steps_note : (report.note step).steps = report.steps ++ [step] := by
  rw [note_eq]

@[simp] theorem verdict_note :
    (report.note step).verdict =
      if step.passed = false ∧ report.verdict = .passed then .failed else report.verdict := by
  rw [note_eq]

@[simp] theorem name_note : (report.note step).name = report.name := by
  rw [note_eq]

@[simp] theorem description_note : (report.note step).description = report.description := by
  rw [note_eq]

@[simp] theorem steps_conclude : (report.conclude verdict).steps = report.steps := rfl

@[simp] theorem verdict_conclude : (report.conclude verdict).verdict = verdict := rfl

@[simp] theorem name_conclude : (report.conclude verdict).name = report.name := rfl

@[simp] theorem description_conclude :
    (report.conclude verdict).description = report.description := rfl

end Report

namespace Scenario

open Act (Law)

variable {σ α : Type} {scenario : Scenario σ} {state : σ}

/-- A scenario before anything was done. -/
def fresh (scenario : Scenario σ) (state : σ) : Underway σ :=
  ⟨state, { name := scenario.name, description := scenario.description }⟩

/-- What the body of a scenario does on a state. -/
def course (scenario : Scenario σ) (state : σ) : Except Failure Unit × Underway σ :=
  scenario.body.perform (scenario.fresh state)

/-- The failure that ended the body, if one did. -/
def caught (scenario : Scenario σ) (state : σ) : Option Failure :=
  Act.ending (scenario.course state).1

/-- A run carries out the body and settles the report. -/
theorem perform_run (clock : σ → Float) (scenario : Scenario σ) (state : σ) :
    (run clock scenario).perform state =
      ((outcome (scenario.course state).2.report (scenario.course state).1).map
        ({ · with duration := clock (scenario.course state).2.state - clock state }),
        (scenario.course state).2.state) := rfl

/-- An act on the state leaves the report alone. -/
theorem perform_onState (act : Act σ α) (underway : Underway σ) :
    (onState act).perform underway =
      ((act.perform underway.state).1,
        { underway with state := (act.perform underway.state).2 }) := rfl

/-- An act on the state that was answered. -/
theorem of_onState_ok {act : Act σ α} {before after : Underway σ} {value : α}
    (answered : (onState act).perform before = (.ok value, after)) :
    act.perform before.state = (.ok value, after.state) ∧ after.report = before.report := by
  rw [perform_onState] at answered
  obtain ⟨outcome, rest⟩ := Prod.mk.inj answered
  subst rest
  exact ⟨Prod.ext outcome rfl, rfl⟩

/-- A note goes into the report and leaves the state alone. -/
theorem perform_note (step : Step) (underway : Underway σ) :
    (note step : Act (Underway σ) Unit).perform underway =
      (.ok (), { underway with report := underway.report.note step }) := rfl

/-- A note that was taken. -/
theorem of_note_ok {step : Step} {before after : Underway σ} {value : Unit}
    (noted : (note step : Act (Underway σ) Unit).perform before = (.ok value, after)) :
    after.state = before.state ∧ after.report = before.report.note step := by
  obtain rfl := (Prod.mk.inj noted).2
  exact ⟨rfl, rfl⟩

/-- What a law of the state says of an act, it says of the act within a scenario. -/
theorem obeyed_onState {law : Law σ} {act : Act σ α} (obeyed : law.Obeyed act) :
    (law.ofPart Underway.state).Obeyed (onState act) :=
  Law.obeyed_onPart (fun _ _ => rfl) obeyed

/-- A change of the report is nothing to a law of the state. -/
theorem obeyed_report {law : Law σ} (change : Report → Report) :
    (law.ofPart Underway.state).Obeyed (Scenario.report change) :=
  fun underway => law.refl underway.state

/-- Failures that end a scenario with an error. -/
def isError (failure : Failure) : Bool := failure.isDeviceError || failure.isLink

/-- An expired wait. -/
def isExpired : Failure → Bool
  | .plain (.waitExpired ..) => true
  | _ => false

/-- How the report of a body is settled, depending on the way in which the body ended: a failure
adds a step that did not pass, and an error is the verdict whatever it was before. -/
inductive Settles (report : Report) : Option Failure → Report → Prop where
  | finished : Settles report none report
  | expired {failure : Failure} {step : Step} (expired : isExpired failure = true)
      (unpassed : step.passed = false) : Settles report (some failure) (report.note step)
  | broken {failure : Failure} {step : Step} (error : isError failure = true)
      (unpassed : step.passed = false) :
      Settles report (some failure) ((report.note step).conclude .error)

/-- A failure is settled if it is an expired wait or an error, and otherwise goes on. -/
theorem settle_cases (report : Report) (failure : Failure) :
    (∃ settled, settle report failure = some settled ∧ Settles report (some failure) settled) ∨
      settle report failure = none ∧ isExpired failure = false ∧ isError failure = false := by
  cases failure with
  | plain fault =>
    cases fault with
    | waitExpired limit description => exact .inl ⟨_, rfl, .expired rfl rfl⟩
    | _ => exact .inr ⟨rfl, rfl, rfl⟩
  | link problem cause => exact .inl ⟨_, rfl, .broken rfl rfl⟩
  | writeRejected command cause => exact .inl ⟨_, rfl, .broken rfl rfl⟩
  | readFailed command reason cause => exact .inl ⟨_, rfl, .broken rfl rfl⟩
  | deviceError command line problem cause => exact .inl ⟨_, rfl, .broken rfl rfl⟩

/-- A body that no failure ended has ended well. -/
theorem ending_eq_none_iff {ending : Except Failure Unit} :
    Act.ending ending = none ↔ ending = .ok () := by
  cases ending <;> simp [Act.ending]

/-- A report that is given has been settled. -/
theorem settles_of_outcome {report settled : Report} {ending : Except Failure Unit}
    (given : outcome report ending = .ok settled) :
    Settles report (Act.ending ending) settled := by
  cases ending with
  | ok value =>
    cases given
    exact .finished
  | error failure =>
    simp only [outcome] at given
    rcases settle_cases report failure with ⟨other, found, settles⟩ | ⟨lost, -⟩
    · rw [found] at given
      cases given
      exact settles
    · rw [lost] at given
      cases given

/-- The report of a run is that of the body, settled and with the time that the run took. -/
theorem settles_of_run {clock : σ → Float} {report : Report} {after : σ}
    (ran : (run clock scenario).perform state = (.ok report, after)) :
    (∃ settled duration, Settles (scenario.course state).2.report (scenario.caught state) settled ∧
        report = { settled with duration }) ∧
      after = (scenario.course state).2.state := by
  rw [perform_run] at ran
  obtain ⟨given, rest⟩ := Prod.mk.inj ran
  refine ⟨?_, rest.symm⟩
  cases settled : outcome (scenario.course state).2.report (scenario.course state).1 with
  | error failure =>
    rw [settled] at given
    cases given
  | ok other =>
    rw [settled] at given
    cases given
    exact ⟨other, _, settles_of_outcome settled, rfl⟩

/-- What the operations of all scenarios obey, and every note of a step that passed. -/
structure Acting (law : Law (Underway Session)) (dataset : Dataset)
    (timeout : Except Fault Float) : Prop where
  resets : law.Obeyed (onState Session.factoryReset)
  joins : law.Obeyed (onState (Session.join dataset))
  asks : law.Obeyed (onState Session.getState)
  looksUp : law.Obeyed (onState (Session.getOffMeshAddress (some dataset)))
  stops : law.Obeyed (onState Session.stopRadio)
  waits : ∀ roles, law.Obeyed (waitForRole roles timeout)
  notes : ∀ step : Step, step.passed = true → law.Obeyed (note step)

namespace Acting

variable {law : Law (Underway Session)} {dataset : Dataset} {timeout : Except Fault Float}

theorem formNetwork (acting : Acting law dataset timeout) :
    law.Obeyed (formNetwork dataset timeout).body :=
  acting.resets.bind fun _ => (acting.waits _).bind fun _ => (acting.notes _ rfl).bind fun _ =>
    acting.joins.bind fun _ => (acting.notes _ rfl).bind fun _ => (acting.waits _).bind fun _ =>
      acting.asks.bind fun _ => acting.notes _ rfl

theorem stopRadio (acting : Acting law dataset timeout) :
    law.Obeyed (Scenario.stopRadio timeout).body :=
  acting.stops.bind fun _ => (acting.notes _ rfl).bind fun _ => (acting.waits _).bind fun _ =>
    acting.notes _ rfl

/-- The scenario that looks an address up notes a step that did not pass, and can be skipped. -/
theorem offMeshAddress (acting : Acting law dataset timeout)
    (reports : ∀ step, law.Obeyed (note step)) (skips : law.Obeyed (conclude .skipped)) :
    law.Obeyed (offMeshAddress dataset).body := by
  refine acting.asks.bind fun role => (reports _).bind fun _ => .ite ?_ (Law.obeyed_pure _)
  refine acting.looksUp.bind fun found => ?_
  cases found with
  | none => exact (reports _).bind fun _ => skips
  | some address => exact reports _

/-- A law of the operations is one of the body of every scenario. -/
theorem body {scenario : Scenario Session} (acting : Acting law dataset timeout)
    (reports : ∀ step, law.Obeyed (note step)) (skips : law.Obeyed (conclude .skipped))
    (listed : scenario ∈ all dataset timeout) : law.Obeyed scenario.body := by
  simp only [all, List.mem_cons, List.not_mem_nil, or_false] at listed
  rcases listed with rfl | rfl | rfl
  · exact acting.formNetwork
  · exact acting.offMeshAddress reports skips
  · exact acting.stopRadio

end Acting

end Scenario

end ThreadHost
