import ThreadHost.Proofs.Scenario.Run
import ThreadHost.Proofs.Dataset.Records
import ThreadHost.Proofs.Session.Reference
/-!
# Verdicts and steps

The verdict of a report is changed by notes, by the end of the body and by the body itself.
`run_judged` says what it comes to: which steps may have failed, and when each verdict is given.
Until something goes wrong a report is `Clean`; two of the three bodies leave it so, and the third
says in `Finds` where it does not.
-/

namespace ThreadHost

namespace Report

variable {report : Report} {step : Step}

/-- So far all steps passed, and the verdict says so. -/
structure Clean (report : Report) : Prop where
  verdict : report.verdict = .passed
  steps : ∀ step ∈ report.steps, step.passed = true

theorem Clean.note (clean : report.Clean) (passed : step.passed = true) :
    (report.note step).Clean where
  verdict := by simp [passed, clean.verdict]
  steps other member := by
    rcases List.mem_append.1 (report.steps_note step ▸ member) with earlier | last
    · exact clean.steps other earlier
    · exact List.mem_singleton.1 last ▸ passed

/-- The first step that did not pass turns a clean report into a failed one. -/
theorem Clean.verdict_unpassed (clean : report.Clean) (unpassed : step.passed = false) :
    (report.note step).verdict = .failed := by
  simp [unpassed, clean.verdict]

/-- How the verdict of a report goes with its steps: at most the last one did not pass, and the
verdict is a good one if it did. -/
structure Consistent (report : Report) : Prop where
  counts : report.passedCount + report.failedCount = report.steps.length
  onlyLast : ∀ step ∈ report.steps.dropLast, step.passed = true
  good_iff : report.verdict = .passed ∨ report.verdict = .skipped ↔
    ∀ step ∈ report.steps, step.passed = true

/-- Each step passed or failed. -/
theorem passedCount_add_failedCount (report : Report) :
    report.passedCount + report.failedCount = report.steps.length := by
  have split := List.length_eq_countP_add_countP (p := Step.passed) (l := report.steps)
  simpa [passedCount, failedCount] using split.symm

/-- A good verdict on steps that all passed. -/
theorem Consistent.of_passed (all : ∀ step ∈ report.steps, step.passed = true)
    (good : report.verdict = .passed ∨ report.verdict = .skipped) : report.Consistent where
  counts := report.passedCount_add_failedCount
  onlyLast step member := all step ((List.dropLast_sublist _).subset member)
  good_iff := ⟨fun _ => all, fun _ => good⟩

/-- A bad verdict on steps of which the last did not pass. -/
theorem Consistent.of_unpassed {steps : List Step} (division : report.steps = steps ++ [step])
    (earlier : ∀ other ∈ steps, other.passed = true) (unpassed : step.passed = false)
    (bad : report.verdict = .failed ∨ report.verdict = .error) : report.Consistent where
  counts := report.passedCount_add_failedCount
  onlyLast := by
    rw [division, List.dropLast_concat]
    exact earlier
  good_iff := by
    have someUnpassed : ¬∀ other ∈ report.steps, other.passed = true := fun all => by
      simp [all step (division ▸ List.mem_append_right _ List.mem_cons_self)] at unpassed
    rcases bad with failed | error
    · simpa [failed] using someUnpassed
    · simpa [error] using someUnpassed

end Report

namespace Scenario

open Act (Law)
open Session (getState getOffMeshAddress onOutput)

variable {dataset : Dataset} {timeout : Except Fault Float} {scenario : Scenario Session}
  {session middle after : Session} {report settled : Report} {ending : Option Failure}
  {role : String}

/-- A clean report stays clean. -/
def clean : Law (Underway Session) where
  Holds before _ after := before.report.Clean → after.report.Clean
  refl _ := id
  trans first second := second ∘ first

theorem onState_clean {α : Type} (act : Act Session α) : clean.Obeyed (onState act) := fun _ => id

/-- Only a note of a step that did not pass, and a verdict, can do harm to a report. -/
theorem acting_clean : Acting clean dataset timeout where
  resets := onState_clean _
  joins := onState_clean _
  asks := onState_clean _
  looksUp := onState_clean _
  stops := onState_clean _
  waits _ := (Law.obeyed_ofFault fun _ _ _ => id).bind fun _ => onState_clean _
  notes _ passed _ soFar := soFar.note passed

theorem fresh_clean (scenario : Scenario Session) (session : Session) :
    (scenario.fresh session).report.Clean where
  verdict := rfl
  steps _ member := nomatch member

/-- The device was asked for its role and told one in which it is not attached. -/
def FindsDetached (dataset : Dataset) (scenario : Scenario Session) (session : Session) : Prop :=
  scenario = offMeshAddress dataset ∧
    ∃ role after, getState.perform session = (.ok role, after) ∧ role ∉ attachedRoles

/-- The device was asked for its role, is attached, and lists no address that is reachable from
outside the mesh. -/
def FindsNoAddress (dataset : Dataset) (scenario : Scenario Session) (session : Session) : Prop :=
  scenario = offMeshAddress dataset ∧
    ∃ role middle after, getState.perform session = (.ok role, middle) ∧ role ∈ attachedRoles ∧
      (getOffMeshAddress (some dataset)).perform middle = (.ok none, after)

/-- There is one answer to the question for the role. -/
theorem FindsDetached.unattached (found : FindsDetached dataset scenario session)
    (answered : getState.perform session = (.ok role, middle)) : role ∉ attachedRoles := by
  obtain ⟨-, other, after, told, unattached⟩ := found
  rw [answered] at told
  cases told
  exact unattached

theorem FindsNoAddress.attached (found : FindsNoAddress dataset scenario session)
    (answered : getState.perform session = (.ok role, middle)) : role ∈ attachedRoles := by
  obtain ⟨-, other, between, after, told, isAttached, -⟩ := found
  rw [answered] at told
  cases told
  exact isAttached

theorem FindsNoAddress.looked (found : FindsNoAddress dataset scenario session)
    (answered : getState.perform session = (.ok role, middle)) :
    ((getOffMeshAddress (some dataset)).perform middle).1 = .ok none := by
  obtain ⟨-, other, between, after, told, -, looked⟩ := found
  rw [answered] at told
  cases told
  rw [looked]

/-- A device that is not attached is asked for no address. -/
theorem FindsDetached.not_noAddress (detached : FindsDetached dataset scenario session) :
    ¬FindsNoAddress dataset scenario session := by
  intro found
  obtain ⟨-, role, after, answered, unattached⟩ := detached
  exact unattached (found.attached answered)

/-- How the body leaves the report, with the failure that ended it: clean, unless the device was
found detached or without an address. -/
inductive Finds (dataset : Dataset) (scenario : Scenario Session) (session : Session) :
    Option Failure → Report → Prop where
  | clean {ending : Option Failure} {report : Report} (clean : report.Clean)
      (attached : ¬FindsDetached dataset scenario session)
      (address : ¬FindsNoAddress dataset scenario session) :
      Finds dataset scenario session ending report
  | detached {report : Report} {step : Step} (clean : report.Clean) (unpassed : step.passed = false)
      (detached : FindsDetached dataset scenario session) :
      Finds dataset scenario session none (report.note step)
  | noAddress {report : Report} (clean : report.Clean)
      (noAddress : FindsNoAddress dataset scenario session) :
      Finds dataset scenario session none (report.conclude .skipped)

/-- A scenario whose body obeys the law, and which is not the one that looks an address up. -/
theorem finds_of_obeyed (obeyed : clean.Obeyed scenario.body)
    (other : scenario.name ≠ (offMeshAddress dataset).name) :
    Finds dataset scenario session (scenario.caught session) (scenario.course session).2.report :=
  .clean (obeyed _ (fresh_clean scenario session)) (fun found => other (found.1 ▸ rfl))
    (fun found => other (found.1 ▸ rfl))

/-- The step in which a device told its role. -/
def asked (role : String) : Step :=
  ⟨"Attached", attachedRoles.contains role, "state=" ++ role, []⟩

/-- The step of a device that lists no address that is reachable from outside the mesh. -/
def withoutAddress : Step := ⟨"OMR address", true, "No OMR prefix on this network", []⟩

/-- The step of an address that was found. -/
def withAddress (address : Address.Ipv6) : Step :=
  ⟨"OMR address", true, "Found " ++ address.text, [("address", .text address.text)]⟩

/-- Behind a role that was not told nothing is done. -/
theorem offMeshAddress_unanswered {failure : Failure}
    (unanswered : getState.perform session = (.error failure, middle)) :
    (offMeshAddress dataset).course session =
      (.error failure, { (offMeshAddress dataset).fresh session with state := middle }) := by
  simp [course, offMeshAddress, Act.perform_bind, perform_onState, fresh, unanswered]

/-- Behind the role of a device that is not attached nothing is done. -/
theorem offMeshAddress_unattached (answered : getState.perform session = (.ok role, middle))
    (unattached : role ∉ attachedRoles) :
    (offMeshAddress dataset).course session =
      (.ok (), ⟨middle, ((offMeshAddress dataset).fresh session).report.note (asked role)⟩) := by
  simp [course, offMeshAddress, Act.perform_bind, perform_onState, perform_note, fresh, answered,
    asked, unattached]

/-- Behind the role of an attached device its addresses are asked for. -/
theorem offMeshAddress_attached (answered : getState.perform session = (.ok role, middle))
    (isAttached : role ∈ attachedRoles) :
    let report := ((offMeshAddress dataset).fresh session).report.note (asked role)
    let looked := (getOffMeshAddress (some dataset)).perform middle
    (offMeshAddress dataset).course session = match looked.1 with
      | .error failure => (.error failure, ⟨looked.2, report⟩)
      | .ok none => (.ok (), ⟨looked.2, (report.note withoutAddress).conclude .skipped⟩)
      | .ok (some address) => (.ok (), ⟨looked.2, report.note (withAddress address)⟩) := by
  simp only [course, offMeshAddress, Act.perform_bind, perform_onState, perform_note, fresh,
    answered, asked, List.contains_iff_mem.2 isAttached, if_true]
  rcases (getOffMeshAddress (some dataset)).perform middle with ⟨failure | _ | address, after⟩ <;>
    rfl

/-- The scenario that looks an address up finds what its two questions come to. -/
theorem offMeshAddress_finds :
    Finds dataset (offMeshAddress dataset) session ((offMeshAddress dataset).caught session)
      ((offMeshAddress dataset).course session).2.report := by
  have start := fresh_clean (offMeshAddress dataset) session
  rcases answered : getState.perform session with ⟨failure | role, middle⟩
  case error =>
    rw [caught, offMeshAddress_unanswered answered]
    refine .clean start (fun ⟨_, _, _, told, _⟩ => ?_) (fun ⟨_, _, _, _, told, _⟩ => ?_) <;>
      simp [answered] at told
  case ok =>
    by_cases isAttached : role ∈ attachedRoles
    · have attached : ¬FindsDetached dataset (offMeshAddress dataset) session :=
        fun found => found.unattached answered isAttached
      have first : (((offMeshAddress dataset).fresh session).report.note (asked role)).Clean :=
        start.note (List.contains_iff_mem.2 isAttached)
      rw [caught, offMeshAddress_attached answered isAttached]
      rcases looked : (getOffMeshAddress (some dataset)).perform middle with
        ⟨failure | _ | address, after⟩
      · refine .clean first attached fun found => ?_
        simpa [looked] using found.looked answered
      · exact .noAddress (first.note rfl) ⟨rfl, role, middle, after, answered, isAttached, looked⟩
      · have second := first.note (show (withAddress address).passed = true from rfl)
        refine .clean second attached fun found => ?_
        simpa [looked] using found.looked answered
    · rw [caught, offMeshAddress_unattached answered isAttached]
      refine .detached start ?_ ⟨rfl, role, middle, answered, isAttached⟩
      simpa [asked] using isAttached

/-- Each scenario finds what its body comes to. -/
theorem finds_of_mem (listed : scenario ∈ all dataset timeout) :
    Finds dataset scenario session (scenario.caught session)
      (scenario.course session).2.report := by
  simp only [all, List.mem_cons, List.not_mem_nil, or_false] at listed
  rcases listed with rfl | rfl | rfl
  · exact finds_of_obeyed acting_clean.formNetwork (by simp [formNetwork, offMeshAddress])
  · exact offMeshAddress_finds
  · exact finds_of_obeyed (acting_clean : Acting clean dataset timeout).stopRadio
      (by simp [stopRadio, offMeshAddress])

/-- An expired wait is no error. -/
theorem isError_of_isExpired {failure : Failure} (expired : isExpired failure = true) :
    isError failure = false := by
  cases failure with
  | plain fault => rfl
  | _ => cases expired

theorem isExpired_of_isError {failure : Failure} (error : isError failure = true) :
    isExpired failure = false := by
  cases expired : isExpired failure with
  | false => rfl
  | true => exact absurd (isError_of_isExpired expired) (by simp [error])

/-- How the verdict of a report goes with its steps, with the failure that ended the body, and with
what was found. -/
structure Judged (dataset : Dataset) (scenario : Scenario Session) (session : Session)
    (ending : Option Failure) (report : Report) : Prop extends report.Consistent where
  error_iff : report.verdict = .error ↔ ∃ failure, ending = some failure ∧ isError failure = true
  failed_iff : report.verdict = .failed ↔
    (∃ failure, ending = some failure ∧ isExpired failure = true) ∨
      FindsDetached dataset scenario session
  skipped_iff : report.verdict = .skipped ↔ FindsNoAddress dataset scenario session

/-- The first step that did not pass is judged a failure if a wait expired or the device was found
detached. -/
theorem Judged.of_failed {step : Step} (clean : report.Clean) (unpassed : step.passed = false)
    (noError : ∀ failure, ending = some failure → isError failure = false)
    (why : (∃ failure, ending = some failure ∧ isExpired failure = true) ∨
      FindsDetached dataset scenario session)
    (address : ¬FindsNoAddress dataset scenario session) :
    Judged dataset scenario session ending (report.note step) := by
  have failed := clean.verdict_unpassed unpassed
  refine ⟨.of_unpassed (Report.steps_note _ _) clean.steps unpassed (.inl failed), ?_, ?_, ?_⟩
  · rw [failed]
    simpa using noError
  · exact ⟨fun _ => why, fun _ => failed⟩
  · rw [failed]
    simp [address]

/-- A settled report is judged by what was found and by the failure that ended the body. -/
theorem Finds.judged (finds : Finds dataset scenario session ending report)
    (settles : Settles report ending settled) : Judged dataset scenario session ending settled := by
  cases finds with
  | clean clean attached address =>
    cases settles with
    | finished =>
      refine ⟨.of_passed clean.steps (.inl clean.verdict), ?_, ?_, ?_⟩ <;>
        simp [clean.verdict, attached, address]
    | expired expired unpassed =>
      refine .of_failed clean unpassed ?_ (.inl ⟨_, rfl, expired⟩) address
      intro failure same
      exact Option.some.inj same ▸ isError_of_isExpired expired
    | broken error unpassed =>
      refine ⟨.of_unpassed (Report.steps_note _ _) clean.steps unpassed (.inr rfl), ?_, ?_, ?_⟩
      · simp [error]
      · simp [isExpired_of_isError error, attached]
      · simp [address]
  | detached clean unpassed detached =>
    cases settles with
    | finished =>
      exact .of_failed clean unpassed (by simp) (.inr detached) detached.not_noAddress
  | noAddress clean noAddress =>
    cases settles with
    | finished =>
      refine ⟨.of_passed clean.steps (.inr rfl), ?_, ?_, ?_⟩
      · simp
      · simpa using fun detached : FindsDetached dataset scenario session =>
          detached.not_noAddress noAddress
      · simp [noAddress]

/-- The time that a run took has no part in this. -/
theorem Judged.timed (judged : Judged dataset scenario session ending report) (duration : Float) :
    Judged dataset scenario session ending { report with duration } :=
  ⟨⟨judged.counts, judged.onlyLast, judged.good_iff⟩, judged.error_iff, judged.failed_iff,
    judged.skipped_iff⟩

/-- Whatever the device, the streams and the observers did: the verdict of a report that a scenario
gives goes with its steps, and says how the scenario ended and what it found. -/
theorem run_judged (dataset : Dataset) (timeout : Except Fault Float) (session : Session)
    (scenario : Scenario Session) (listed : scenario ∈ all dataset timeout) (report : Report)
    (after : Session)
    (ran : (run Session.clock.now scenario).perform session = (.ok report, after)) :
    Judged dataset scenario session (scenario.caught session) report := by
  obtain ⟨⟨settled, duration, settles, rfl⟩, -⟩ := settles_of_run ran
  exact ((finds_of_mem listed).judged settles).timed duration

/-- A device that joins the network and stays detached. -/
def lonelyDevice : Session :=
  onOutput (Text.Utf8.encode
    "disabled\nDone\nDone\nDone\nDone\ndetached\nDone\ndetached\nDone\n".toList) []

theorem run_judged_lonelyDevice :
    formNetwork Dataset.someDataset (.ok 0) ∈ all Dataset.someDataset (.ok 0) ∧
      ∃ report after, (run Session.clock.now (formNetwork Dataset.someDataset (.ok 0))).perform
          lonelyDevice = (.ok report, after) ∧ report.verdict = .failed ∧
        Judged Dataset.someDataset (formNetwork Dataset.someDataset (.ok 0)) lonelyDevice
          ((formNetwork Dataset.someDataset (.ok 0)).caught lonelyDevice) report := by
  have verdict : ((run Session.clock.now (formNetwork Dataset.someDataset (.ok 0))).perform
      lonelyDevice).1.toOption.map Report.verdict = some .failed := by decide +kernel
  have listed : formNetwork Dataset.someDataset (.ok 0) ∈ all Dataset.someDataset (.ok 0) :=
    List.mem_cons_self
  refine ⟨listed, ?_⟩
  rcases ran : (run Session.clock.now (formNetwork Dataset.someDataset (.ok 0))).perform
      lonelyDevice with ⟨failure | report, after⟩
  · rw [ran] at verdict
    cases verdict
  · rw [ran] at verdict
    exact ⟨report, after, rfl, Option.some.inj verdict, run_judged _ _ _ _ listed _ _ ran⟩

end Scenario

end ThreadHost
