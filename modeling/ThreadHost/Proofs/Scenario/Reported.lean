import ThreadHost.Proofs.Scenario.Run
import ThreadHost.Proofs.Session.Sound
/-!
# Scenarios that are all reported

A session is `Fit` if its streams fail as streams do, none of its observers fails, and both its
pause and its blank lines are of use. Whatever a scenario asks of such a session leaves it so and
fails, if at all, in a way that goes into the report, or where the clock does not take one of the
pauses of a wait. So no scenario loses its report to anything else, and the one behind it finds a
session that is fit again (`runEvery_reports`).
-/

namespace ThreadHost

namespace Session

open Act (Law)

variable {session before after : Session} {command : String}

/-- A session on which scenarios can be run. -/
structure Fit (session : Session) : Prop where
  ordinary : session.streams.Ordinary
  calm : session.Calm
  paced : ∃ interval, session.pollInterval = .ok interval ∧ 0 < interval
  padded : ∃ lines, session.padding = .ok lines

/-- A failure that goes into the report of a scenario. -/
def Reportable (failure : Failure) : Prop :=
  Scenario.isError failure = true ∨ Scenario.isExpired failure = true

/-- The clock does not take one of the pauses that a wait may make. -/
def Terms.Unpaused (terms : Terms) (failure : Failure) : Prop :=
  ∃ length refusal, terms.platform.Refuses terms.interval length refusal ∧
    failure = .plain (.pause refusal)

/-- What is fixed of a session that is fit: its blank lines can be written. -/
def writing (platform : Platform) (interval : Float) (lines : Nat) : Terms where
  platform := platform
  interval := interval
  padding := .ok lines
  Known _ := True

/-- A session that is fit is sound. -/
theorem Fit.sound (fit : session.Fit) :
    ∃ interval lines, session.pollInterval = .ok interval ∧
      session.Sound (writing session.host.platform interval lines) := by
  obtain ⟨interval, paced, positive⟩ := fit.paced
  obtain ⟨lines, padded⟩ := fit.padded
  exact ⟨interval, lines, paced,
    ⟨fit.ordinary, fit.calm, rfl, paced, positive, padded, trivial⟩⟩

/-- Errors of the device and failures of the link are reported. -/
theorem reportable_of_error (failure : Failure)
    (error : failure.isDeviceError = true ∨ failure.isLink = true) : Reportable failure :=
  .inl (by simpa [Scenario.isError] using error)

end Session

namespace Scenario

open Act (Law)
open Session (sound reportable_of_error onOutput failing)

variable {dataset : Dataset} {hex : String} {mesh : Option Address.Network} {timeout : Float}
  {scenario : Scenario Session} {session : Session}

section Sound

variable {terms : Session.Terms} {May : Failure → Prop}

/-- All that scenarios do to a session keeps it sound, if the dataset can be the active one. -/
theorem acting_sound (may : ∀ failure, Session.Reportable failure → May failure)
    (unwritable : ∀ fault, terms.padding = .error fault → May (.plain fault))
    (unpaused : ∀ failure, terms.Unpaused failure → May failure)
    (text : dataset.toHex = .ok hex) (network : dataset.meshLocalPrefix = .ok mesh)
    (known : terms.Known (some dataset)) :
    Acting ((sound terms May).ofPart Underway.state) dataset (.ok timeout) :=
  have errors failure error := may failure (reportable_of_error failure error)
  { resets := obeyed_onState (Session.factoryReset_sound errors unwritable)
    joins := obeyed_onState (Session.join_sound errors text known)
    asks := obeyed_onState (Session.getState_sound errors)
    looksUp := obeyed_onState (Session.getOffMeshAddress_sound errors fun _ _ _ same =>
      ⟨mesh, Option.some.inj same ▸ network⟩)
    stops := obeyed_onState (Session.stopRadio_sound errors)
    waits := fun roles => (Law.obeyed_pure timeout).bind fun _ =>
      obeyed_onState (Session.waitForState_sound errors (fun _ _ => may _ (.inr rfl))
        (fun length refusal refused => unpaused _ ⟨length, refusal, refused, rfl⟩) roles _)
    notes := fun _ _ => obeyed_report _ }

/-- A failure that goes on behind a body is that of the body, and does not go into a report. -/
theorem of_outcome_error {report : Report} {ending : Except Failure Unit} {failure : Failure}
    (lost : outcome report ending = .error failure) :
    ending = .error failure ∧ ¬Session.Reportable failure := by
  cases ending with
  | ok value => cases lost
  | error other =>
    rcases settle_cases report other with ⟨settled, found, -⟩ | ⟨unsettled, notExpired, noError⟩
    · simp [outcome, found] at lost
    · rw [outcome, unsettled] at lost
      cases lost
      exact ⟨rfl, by simp [Session.Reportable, notExpired, noError]⟩

/-- A scenario that keeps sessions sound fails only with what does not go into its report. -/
theorem run_sound (obeyed : ((sound terms May).ofPart Underway.state).Obeyed scenario.body) :
    (sound terms fun failure => May failure ∧ ¬Session.Reportable failure).Obeyed
      (run Session.clock.now scenario) := by
  intro session good
  obtain ⟨still, may⟩ := obeyed (scenario.fresh session) good
  rw [perform_run]
  refine ⟨still, fun failure lost => ?_⟩
  cases given : outcome (scenario.course session).2.report (scenario.course session).1 with
  | ok report =>
    rw [given] at lost
    cases lost
  | error other =>
    rw [given] at lost
    cases lost
    obtain ⟨failed, unreported⟩ := of_outcome_error given
    rw [course] at failed
    exact ⟨may failure (by rw [failed]; rfl), unreported⟩

/-- All scenarios keep sessions sound, and fail only over the blank lines of a reset or the pauses
of a wait: all else that goes wrong is in the reports. -/
theorem runEvery_sound
    (unwritable : ∀ fault, terms.padding = .error fault → May (.plain fault))
    (unpaused : ∀ failure, terms.Unpaused failure → May failure)
    (text : dataset.toHex = .ok hex) (network : dataset.meshLocalPrefix = .ok mesh)
    (known : terms.Known (some dataset)) :
    (sound terms May).Obeyed (runEvery dataset (.ok timeout)) := by
  have acting : Acting ((sound terms fun failure => Session.Reportable failure ∨
      May failure).ofPart Underway.state) dataset (.ok timeout) :=
    acting_sound (fun _ => .inl) (fun fault refused => .inr (unwritable fault refused))
      (fun failure refused => .inr (unpaused failure refused)) text network known
  refine Law.obeyed_mapM _ fun scenario listed => ?_
  refine (run_sound (acting.body (fun _ => obeyed_report _) (obeyed_report _) listed)).weaken ?_
  rintro failure ⟨reportable | may, unreported⟩
  · exact absurd reportable unreported
  · exact may

end Sound

/-- What a report is about. -/
def about (underway : Underway Session) : String × String :=
  (underway.report.name, underway.report.description)

theorem note_about (step : Step) : (Law.keeping about).Obeyed (note step) := fun underway => by
  simp [about, perform_note, Law.keeping]

/-- Nothing that scenarios do changes what the report is about. -/
theorem acting_about {timeout : Except Fault Float} :
    Acting (Law.keeping about) dataset timeout where
  resets _ := rfl
  joins _ := rfl
  asks _ := rfl
  looksUp _ := rfl
  stops _ := rfl
  waits _ := (Law.obeyed_ofFault fun _ _ _ => rfl).bind fun _ _ => rfl
  notes step _ := note_about step

/-- Each scenario was run on the session that the one before it left, and its report is the one in
its place. -/
inductive Reported : List (Scenario Session) → Session → List Report → Session → Prop where
  | none (session : Session) : Reported [] session [] session
  | next {scenario : Scenario Session} {scenarios : List (Scenario Session)} {report : Report}
      {reports : List Report} {before middle after : Session}
      (ran : (run Session.clock.now scenario).perform before = (.ok report, middle))
      (name : report.name = scenario.name) (description : report.description = scenario.description)
      (rest : Reported scenarios middle reports after) :
      Reported (scenario :: scenarios) before (report :: reports) after

/-- A settled report is about the same as before. -/
theorem Settles.about {report settled : Report} {ending : Option Failure}
    (settles : Settles report ending settled) :
    settled.name = report.name ∧ settled.description = report.description := by
  cases settles <;> simp

section Pauses

variable {terms : Session.Terms}

/-- A scenario is reported, and leaves its session sound, or the clock does not take a pause. -/
theorem run_reported (keepsSound : ((sound terms fun failure => Session.Reportable failure ∨
      terms.Unpaused failure).ofPart Underway.state).Obeyed scenario.body)
    (keepsName : (Law.keeping about).Obeyed scenario.body) (good : session.Sound terms) :
    (∃ report after, (run Session.clock.now scenario).perform session = (.ok report, after) ∧
      report.name = scenario.name ∧ report.description = scenario.description ∧
      after.Sound terms) ∨
    ∃ failure after, (run Session.clock.now scenario).perform session = (.error failure, after) ∧
      terms.Unpaused failure := by
  obtain ⟨still, may⟩ := run_sound keepsSound session good
  rcases ran : (run Session.clock.now scenario).perform session with ⟨failure | report, after⟩
  · rw [ran] at may
    obtain ⟨reportable | unpaused, unreported⟩ := may failure rfl
    · exact absurd reportable unreported
    · exact .inr ⟨failure, after, rfl, unpaused⟩
  · rw [ran] at still
    obtain ⟨⟨settled, duration, settles, rfl⟩, -⟩ := settles_of_run ran
    obtain ⟨name, description⟩ := Prod.mk.inj (keepsName (scenario.fresh session))
    obtain ⟨sameName, sameDescription⟩ := settles.about
    exact .inl ⟨_, after, rfl, sameName.trans name, sameDescription.trans description, still⟩

/-- Scenarios are all reported, or the clock does not take a pause, by induction over the
scenarios. -/
theorem runAll_reported {scenarios : List (Scenario Session)}
    (keepsSound : ∀ scenario ∈ scenarios, ((sound terms fun failure =>
      Session.Reportable failure ∨ terms.Unpaused failure).ofPart Underway.state).Obeyed
        scenario.body)
    (keepsName : ∀ scenario ∈ scenarios, (Law.keeping about).Obeyed scenario.body)
    (good : session.Sound terms) :
    (∃ reports after, (runAll Session.clock.now scenarios).perform session =
        (.ok reports, after) ∧ Reported scenarios session reports after) ∨
    ∃ failure after, (runAll Session.clock.now scenarios).perform session =
        (.error failure, after) ∧ terms.Unpaused failure := by
  induction scenarios generalizing session with
  | nil => exact .inl ⟨[], session, rfl, .none session⟩
  | cons scenario scenarios inductionHypothesis =>
    rw [runAll, List.mapM_cons, Act.perform_bind]
    rcases run_reported (keepsSound _ List.mem_cons_self) (keepsName _ List.mem_cons_self) good with
      ⟨report, middle, ran, name, description, still⟩ | ⟨failure, after, failed, unpaused⟩
    · simp only [ran, Act.perform_bind]
      rcases inductionHypothesis
          (fun other member => keepsSound other (List.mem_cons_of_mem _ member))
          (fun other member => keepsName other (List.mem_cons_of_mem _ member)) still with
        ⟨reports, after, ranAll, rest⟩ | ⟨failure, after, failed, unpaused⟩
      · rw [← runAll, ranAll]
        exact .inl ⟨_, _, rfl, .next ran name description rest⟩
      · rw [← runAll, failed]
        exact .inr ⟨_, _, rfl, unpaused⟩
    · rw [failed]
      exact .inr ⟨_, _, rfl, unpaused⟩

end Pauses

/-- Whatever the streams of a fit session do, every scenario is run and reported, in order, on the
session that the one before it left: no failure of the device or the link and no expired wait loses
a report or keeps a scenario from being run. Only a clock that does not take one of the pauses
between two checks, which last an interval at most, ends them early. -/
theorem runEvery_reports (dataset : Dataset) (hex : String) (text : dataset.toHex = .ok hex)
    (network : ∀ value, dataset.get? RecordType.meshLocalPrefix.code = some value →
      value.length = 8)
    (timeout : Float) (session : Session) (isFit : session.Fit) :
    (∃ reports after, (runEvery dataset (.ok timeout)).perform session = (.ok reports, after) ∧
      Reported (all dataset (.ok timeout)) session reports after) ∨
    ∃ interval length refusal after, session.pollInterval = .ok interval ∧
      session.host.platform.Refuses interval length refusal ∧
      (runEvery dataset (.ok timeout)).perform session =
        (.error (.plain (.pause refusal)), after) := by
  obtain ⟨mesh, usable⟩ : ∃ mesh, dataset.meshLocalPrefix = .ok mesh := by
    unfold Dataset.meshLocalPrefix
    split
    · exact ⟨none, rfl⟩
    · rename_i value found
      rw [if_pos (network value found)]
      exact ⟨_, rfl⟩
  obtain ⟨interval, lines, paced, good⟩ := isFit.sound
  let terms := Session.writing session.host.platform interval lines
  have acting : Acting ((sound terms fun failure => Session.Reportable failure ∨
      terms.Unpaused failure).ofPart Underway.state) dataset (.ok timeout) :=
    acting_sound (fun _ => .inl) nofun (fun _ => .inr) text usable trivial
  have keepsSound (scenario : Scenario Session) (listed : scenario ∈ all dataset (.ok timeout)) :=
    acting.body (fun _ => obeyed_report _) (obeyed_report _) listed
  have keepsName (scenario : Scenario Session) (listed : scenario ∈ all dataset (.ok timeout)) :=
    acting_about.body note_about (fun _ => rfl) listed
  rcases runAll_reported keepsSound keepsName good with
    reported | ⟨failure, after, failed, length, refusal, refused, rfl⟩
  · exact .inl reported
  · exact .inr ⟨interval, length, refusal, after, paced, refused, failed⟩

/-- A device that reports an error while it joins, whose output breaks then, and whose input breaks
after a while. -/
def failingDevice : Session :=
  { onOutput [] [] with
    streams := {
      unread := Text.Utf8.encode "disabled\nDone\nDone\nError 7: Busy\nleader\nDone\n".toList
      readFailure := fun number =>
        if 4 ≤ number then some (.plain (.system .other "device lost")) else none
      writeFailure := fun number =>
        if 6 ≤ number then some (.plain (.system .brokenPipe "pipe closed")) else none } }

theorem failingDevice_fit : failingDevice.Fit where
  ordinary := by
    constructor <;> intro number failure fails
    · obtain ⟨-, rfl⟩ : 6 ≤ number ∧ _ = failure := by simpa [failingDevice] using fails
      exact ⟨_, rfl, rfl⟩
    · simp [failingDevice] at fails
    · obtain ⟨-, rfl⟩ : 4 ≤ number ∧ _ = failure := by simpa [failingDevice] using fails
      exact ⟨_, rfl, rfl⟩
  calm := Session.calm_of_manner rfl
  paced := ⟨Waiting.defaultInterval, rfl, by decide +kernel⟩
  padded := ⟨1000, rfl⟩

theorem runEvery_reports_failingDevice :
    ∃ hex, Dataset.someDataset.toHex = .ok hex ∧
      (∀ value, Dataset.someDataset.get? RecordType.meshLocalPrefix.code = some value →
        value.length = 8) ∧ failingDevice.Fit ∧
      ((runEvery Dataset.someDataset (.ok 5)).perform failingDevice).1.toOption.map
        (·.map Report.verdict) = some [.error, .error, .error] ∧
      ((∃ reports after, (runEvery Dataset.someDataset (.ok 5)).perform failingDevice =
          (.ok reports, after) ∧
        Reported (all Dataset.someDataset (.ok 5)) failingDevice reports after) ∨
      ∃ interval length refusal after, failingDevice.pollInterval = .ok interval ∧
        failingDevice.host.platform.Refuses interval length refusal ∧
        (runEvery Dataset.someDataset (.ok 5)).perform failingDevice =
          (.error (.plain (.pause refusal)), after)) := by
  have text : Dataset.someDataset.toHex = .ok "35020aff0000ff0101" := by decide +kernel
  have network : ∀ value, Dataset.someDataset.get? RecordType.meshLocalPrefix.code = some value →
      value.length = 8 := by
    have absent : Dataset.someDataset.get? RecordType.meshLocalPrefix.code = none := by
      decide +kernel
    simp [absent]
  exact ⟨_, text, network, failingDevice_fit, by decide +kernel,
    runEvery_reports _ _ text network 5 _ failingDevice_fit⟩

/-- The output of a device that does all that is asked of it. -/
def obedientOutput : Bytes :=
  Text.Utf8.encode ("disabled\nDone\nDone\nDone\nDone\nleader\nDone\nleader\nDone\n" ++
    "leader\nDone\nfe80::1\n2001:db8::5\nDone\nDone\nDone\ndisabled\nDone\n").toList

/-- A session that was made on this device for more blank lines than can be counted. -/
def overlongReset : Session where
  streams := { unread := obedientOutput }
  pollInterval := Session.intervalOf (.proper (.real Waiting.defaultInterval))
  padding := .error (.misuse .aboveLengths)

/-- All scenarios are reported on a session, whatever the dataset and the timeout. -/
def ReportsAll (session : Session) : Prop :=
  ∀ (dataset : Dataset) (hex : String) (timeout : Float), dataset.toHex = .ok hex →
    (∀ value, dataset.get? RecordType.meshLocalPrefix.code = some value → value.length = 8) →
    ∃ reports after, (runEvery dataset (.ok timeout)).perform session = (.ok reports, after)

/-- A run on an empty dataset that is lost. -/
theorem not_reportsAll (timeout : Float)
    (lost : ((runEvery Dataset.empty (.ok timeout)).perform session).1.toOption.isSome = false) :
    ¬ReportsAll session := by
  intro all
  have absent : Dataset.empty.get? RecordType.meshLocalPrefix.code = none := by rfl
  obtain ⟨reports, after, ran⟩ := all Dataset.empty "" timeout (by rfl) (by simp [absent])
  rw [ran] at lost
  cases lost

/-- A clock that counts nanoseconds in 63 bits. -/
def narrowClock : Platform where
  refuses length := if 9223372036 < length then some .tooLong else none

/-- A session that pauses for longer than its clock can count, on a device that takes its time. -/
def longPause : Session where
  streams := { unread := Text.Utf8.encode "detached\nDone\n".toList }
  host := { platform := narrowClock }
  pollInterval := .ok 10000000000
  padding := .ok 1000

/-- A number of blank lines that can be chosen and cannot be written ends all scenarios without a
report, and so does an observer that fails, and a pause that can be chosen and cannot be made. -/
theorem runEvery_unreported :
    (¬∀ (wire : Wire) (count : Int) (start : Session), wire.streams.Ordinary →
      Session.make wire { padding := .proper count } = .ok start → ReportsAll start) ∧
    (¬∀ (wire : Wire) (start : Session) (observers : List Observer) (manner : Manner),
      wire.streams.Ordinary → Session.make wire {} = .ok start →
      ReportsAll { start with observers, manner }) ∧
    ¬∀ (wire : Wire) (interval : Float) (start : Session), wire.streams.Ordinary → 0 < interval →
      Session.make wire { pollInterval := .proper (.real interval) } = .ok start →
      ReportsAll start := by
  have ordinary : overlongReset.toWire.Ordinary :=
    Wire.ordinary_of_steady (Session.steady_onOutput obedientOutput [])
  refine ⟨fun always => ?_, fun always => ?_, fun always => ?_⟩
  · have made : Session.make overlongReset.toWire { padding := .proper 9223372036854775808 } =
        .ok overlongReset := by rfl
    exact not_reportsAll 5 (by decide +kernel) (always _ _ _ ordinary.streams made)
  · have made : Session.make overlongReset.toWire {} =
        .ok { overlongReset with padding := .ok 1000 } := by rfl
    exact not_reportsAll 5 (by decide +kernel)
      (always _ _ [.named "log"] failing ordinary.streams made)
  · have made : Session.make longPause.toWire { pollInterval := .proper (.real 10000000000) } =
        .ok longPause := by rfl
    have steady : longPause.streams.Ordinary :=
      (Wire.ordinary_of_steady (Session.steady_onOutput longPause.streams.unread [])).streams
    exact not_reportsAll 10000000000 (by decide +kernel) (always _ _ _ steady (by decide) made)

end Scenario

end ThreadHost
