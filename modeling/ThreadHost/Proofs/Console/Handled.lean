import ThreadHost.Proofs.Console.Steady
/-!
# Failures that are handled

Of all that can go wrong in a console with accepted settings, three things escape an action: the
dataset of the settings is refused where it is needed, the blank lines behind a reset cannot be
written, and the clock does not take one of the pauses of a wait. Every other failure ends in a note,
and the console goes on (`run_handled`).
-/

namespace ThreadHost.Console

open Act (Law)
open Session (followed)

variable {supply : List Device} {setup : Setup} {console : Console} {session : Session}
  {config : Config} {action : Action} {label : String}

/-- The session of a console as an act finds it. -/
def working (console : Console) (session : Session) : Session :=
  { session with host := console.host }

/-- What is told when a link is lost. -/
def lostNotes (failure : Failure) : List Note :=
  [.message ("Device lost: " ++ failure.message) .error none,
    .message "Disconnected" .information none]

/-- What is told of work on behalf of the user. -/
inductive Told (label : String) : Except Failure Unit → List Note → Prop where
  | done : Told label (.ok ()) [.message (label ++ ": Done") .information none]
  | deviceError {failure : Failure} (deviceError : failure.isDeviceError = true) :
      Told label (.error failure) [.message (label ++ ": " ++ failure.detail) .error none]
  | lost {failure : Failure} (other : ¬failure.isDeviceError = true)
      (link : failure.isLink = true) : Told label (.error failure) (lostNotes failure)

/-- Giving up a lost link leaves no session, and tells why. -/
theorem perform_linkLost (stands : Standing supply console) (connected : console.connected = true)
    (failure : Failure) :
    ∃ after, (linkLost failure).perform console = (.ok (), after) ∧ after.session = none ∧
      after.notes = console.notes ++ lostNotes failure := by
  have told := (notify_stands ("Device lost: " ++ failure.message) .error console stands).stands
  obtain ⟨session, wire, -, -, -, left⟩ := perform_disconnect told connected
  have run : (linkLost failure).perform console = disconnect.perform
      ((notify ("Device lost: " ++ failure.message) .error).perform console).2 := rfl
  rw [run, left]
  exact ⟨_, rfl, rfl, List.append_assoc ..⟩

/-- A console behind work that left its session like this. -/
def workedOn (console : Console) (session after : Session) : Console :=
  console.putSession (console.working session) after

/-- A console still stands behind work with its session, whether the device is held or not. -/
theorem workedOn_stands (stands : Standing supply console)
    (has : console.session = some session) {ending : Option Failure} {after : Session}
    (follows : followed.Holds (console.working session) ending after) (locked : Bool) :
    Standing supply ((console.workedOn session after).lockedAs locked) :=
  { (stands.put has follows).stands with }

/-- Work with the session of a console whose device is held. -/
theorem perform_onSession_locked {α : Type} (has : console.session = some session) (otherwise : α)
    (act : Act Session α) :
    (onSession otherwise act).perform (console.lockedAs true) =
      ((act.perform (console.working session)).1,
        (console.workedOn session (act.perform (console.working session)).2).lockedAs true) :=
  perform_onSession_some (by exact has) otherwise act

/-- An act that ends well and tells nothing. -/
def Quiet (act : Act Console Unit) : Prop :=
  ∀ console, ∃ after, act.perform console = (.ok (), after) ∧ after.notes = console.notes

theorem quiet_pure : Quiet (pure ()) := fun console => ⟨console, rfl, rfl⟩

theorem quiet_showStatus (change : StatusUpdate) : Quiet (showStatus change) := fun _ =>
  ⟨_, rfl, rfl⟩

/-- Work that does not let a failure escape is told as it ended. -/
theorem guarded_told (stands : Standing supply console) (has : console.session = some session)
    {act : Act Session Unit} (follows : followed.Obeyed act) {onSuccess : Act Console Unit}
    (quiet : Quiet onSuccess)
    (ended : ((guarded label act onSuccess).perform console).1 = .ok ()) :
    ∃ notes, ((guarded label act onSuccess).perform console).2.notes = console.notes ++ notes ∧
      Told label (act.perform (console.working session)).1 notes := by
  have still : Standing supply (((console.workedOn session
      (act.perform (console.working session)).2).lockedAs true).lockedAs false) :=
    workedOn_stands stands has (follows (console.working session)) false
  unfold guarded at ended ⊢
  rw [Act.perform_bind, Act.perform_attempt, perform_holdingDevice,
    perform_onSession_locked has] at ended ⊢
  rcases performed : act.perform (console.working session) with ⟨failure | _, after⟩ <;>
    rw [performed] at still <;> simp only [performed] at ended ⊢
  · by_cases deviceError : failure.isDeviceError = true
    · simp only [if_pos deviceError]
      exact ⟨_, rfl, .deviceError deviceError⟩
    · by_cases link : failure.isLink = true
      · simp only [if_neg deviceError, if_pos link]
        have connected : console.connected = true := by simp [stands.connected, has]
        obtain ⟨last, gives, -, told⟩ := perform_linkLost still connected failure
        rw [gives]
        exact ⟨_, told, .lost deviceError link⟩
      · simp only [if_neg deviceError, if_neg link] at ended
        cases ended
  · obtain ⟨last, succeeds, same⟩ := quiet
      (((console.workedOn session after).lockedAs true).lockedAs false)
    refine ⟨_, ?_, .done⟩
    simp only [Act.perform_bind, succeeds]
    exact congrArg (· ++ _) same

/-- What is told of a refresh: nothing, unless the link is lost. -/
inductive Refreshed {α : Type} : Except Failure α → List Note → Prop where
  | answered (value : α) : Refreshed (.ok value) []
  | passedOver {failure : Failure} (deviceError : failure.isDeviceError = true) :
      Refreshed (.error failure) []
  | lost {failure : Failure} (other : ¬failure.isDeviceError = true)
      (link : failure.isLink = true) : Refreshed (.error failure) (lostNotes failure)

/-- A refresh that does not let a failure escape is told as it ended, and while nothing is told the
console keeps its session. -/
theorem refresh_told (stands : Standing supply console) (has : console.session = some session)
    (unlocked : console.locked = false) (ended : (refresh.perform console).1 = .ok ()) :
    ∃ notes, (refresh.perform console).2.notes = console.notes ++ notes ∧
      Refreshed (askStatus.perform (console.working session)).1 notes ∧
      (notes = [] → (refresh.perform console).2.session.isSome = true) := by
  have connected : console.connected = true := by simp [stands.connected, has]
  have still := workedOn_stands stands has (askStatus_followed (console.working session)) true
  have busy : (!console.connected || console.session.isNone || console.locked) = false := by
    simp [connected, has, unlocked]
  have asked := perform_onSession_locked has ("", none) askStatus
  unfold refresh at ended ⊢
  simp only [Act.perform_bind, Act.perform_get, busy, Bool.false_eq_true, if_false,
    perform_holdingDevice, Act.perform_attempt, asked] at ended ⊢
  rcases performed : askStatus.perform (console.working session) with ⟨failure | status, after⟩ <;>
    rw [performed] at still <;> simp only [performed] at ended ⊢
  · by_cases deviceError : failure.isDeviceError = true
    · simp only [if_pos deviceError]
      exact ⟨[], (List.append_nil _).symm, .passedOver deviceError, fun _ => rfl⟩
    · by_cases link : failure.isLink = true
      · obtain ⟨last, gives, -, told⟩ := perform_linkLost still connected failure
        simp only [if_neg deviceError, if_pos link, Act.perform_bind, gives]
        exact ⟨_, told, .lost deviceError link, nofun⟩
      · simp only [if_neg deviceError, if_neg link] at ended
        cases ended
  · exact ⟨[], (List.append_nil _).symm, .answered status, fun _ => rfl⟩

/-- Where there is a session, it is there for the asking. -/
theorem perform_requireSession_some (stands : Standing supply console)
    (has : console.session = some session) :
    requireSession.perform console = (.ok true, console) := by
  have connected : console.connected = true := by simp [stands.connected, has]
  simp [requireSession, Act.perform_bind, connected, has]

/-- Without a session nothing that needs one is done. -/
theorem perform_requireSession_none (none : console.session = none) :
    requireSession.perform console =
      (.ok false, ((notify "Not connected" .error).perform console).2) := by
  simp [requireSession, Act.perform_bind, none, notify, addNote, Except.map]

/-- What an action does with the session on behalf of the user, and what that is called. -/
inductive Work (config : Config) : Action → String → Act Session Unit → Prop where
  | join {dataset : Dataset} (known : config.dataset = .ok dataset) :
      Work config .join "Join" (Session.join dataset)
  | stopRadio : Work config .stopRadio "Stop radio" Session.stopRadio
  | factoryReset : Work config .factoryReset "Factory reset" Session.factoryReset
  | submit {typed : String} (something : Text.Blank.strip typed ≠ "") :
      Work config (.submit typed) (Text.Blank.strip typed)
        (discard (Session.execute (Text.Blank.strip typed)))

/-- With a session, an action does its work. -/
theorem Work.perform_eq {act : Act Session Unit} (work : Work config action label act)
    (stands : Standing supply console) (settings : console.config = config)
    (has : console.session = some session) :
    followed.Obeyed act ∧ ∃ onSuccess, Quiet onSuccess ∧
      (perform action).perform console = (guarded label act onSuccess).perform console := by
  have asks := perform_requireSession_some stands has
  cases work with
  | @join dataset known =>
    refine ⟨Session.join_followed _, _, quiet_showStatus { network := dataset.networkName }, ?_⟩
    simp only [perform, Console.join, networkDataset, Act.perform_bind, asks, if_true,
      Act.perform_get, settings, known, Act.perform_pure]
  | stopRadio =>
    refine ⟨Session.asking_followed.executeAll _, _, quiet_pure, ?_⟩
    simp only [perform, Console.stopRadio, Act.perform_bind, asks, if_true]
  | factoryReset =>
    refine ⟨Session.factoryReset_followed, _, quiet_pure, ?_⟩
    simp only [perform, Console.factoryReset, Act.perform_bind, asks, if_true]
  | submit something =>
    refine ⟨(Session.asking_followed.execute _).map _, _, quiet_pure, ?_⟩
    simp only [perform, Console.submit, if_pos something, Act.perform_bind, asks, if_true]

/-- What is told of all scenarios. -/
def scenarioNotes (reports : List Report) : List Note :=
  [.message "Running network scenarios..." .information none,
    .message (announcement reports).1 (announcement reports).2 (some announcementSeconds)]

/-- Scenarios that do not let a failure escape are announced with their reports. -/
theorem scenarios_told (stands : Standing supply console) (has : console.session = some session)
    {dataset : Dataset} (known : console.config.dataset = .ok dataset)
    (ended : (scenarios.perform console).1 = .ok ()) :
    ∃ reports, (scenarios.perform console).2.notes = console.notes ++ scenarioNotes reports ∧
      ((Scenario.runEvery dataset console.config.timeout).perform
        (console.working session)).1 = .ok reports := by
  obtain ⟨noted, notified, settings, same, sameHost, told⟩ :
      ∃ noted, (notify "Running network scenarios..." .information).perform console =
          (.ok (), noted) ∧ (noted.lockedAs true).config = console.config ∧
        noted.session = some session ∧ noted.working session = console.working session ∧
        noted.notes = console.notes ++
          [.message "Running network scenarios..." .information none] :=
    ⟨_, rfl, rfl, has, rfl, rfl⟩
  have ran := perform_onSession_locked same []
    (Scenario.runEvery dataset console.config.timeout)
  unfold scenarios at ended ⊢
  simp only [Act.perform_bind, perform_requireSession_some stands has, if_true, notified,
    perform_holdingDevice, networkDataset, Act.perform_get, settings, known, Act.perform_pure, ran]
    at ended ⊢
  rw [← sameHost]
  rcases performed : (Scenario.runEvery dataset console.config.timeout).perform
    (noted.working session) with ⟨failure | reports, after⟩ <;> simp only [performed] at ended ⊢
  · cases ended
  · refine ⟨reports, ?_, rfl⟩
    exact (congrArg (· ++ _) told).trans (List.append_assoc ..)

/-- Between two states of a console an error was told. -/
def TellsError (before after : Console) : Prop :=
  ∃ text, .message text .error none ∈ after.notes.drop before.notes.length

/-- What is told is behind what was told before. -/
theorem tellsError_of_append {before after : Console} {notes : List Note} {text : String}
    (told : after.notes = before.notes ++ notes) (error : .message text .error none ∈ notes) :
    TellsError before after := ⟨text, by rwa [told, List.drop_left]⟩

/-- A connection that leaves no session has told an error. -/
theorem connect_told (good : Steady setup console) (unlocked : console.locked = false)
    (accepted : setup.Accepted) (one : 1 ≤ setup.needed) :
    (connect.perform console).2.session.isSome = true ∨
      TellsError console (connect.perform console).2 := by
  by_cases connected : console.connected = true
  · left
    rw [perform_connect_again connected]
    exact good.connected.symm.trans connected
  · rcases connect_cases good accepted one (Bool.eq_false_iff.2 connected) with
      ⟨failure, told⟩ | ⟨session, refreshes, given⟩
    · right
      rw [told]
      exact tellsError_of_append rfl (List.mem_singleton_self _)
    · rw [refreshes]
      obtain ⟨notes, told, refreshed, stays⟩ :=
        refresh_told given.toStanding rfl unlocked (refresh_ok given)
      generalize Prod.fst _ = outcome at refreshed
      cases refreshed with
      | answered | passedOver => exact .inl (stays rfl)
      | @lost failure =>
        have error : Note.message ("Device lost: " ++ failure.message) .error none ∈
            [.message "Connected" .information none] ++ lostNotes failure :=
          List.mem_append_right _ List.mem_cons_self
        exact .inr (tellsError_of_append (told.trans (List.append_assoc ..)) error)

/-- How an action of a console with these settings is dealt with. -/
structure Handled (platform : Platform) (config : Config) (action : Action) (before : Console)
    (ended : Except Failure Unit) (after : Console) : Prop where
  /-- A failure that escapes is one of those that can, and it escapes with a session only. -/
  escapes : ∀ failure, ended = .error failure →
    before.session.isSome = true ∧ Escapes platform config action failure
  /-- A dataset that is refused escapes a join before anything was done. -/
  refused : ∀ fault, action = .join → before.session.isSome = true →
    config.dataset = .error fault → ended = .error (.plain (.dataset fault)) ∧ after = before
  work : ∀ label act session, Work config action label act → before.session = some session →
    ended = .ok () → ∃ notes, after.notes = before.notes ++ notes ∧
      Told label (act.perform (before.working session)).1 notes
  refresh : ∀ session, action = .refresh → before.session = some session →
    ∃ notes, after.notes = before.notes ++ notes ∧
      Refreshed (askStatus.perform (before.working session)).1 notes
  scenarios : ∀ dataset session, action = .scenarios → before.session = some session →
    config.dataset = .ok dataset → ended = .ok () →
      ∃ reports, after.notes = before.notes ++ scenarioNotes reports ∧
        ((Scenario.runEvery dataset config.timeout).perform (before.working session)).1 =
          .ok reports
  connect : action = .connect → after.session.isSome = true ∨ TellsError before after

/-- Without a session, an action from which a failure can escape does nothing. -/
theorem isSome_of_escapes {platform : Platform} {failure : Failure}
    (escapes : Escapes platform config action failure)
    (ended : ((perform action).perform console).1 = .error failure) :
    console.session.isSome = true := by
  cases has : console.session with
  | some session => rfl
  | none =>
    have asks := perform_requireSession_none has
    cases escapes <;>
      simp [perform, join, scenarios, factoryReset, Act.perform_bind, asks] at ended

/-- One action keeps a console steady, and lets only those failures escape. -/
theorem perform_steady_or_escapes (good : Steady setup console) (accepted : setup.Accepted)
    (offered : action.Offered) {needed : Nat}
    (enough : setup.needed = [action].countP Action.opens + needed) :
    Steady { setup with needed } ((perform action).perform console).2 ∧
      ∀ failure, ((perform action).perform console).1 = .error failure →
        Escapes setup.platform setup.config action failure := by
  obtain rfl | opensNot : action = .connect ∨ action.opens = false := by
    cases action <;> simp [Action.opens]
  · have counts : [Action.connect].countP Action.opens = 1 := rfl
    have one : needed + 1 ≤ setup.needed := by omega
    obtain ⟨ended, still⟩ := connect_steady good accepted one
    refine ⟨still, fun failure failed => ?_⟩
    cases ended.symm.trans failed
  · have same : setup.needed = needed := by simpa [opensNot] using enough
    obtain ⟨still, may⟩ := perform_steady accepted offered opensNot console good
    exact ⟨same ▸ still, fun failure failed => may failure (by rw [failed]; rfl)⟩

/-- Every action of a steady console is handled. -/
theorem Steady.handled (good : Steady setup console) (unlocked : console.locked = false)
    (accepted : setup.Accepted) (offered : action.Offered) {needed : Nat}
    (enough : setup.needed = [action].countP Action.opens + needed) :
    Handled setup.platform setup.config action console ((perform action).perform console).1
      ((perform action).perform console).2 := by
  obtain ⟨-, escapes⟩ := perform_steady_or_escapes good accepted offered enough
  have stands := good.toStanding
  have settings := good.settings
  refine {
    escapes := fun failure failed =>
      ⟨isSome_of_escapes (escapes failure failed) failed, escapes failure failed⟩
    refused := ?refused
    work := ?work
    refresh := ?refresh
    scenarios := ?scenarios
    connect := ?connect }
  case refused =>
    rintro fault rfl there refused
    obtain ⟨session, has⟩ := Option.isSome_iff_exists.1 there
    have lost : join.perform console = (.error (.plain (.dataset fault)), console) := by
      simp only [join, Act.perform_bind, perform_requireSession_some stands has, if_true,
        networkDataset, Act.perform_get, settings, refused, Act.perform_refuse]
    exact Prod.mk.inj lost
  case work =>
    intro label act session work has ended
    obtain ⟨follows, onSuccess, quiet, same⟩ := work.perform_eq stands settings has
    rw [same] at ended ⊢
    exact guarded_told stands has follows quiet ended
  case refresh =>
    rintro session rfl has
    obtain ⟨notes, told, refreshed, -⟩ := refresh_told stands has unlocked (refresh_ok good)
    exact ⟨notes, told, refreshed⟩
  case scenarios =>
    rintro dataset session rfl has known ended
    obtain ⟨reports, told, ran⟩ := scenarios_told stands has (settings ▸ known) ended
    exact ⟨reports, told, settings ▸ ran⟩
  case connect =>
    rintro rfl
    exact connect_told good unlocked accepted (by simp [enough, Action.opens])

theorem countP_cons_opens (action : Action) (actions : List Action) :
    (action :: actions).countP Action.opens =
      [action].countP Action.opens + actions.countP Action.opens := by
  rw [← List.singleton_append, List.countP_append]

/-- Any actions keep a console steady, by induction over the actions. -/
theorem Steady.afterAll (good : Steady setup console) (accepted : setup.Accepted)
    {actions : List Action} (offered : ∀ action ∈ actions, action.Offered) {needed : Nat}
    (enough : setup.needed = actions.countP Action.opens + needed) :
    Steady { setup with needed } (console.afterAll actions) := by
  induction actions generalizing setup console with
  | nil =>
    obtain rfl : setup.needed = needed := by simpa using enough
    exact good
  | cons action actions inductionHypothesis =>
    rw [countP_cons_opens, Nat.add_assoc] at enough
    obtain ⟨still, -⟩ := perform_steady_or_escapes good accepted
      (offered action List.mem_cons_self) enough
    have rest := @inductionHypothesis
      { setup with needed := actions.countP Action.opens + needed } _ still { accepted with }
      (fun other member => offered other (List.mem_cons_of_mem _ member)) rfl
    exact rest

/-- A console that was just started with accepted settings is steady. -/
theorem steady_start {host : Host} (platform : host.platform = setup.platform)
    (willing : ∀ device ∈ setup.supply, device.Willing)
    (quiet : ∀ device ∈ setup.supply, device.ClosesQuietly)
    (enough : setup.needed ≤ setup.supply.length) :
    Steady setup (start setup.config host setup.supply) :=
  { standing_start setup.config host quiet with
    settings := rfl
    platform
    willing
    enough
    sound := by rintro _ ⟨⟩ }

/-- With accepted settings, and devices that open, close and fail as devices do, every action is
handled: what goes wrong is told and the console goes on, except that a join and the scenarios let
the refusal of the dataset of the settings escape, a reset that of its blank lines, and the scenarios
that of a pause which the clock does not take. -/
theorem run_handled {entries : Table} {config : Config}
    (accepted : Config.check entries = .valid config) (host : Host) {supply : List Device}
    (willing : ∀ device ∈ supply, device.Willing) (quiet : ∀ device ∈ supply, device.ClosesQuietly)
    {actions earlier later : List Action} {action : Action}
    (offered : ∀ action ∈ actions, action.Offered)
    (enough : actions.countP Action.opens ≤ supply.length)
    (taken : actions = earlier ++ action :: later) :
    Handled host.platform config action ((start config host supply).afterAll earlier)
      ((perform action).perform ((start config host supply).afterAll earlier)).1
      ((perform action).perform ((start config host supply).afterAll earlier)).2 := by
  subst taken
  have declared := Config.declared_of_check accepted
  obtain ⟨padding, padded⟩ := Session.exists_paddingOf declared host.platform
  obtain ⟨interval, paced, -, -⟩ := Session.exists_intervalOf declared
  have begun := @steady_start ⟨supply, config, host.platform, interval, padding, _⟩ host rfl willing
    quiet enough
  have before := begun.afterAll ⟨declared, paced, padded⟩
    (fun other member => offered other (List.mem_append_left _ member)) List.countP_append
  have unlocked := ((standing_start config host quiet).afterAll earlier).unlocked rfl
  exact before.handled unlocked ⟨declared, paced, padded⟩ (offered action (by simp))
    (countP_cons_opens action later)

/-- Settings whose network has an empty name. -/
def namelessTable : Table := [("network", .table [("network_name", .text "")])]

/-- The configuration of these settings: a name of any length is accepted. -/
def nameless : Config := { network := { networkName := .proper "" } }

theorem check_nameless : Config.check namelessTable = .valid nameless := by rfl

theorem willing_briefDevice : briefDevice.Willing where
  opens := rfl
  discards := rfl
  streams := by constructor <;> intro number failure fails <;> simp [briefDevice] at fails

/-- The role is told to the refresh behind the connection; then the dataset is refused. -/
theorem run_handled_nameless :
    Config.check namelessTable = .valid nameless ∧ briefDevice.Willing ∧ briefDevice.ClosesQuietly ∧
    ((start nameless {} [briefDevice]).afterAll [.connect]).connected = true ∧
    Handled {} nameless .join ((start nameless {} [briefDevice]).afterAll [.connect])
      ((perform .join).perform ((start nameless {} [briefDevice]).afterAll [.connect])).1
      ((perform .join).perform ((start nameless {} [briefDevice]).afterAll [.connect])).2 := by
  have willing : ∀ device ∈ [briefDevice], device.Willing := by simp [willing_briefDevice]
  have quiet : ∀ device ∈ [briefDevice], device.ClosesQuietly := by simp [quiet_briefDevice]
  have offered : ∀ action ∈ [Action.connect, .join], action.Offered := by simp [Action.Offered]
  exact ⟨check_nameless, willing_briefDevice, quiet_briefDevice, by decide +kernel,
    run_handled check_nameless {} willing quiet offered (by decide) rfl⟩

/-- So it is not true that an action ends well with all settings that are accepted: a join escapes
with the refusal of an empty name. -/
theorem run_not_always_ok :
    ¬∀ (entries : Table) (config : Config), Config.check entries = .valid config →
      ∀ (host : Host) (supply : List Device),
        (∀ device ∈ supply, device.Willing) → (∀ device ∈ supply, device.ClosesQuietly) →
        ∀ (actions earlier later : List Action) (action : Action),
          (∀ action ∈ actions, action.Offered) → actions.countP Action.opens ≤ supply.length →
          actions = earlier ++ action :: later →
          ((perform action).perform ((start config host supply).afterAll earlier)).1 = .ok () := by
  intro always
  have ended := always namelessTable nameless check_nameless {} [briefDevice]
    (by simp [willing_briefDevice]) (by simp [quiet_briefDevice]) [.connect, .join] [.connect] []
    .join (by simp [Action.Offered]) (by decide) rfl
  have refused : ((perform .join).perform ((start nameless {} [briefDevice]).afterAll
      [.connect])).1 = .error (.plain (.dataset (.nameLength ""))) := by decide +kernel
  cases refused.symm.trans ended

end ThreadHost.Console
