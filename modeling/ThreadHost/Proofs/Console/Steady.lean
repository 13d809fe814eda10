import ThreadHost.Proofs.Console.Coherent
import ThreadHost.Proofs.Dataset.Built
import ThreadHost.Proofs.Scenario.Reported
import ThreadHost.Proofs.Session.Willing
/-!
# Consoles that go on

A console is `Steady` if it stands, if its settings are the accepted ones it was started with, and
if its session can be worked with. What it does keeps it so, and fails only as it may: a handler
deals with the errors of the device and the failures of the link, and lets everything else go on.
-/

namespace ThreadHost.Console

open Act (Law)
open Session (followed sound usableTerms)

/-- What a console is given, and how many devices it still needs. -/
structure Setup where
  supply : List Device
  config : Config
  platform : Platform
  interval : Float
  padding : Except Fault Nat
  needed : Nat

/-- What its sessions have in common. -/
def Setup.terms (setup : Setup) : Session.Terms :=
  usableTerms setup.platform setup.interval setup.padding

/-- The settings are accepted, with this interval and these blank lines. -/
structure Setup.Accepted (setup : Setup) : Prop where
  declared : setup.config.Declared
  paced : setup.config.session.pollInterval = .proper (.real setup.interval)
  padded : Session.paddingOf setup.platform setup.config.session.resetPadding = .ok setup.padding

/-- A console that stands, with its settings, with enough devices that open, and with a session that
can be worked with. -/
structure Steady (setup : Setup) (console : Console) : Prop
    extends Standing setup.supply console where
  settings : console.config = setup.config
  platform : console.host.platform = setup.platform
  willing : ∀ device ∈ console.devices, device.Willing
  enough : setup.needed ≤ console.devices.length
  sound : ∀ session, console.session = some session → session.Sound setup.terms

/-- A steady console stays so, and fails only as it may. -/
def steady (setup : Setup) (May : Failure → Prop) : Law Console := Law.safe (Steady setup) May

variable {α : Type} {setup : Setup} {May May' : Failure → Prop} {console : Console}
  {session : Session}

/-- An act that ends well, keeps a console standing, and leaves its settings, its host, its devices
and the soundness of its session alone. -/
theorem steady_of_stands {act : Act Console α} (stands : (standing setup.supply).Obeyed act)
    (ends : ∀ console, Act.ending (act.perform console).1 = none)
    (settings : ∀ console, (act.perform console).2.config = console.config)
    (host : ∀ console, (act.perform console).2.host = console.host)
    (devices : ∀ console, (act.perform console).2.devices = console.devices)
    (sound : ∀ console, Steady setup console → ∀ session,
      (act.perform console).2.session = some session → session.Sound setup.terms) :
    (steady setup May).Obeyed act := by
  intro console
  rw [ends]
  exact Law.safe_of_kept fun good => { (stands console good.toStanding).stands with
    settings := (settings console).trans good.settings
    platform := (congrArg Host.platform (host console)).trans good.platform
    willing := fun device member => good.willing device (devices console ▸ member)
    enough := devices console ▸ good.enough
    sound := sound console good }

theorem addNote_steady (note : Note) : (steady setup May).Obeyed (addNote note) :=
  steady_of_stands (addNote_stands note) (fun _ => rfl) (fun _ => rfl) (fun _ => rfl)
    (fun _ => rfl) fun _ good => good.sound

theorem notify_steady (text : String) (severity : Severity) :
    (steady setup May).Obeyed (notify text severity) := addNote_steady _

theorem showStatus_steady {change : StatusUpdate} (connection : change.connected = none)
    (noRole : change.role = none) (noAddress : change.offMeshAddress = none) :
    (steady setup May).Obeyed (showStatus change) :=
  steady_of_stands (showStatus_stands connection noRole noAddress) (fun _ => rfl) (fun _ => rfl)
    (fun _ => rfl) (fun _ => rfl) fun _ good => good.sound

/-- A console whose device is held, or not. -/
def lockedAs (console : Console) (locked : Bool) : Console := { console with locked }

/-- Whether the device is held does not matter. -/
theorem Steady.lockedAs (good : Steady setup console) (locked : Bool) :
    Steady setup (console.lockedAs locked) := { good with }

/-- Holding the device during an act is no more than a flag. -/
theorem perform_holdingDevice (act : Act Console α) (console : Console) :
    (holdingDevice act).perform console =
      ((act.perform (console.lockedAs true)).1,
        (act.perform (console.lockedAs true)).2.lockedAs false) := by
  have run : (holdingDevice act).perform console =
      act.thenAlways (setLocked false) (console.lockedAs true) := rfl
  rw [run, Act.thenAlways]
  rcases act.perform (console.lockedAs true) with ⟨outcome, after⟩
  rfl

theorem holdingDevice_steady {act : Act Console α} (inner : (steady setup May).Obeyed act) :
    (steady setup May).Obeyed (holdingDevice act) := by
  intro console good
  rw [perform_holdingDevice]
  obtain ⟨still, may⟩ := inner (console.lockedAs true) (good.lockedAs true)
  exact ⟨still.lockedAs false, may⟩

/-- Another host on the same platform is nothing to a sound session. -/
theorem sound_onHost {terms : Session.Terms} (good : session.Sound terms) {host : Host}
    (platform : host.platform = terms.platform) : Session.Sound terms { session with host } :=
  { good with platform }

/-- Work with the session that keeps it sound. -/
theorem onSession_steady (otherwise : α) {act : Act Session α} (follows : followed.Obeyed act)
    (keeps : (sound setup.terms May).Obeyed act) :
    (steady setup May).Obeyed (onSession otherwise act) := by
  intro console good
  have stands : Kept setup.supply console ((onSession otherwise act).perform console).2 :=
    onSession_stands otherwise follows console good.toStanding
  cases has : console.session with
  | none =>
    rw [perform_onSession_none has]
    exact (steady setup May).refl console good
  | some session =>
    rw [perform_onSession_some has] at stands ⊢
    obtain ⟨still, may⟩ := keeps _ (sound_onHost (good.sound session has) good.platform)
    exact ⟨{ stands.stands with
      settings := good.settings
      platform := still.platform
      willing := good.willing
      enough := good.enough
      sound := fun _ same => Option.some.inj same ▸ still }, may⟩

/-- A disconnection never fails. -/
theorem disconnect_steady : (steady setup May).Obeyed disconnect := by
  intro console good
  by_cases connected : console.connected = true
  · obtain ⟨session, wire, has, released, platform, left⟩ :=
      perform_disconnect good.toStanding connected
    have kept := good.toStanding.disconnected has released
    rw [left]
    refine ⟨⟨kept.stands, good.settings, platform.trans good.platform, good.willing,
      good.enough, ?_⟩,
      fun _ failed => nomatch failed⟩
    rintro _ ⟨⟩
  · rw [perform_disconnect_idle connected]
    exact notify_steady _ _ console good

/-- Giving up a lost link never fails. -/
theorem linkLost_steady (failure : Failure) : (steady setup May).Obeyed (linkLost failure) :=
  (notify_steady _ _).bind fun _ => disconnect_steady

/-- How an exchange on behalf of the console may fail. -/
def Exchanged (failure : Failure) : Prop := failure.isDeviceError = true ∨ failure.isLink = true

/-- A refresh never fails: errors of the device are passed over, and a lost link is given up. -/
theorem refresh_steady : (steady setup May).Obeyed refresh := by
  have looksUp : (sound setup.terms Exchanged).Obeyed
      (Session.getOffMeshAddress none) :=
    Session.getOffMeshAddress_sound (fun _ => id) fun _ good => good.known
  have asks : (sound setup.terms Exchanged).Obeyed askStatus :=
    (Session.getState_sound fun _ => id).bind fun _ =>
      .ite (looksUp.bind fun _ => Law.obeyed_pure _) (Law.obeyed_pure _)
  refine Law.obeyed_get.bind fun console => .ite (Law.obeyed_pure _) ?_
  refine (holdingDevice_steady ?_).bind fun status => Law.obeyed_get_bind fun console => ?_
  · refine Law.Obeyed.attempt_bind (onSession_steady _ askStatus_followed asks)
      (fun status => Law.obeyed_pure _) fun failure exchanged => ?_
    dsimp only
    by_cases deviceError : failure.isDeviceError = true
    · rw [if_pos deviceError]
      exact Law.obeyed_pure _
    · rw [if_neg deviceError, if_pos (exchanged.resolve_left deviceError)]
      exact (linkLost_steady failure).bind fun _ => Law.obeyed_pure _
  · split
    · rename_i session has
      intro good
      have connected : console.connected = true := by
        rw [good.connected, has]
        rfl
      exact Law.safe_of_kept (fun _ => { good.show rfl (.inl connected) with
        settings := good.settings
        platform := good.platform
        willing := good.willing
        enough := good.enough
        sound := good.sound }) good
    · exact (steady setup May).refl console

/-- So a refresh ends well. -/
theorem refresh_ok (good : Steady setup console) : (refresh.perform console).1 = .ok () := by
  obtain ⟨-, never⟩ := @refresh_steady _ (fun _ => False) console good
  cases outcome : (refresh.perform console).1 with
  | ok => rfl
  | error failure => exact (never failure (by rw [outcome]; rfl)).elim

/-- Work on behalf of the user fails only as it may besides errors of the device and failures of the
link. -/
theorem guarded_steady (label : String) {act : Act Session Unit} (follows : followed.Obeyed act)
    (keeps : (sound setup.terms fun failure =>
      Exchanged failure ∨ May failure).Obeyed act)
    {onSuccess : Act Console Unit} (succeeds : (steady setup May).Obeyed onSuccess) :
    (steady setup May).Obeyed (guarded label act onSuccess) := by
  refine Law.Obeyed.attempt_bind (holdingDevice_steady (onSession_steady () follows keeps))
    (fun _ => succeeds.bind fun _ => notify_steady _ _) fun failure failed => ?_
  dsimp only
  by_cases deviceError : failure.isDeviceError = true
  · rw [if_pos deviceError]
    exact notify_steady _ _
  · rw [if_neg deviceError]
    by_cases link : failure.isLink = true
    · rw [if_pos link]
      exact linkLost_steady failure
    · rw [if_neg link]
      have other : ¬Exchanged failure := fun exchanged => exchanged.elim deviceError link
      exact Law.obeyed_throw fun _ => Law.safe_of_failure (failed.resolve_left other) id

/-- Asking for a session never fails. -/
theorem requireSession_steady : (steady setup May).Obeyed requireSession :=
  Law.obeyed_get.bind fun _ =>
    .ite ((notify_steady _ _).bind fun _ => Law.obeyed_pure _) (Law.obeyed_pure _)

/-- How an action lets a failure escape: the dataset of the settings is refused where it is needed,
the blank lines behind a reset cannot be written, or the clock does not take one of the pauses of a
wait. -/
inductive Escapes (platform : Platform) (config : Config) : Action → Failure → Prop where
  | join {fault : Dataset.Fault} (refused : config.dataset = .error fault) :
      Escapes platform config .join (.plain (.dataset fault))
  | scenarios {fault : Dataset.Fault} (refused : config.dataset = .error fault) :
      Escapes platform config .scenarios (.plain (.dataset fault))
  | factoryReset {fault : Fault}
      (unwritable : Session.paddingOf platform config.session.resetPadding = .ok (.error fault)) :
      Escapes platform config .factoryReset (.plain fault)
  | scenarioReset {fault : Fault}
      (unwritable : Session.paddingOf platform config.session.resetPadding = .ok (.error fault)) :
      Escapes platform config .scenarios (.plain fault)
  | scenarioPause {interval length : Float} {refusal : PauseRefusal}
      (paced : config.session.pollInterval = .proper (.real interval))
      (refused : platform.Refuses interval length refusal) :
      Escapes platform config .scenarios (.plain (.pause refusal))

/-- Behind the dataset of the settings, the next act has to do with that dataset alone; where it is
refused, that is a failure that may be. -/
theorem networkDataset_bind_steady {next : Dataset → Act Console α}
    (refused : ∀ fault, setup.config.dataset = .error fault → May (.plain (.dataset fault)))
    (rest : ∀ dataset, setup.config.dataset = .ok dataset →
      (steady setup May).Obeyed (next dataset)) :
    (steady setup May).Obeyed (networkDataset >>= next) := by
  intro console good
  have settings := good.settings
  unfold networkDataset
  simp only [Act.perform_bind, Act.perform_get, settings]
  cases known : setup.config.dataset with
  | ok dataset => exact rest dataset known console good
  | error fault => exact Law.safe_of_failure (refused fault known) id good

theorem join_steady : (steady setup (Escapes setup.platform setup.config .join)).Obeyed join := by
  refine requireSession_steady.bind fun _ => .ite ?_ (Law.obeyed_pure _)
  refine networkDataset_bind_steady (fun fault => .join) fun dataset known => ?_
  obtain ⟨⟨hex, text⟩, usable⟩ := NetworkSettings.usable_of_toDataset known
  exact guarded_steady _ (Session.join_followed dataset)
    (Session.join_sound (fun _ => .inl) text fun _ same => Option.some.inj same ▸ usable)
    (showStatus_steady rfl rfl rfl)

theorem stopRadio_steady : (steady setup May).Obeyed stopRadio :=
  requireSession_steady.bind fun _ =>
    .ite (guarded_steady _ (Session.asking_followed.executeAll _)
      (Session.stopRadio_sound fun _ => .inl) (Law.obeyed_pure _)) (Law.obeyed_pure _)

theorem factoryReset_steady (accepted : setup.Accepted) :
    (steady setup (Escapes setup.platform setup.config .factoryReset)).Obeyed factoryReset :=
  requireSession_steady.bind fun _ =>
    .ite (guarded_steady _ Session.factoryReset_followed
      (Session.factoryReset_sound (fun _ => .inl) fun _ unwritable =>
        .inr (.factoryReset (accepted.padded.trans (congrArg _ unwritable))))
      (Law.obeyed_pure _)) (Law.obeyed_pure _)

theorem scenarios_steady (accepted : setup.Accepted) :
    (steady setup (Escapes setup.platform setup.config .scenarios)).Obeyed scenarios := by
  refine requireSession_steady.bind fun _ => .ite ?_ (Law.obeyed_pure _)
  refine (notify_steady _ _).bind fun _ => (holdingDevice_steady ?_).bind fun _ => addNote_steady _
  refine networkDataset_bind_steady (fun fault => .scenarios) fun dataset known => ?_
  obtain ⟨⟨hex, text⟩, mesh, network⟩ := NetworkSettings.usable_of_toDataset known
  obtain ⟨_, wait, timeout, rfl, -⟩ := accepted.declared.session.waitTimeout
  have limit : setup.config.timeout = .ok timeout := by
    rw [Config.timeout, wait]
    rfl
  have runs : (sound setup.terms (Escapes setup.platform setup.config .scenarios)).Obeyed
      (Scenario.runEvery dataset (.ok timeout)) :=
    Scenario.runEvery_sound
      (fun _ unwritable => .scenarioReset (accepted.padded.trans (congrArg _ unwritable)))
      (by rintro _ ⟨length, refusal, refused, rfl⟩; exact .scenarioPause accepted.paced refused)
      text network fun _ same => Option.some.inj same ▸ ⟨mesh, network⟩
  refine Law.obeyed_get_bind fun console good => ?_
  rw [good.settings, limit]
  exact onSession_steady _ (Session.runEvery_followed dataset _) runs console good

/-- A line that is typed is one also without the blanks around it. -/
theorem isSingleLine_strip {typed : String} (single : Command.isSingleLine typed = true) :
    Command.isSingleLine (Text.Blank.strip typed) = true := by
  have within : ∀ character ∈ Text.Blank.trimWhile Text.Blank.isBlank typed.toList,
      character ∈ typed.toList := by
    intro character member
    have front := (List.dropWhile_suffix Text.Blank.isBlank).mem (List.mem_reverse.1 member)
    exact (List.dropWhile_suffix Text.Blank.isBlank).mem (List.mem_reverse.1 front)
  simp only [Command.isSingleLine, Bool.not_eq_true', List.any_eq_false] at single ⊢
  intro character member
  rw [Text.Blank.strip, String.toList_ofList] at member
  exact single character (within character member)

theorem submit_steady {typed : String} (single : Command.isSingleLine typed = true) :
    (steady setup May).Obeyed (submit typed) :=
  .ite (requireSession_steady.bind fun _ =>
    .ite (guarded_steady _ ((Session.asking_followed.execute _).map _)
      (((Session.accessing_sound fun _ => .inl).execute (isSingleLine_strip single)).map _)
      (Law.obeyed_pure _)) (Law.obeyed_pure _))
    (Law.obeyed_pure _)

/-- A device may send whatever it likes. -/
theorem feed_steady (bytes : Bytes) : (steady setup May).Obeyed (feed bytes) := by
  refine steady_of_stands (feed_stands bytes) (fun _ => rfl) (fun _ => rfl) (fun _ => rfl)
    (fun _ => rfl) fun console good fed there => ?_
  obtain ⟨session, has, rfl⟩ := Option.map_eq_some_iff.1 there
  exact (good.sound session has).alike ⟨rfl, rfl, rfl, rfl, rfl, rfl⟩ rfl

/-- An action that the console offers to a user, or that a device takes: settings stay as they are,
and what is typed is one line. -/
def Action.Offered : Action → Prop
  | .assign .. => False
  | .submit typed => Command.isSingleLine typed = true
  | _ => True

/-- Whether an action opens a device. -/
def Action.opens : Action → Bool
  | .connect => true
  | _ => false

/-- What is offered, other than to open a device, keeps a console steady, and fails only where a
failure escapes. -/
theorem perform_steady {action : Action} (accepted : setup.Accepted) (offered : action.Offered)
    (opensNot : action.opens = false) :
    (steady setup (Escapes setup.platform setup.config action)).Obeyed (perform action) := by
  cases action with
  | connect => cases opensNot
  | disconnect => exact disconnect_steady
  | join => exact join_steady
  | stopRadio => exact stopRadio_steady
  | factoryReset => exact factoryReset_steady accepted
  | scenarios => exact scenarios_steady accepted
  | submit typed => exact submit_steady offered
  | refresh => exact refresh_steady
  | refreshWhileHeld => exact holdingDevice_steady refresh_steady
  | focusInput => exact addNote_steady _
  | unfocusInput => exact addNote_steady _
  | mount => exact addNote_steady _
  | feed bytes => exact feed_steady bytes
  | assign part setting value => exact offered.elim

/-- A console that needs fewer devices than it has has enough of them. -/
theorem Steady.needing (good : Steady setup console) {needed : Nat} (fewer : needed ≤ setup.needed) :
    Steady { setup with needed } console :=
  { good with enough := Nat.le_trans fewer good.enough }

/-- A console that was given a session that can be worked with is steady. -/
theorem Steady.connectedTo (good : Steady setup console) (idle : console.connected = false)
    {needed : Nat} (one : needed + 1 ≤ setup.needed)
    (opens : console.config.openSession console.nextDevice console.host = .opened session)
    (sound : session.Sound setup.terms) :
    Steady { setup with needed } (console.connectedTo session) :=
  { (good.toStanding.connectedTo idle opens).stands with
    settings := good.settings
    platform := sound.platform
    willing := fun device member => good.willing device (List.mem_of_mem_drop member)
    enough := by
      have enough := good.enough
      simp only [Console.connectedTo, List.length_drop]
      omega
    sound := by
      rintro _ ⟨⟩
      refine { sound with calm := fun observer member => ?_ }
      rcases List.mem_append.1 member with there | new
      · exact sound.calm observer there
      · rw [List.mem_singleton.1 new]
        exact Observer.calm_receiver _ _ }

/-- A connection never fails while there are devices that open: a number that is too long is told,
and a session is refreshed at once. -/
theorem connect_cases (good : Steady setup console) (accepted : setup.Accepted)
    {needed : Nat} (one : needed + 1 ≤ setup.needed) (idle : console.connected = false) :
    (∃ failure : Failure, connect.perform console =
      (notify ("Connection failed: " ++ failure.message) .error).perform console) ∨
    ∃ session, connect.perform console = refresh.perform (console.connectedTo session) ∧
      Steady { setup with needed } (console.connectedTo session) := by
  have willing : console.nextDevice.Willing := by
    have enough := good.enough
    cases queue : console.devices with
    | nil => simp [queue] at enough; omega
    | cons device rest =>
      rw [nextDevice, queue]
      exact good.willing device (queue ▸ List.mem_cons_self)
  have connects : ¬console.connected = true := by simp [idle]
  unfold connect
  rw [Act.perform_bind, Act.perform_get]
  simp only [if_neg connects]
  cases shown : console.config.place.isShowable with
  | false => exact .inl ⟨.plain .tooManyDigits, rfl⟩
  | true =>
    right
    have accepts : Session.paddingOf console.host.platform
        console.config.session.resetPadding = .ok setup.padding := by
      rw [good.platform, good.settings, accepted.padded]
    obtain ⟨session, interval, opens, paced, sound⟩ :=
      Session.openSession_willing (good.settings ▸ accepted.declared) shown willing accepts
    obtain rfl : interval = setup.interval := by
      rw [good.settings, accepted.paced] at paced
      cases paced
      rfl
    rw [good.platform] at sound
    refine ⟨session, ?_, good.connectedTo idle one opens sound⟩
    rw [opens]
    rfl

/-- Where there is a device already, no other is opened. -/
theorem perform_connect_again (connected : console.connected = true) :
    connect.perform console = (notify "Already connected" .warning).perform console := by
  unfold connect
  rw [Act.perform_bind, Act.perform_get]
  simp only [connected, if_true]

/-- A connection keeps a console steady, and takes one of the devices at most. -/
theorem connect_steady (good : Steady setup console) (accepted : setup.Accepted)
    {needed : Nat} (one : needed + 1 ≤ setup.needed) :
    (connect.perform console).1 = .ok () ∧
      Steady { setup with needed } (connect.perform console).2 := by
  have fewer : Steady { setup with needed } console := good.needing (by omega)
  by_cases connected : console.connected = true
  · rw [perform_connect_again connected]
    exact ⟨rfl, (@notify_steady _ (fun _ => False) _ _ console fewer).1⟩
  · rcases connect_cases good accepted one (Bool.eq_false_iff.2 connected) with
      ⟨failure, told⟩ | ⟨session, refreshes, given⟩
    · rw [told]
      exact ⟨rfl, (@notify_steady _ (fun _ => False) _ _ console fewer).1⟩
    · rw [refreshes]
      exact ⟨refresh_ok given, (@refresh_steady _ (fun _ => False) _ given).1⟩

end ThreadHost.Console
