import ThreadHost.Proofs.Console.Lifecycle
/-!
# Consoles stay coherent

Whatever a console is told to do, in whatever order, and whatever its devices do, behind every
action its parts agree with each other (`run_coherent`) and its monitor shows the last lines of all
that ever passed (`run_monitored`).
-/

namespace ThreadHost.Console

open Act (Law)
open Session (followed asking_followed)

variable {supply : List Device} {console : Console}

/-- Asking for a session. -/
theorem requireSession_stands : (standing supply).Obeyed requireSession :=
  Law.obeyed_get.bind fun _ =>
    .ite ((notify_stands _ _).bind fun _ => Law.obeyed_pure _) (Law.obeyed_pure _)

/-- Work on behalf of the user keeps a console standing, also when the link is lost. -/
theorem guarded_stands (label : String) {act : Act Session Unit} (obeyed : followed.Obeyed act)
    {onSuccess : Act Console Unit} (succeeds : (standing supply).Obeyed onSuccess) :
    (standing supply).Obeyed (guarded label act onSuccess) := by
  refine ((holdingDevice_stands (onSession_stands () obeyed)).attempt standing_blind).bind
    fun outcome => ?_
  cases outcome with
  | ok => exact succeeds.bind fun _ => notify_stands _ _
  | error failure =>
    exact .ite (notify_stands _ _) (.ite (linkLost_stands failure) (throw_stands failure))

/-- The dataset of the settings is there or it is refused. -/
theorem networkDataset_stands : (standing supply).Obeyed networkDataset := by
  refine Law.obeyed_get.bind fun console => ?_
  cases console.config.dataset with
  | ok dataset => exact Law.obeyed_pure dataset
  | error fault => exact throw_stands _

theorem join_stands : (standing supply).Obeyed join :=
  requireSession_stands.bind fun _ =>
    .ite (networkDataset_stands.bind fun dataset =>
      guarded_stands _ (Session.join_followed dataset) (showStatus_stands rfl rfl rfl))
      (Law.obeyed_pure _)

theorem stopRadio_stands : (standing supply).Obeyed stopRadio :=
  requireSession_stands.bind fun _ =>
    .ite (guarded_stands _ (asking_followed.executeAll _) (Law.obeyed_pure _)) (Law.obeyed_pure _)

theorem factoryReset_stands : (standing supply).Obeyed factoryReset :=
  requireSession_stands.bind fun _ =>
    .ite (guarded_stands _ Session.factoryReset_followed (Law.obeyed_pure _)) (Law.obeyed_pure _)

theorem scenarios_stands : (standing supply).Obeyed scenarios :=
  requireSession_stands.bind fun _ =>
    .ite ((notify_stands _ _).bind fun _ =>
      (holdingDevice_stands (networkDataset_stands.bind fun dataset => Law.obeyed_get.bind
        fun _ => onSession_stands _ (Session.runEvery_followed dataset _))).bind
          fun _ => addNote_stands _)
      (Law.obeyed_pure _)

theorem submit_stands (typed : String) : (standing supply).Obeyed (submit typed) :=
  .ite (requireSession_stands.bind fun _ =>
    .ite (guarded_stands _ ((asking_followed.execute _).map _) (Law.obeyed_pure _))
      (Law.obeyed_pure _))
    (Law.obeyed_pure _)

/-- A device may send whatever it likes. -/
theorem feed_stands (bytes : Bytes) : (standing supply).Obeyed (feed bytes) := by
  intro console stands
  have sameTraffic : ((feed bytes).perform console).2.traffic = console.traffic := by
    simp only [feed, Act.perform_modify, traffic]
    cases console.session <;> rfl
  have stillThere : ((feed bytes).perform console).2.session.isSome = console.session.isSome := by
    simp only [feed, Act.perform_modify, Option.isSome_map]
  refine ⟨{ stands with
    connected := stands.connected.trans stillThere.symm
    listens := stands.listens.trans stillThere.symm
    follows := ?_
    owns := ?_
    opened := ?_
    monitored := ?_ }, ?_, id⟩
  · intro fed listener there listens
    obtain ⟨session, has, rfl⟩ := Option.map_eq_some_iff.1 there
    exact stands.follows session listener has listens
  · intro fed there
    obtain ⟨session, has, rfl⟩ := Option.map_eq_some_iff.1 there
    exact stands.owns session has
  · obtain ⟨taken, rest, count⟩ := stands.opened
    refine ⟨taken, rest, count.trans ?_⟩
    rw [openedCount, openedCount, stillThere]
    rfl
  · rw [sameTraffic]
    exact stands.monitored
  · exact sameTraffic ▸ List.prefix_rfl

/-- Settings are about the devices that are opened later. -/
theorem assign_stands (part setting : String) (value : Datum) :
    (standing supply).Obeyed (assign part setting value) :=
  Law.obeyed_get.bind fun _ =>
    (Law.obeyed_ofFault fun _ _ => (standing supply).refl).bind fun _ _ stands =>
      ⟨{ stands with }, List.prefix_rfl, id⟩

/-- Every action keeps a console standing, whether it fails or not. -/
theorem perform_stands (action : Action) : (standing supply).Obeyed (perform action) := by
  cases action with
  | connect => exact connect_stands
  | disconnect => exact disconnect_stands
  | join => exact join_stands
  | stopRadio => exact stopRadio_stands
  | factoryReset => exact factoryReset_stands
  | scenarios => exact scenarios_stands
  | submit typed => exact submit_stands typed
  | refresh => exact refresh_stands
  | refreshWhileHeld => exact holdingDevice_stands refresh_stands
  | focusInput => exact addNote_stands _
  | unfocusInput => exact addNote_stands _
  | mount => exact addNote_stands _
  | feed bytes => exact feed_stands bytes
  | assign part setting value => exact assign_stands part setting value

/-- A console before anything was done, supplied with the devices that it will open. -/
def start (config : Config) (host : Host) (supply : List Device) : Console :=
  { config, host, devices := supply }

/-- A console after some actions. An action that fails leaves it as it was at the failure. -/
def afterAll (actions : List Action) (console : Console) : Console :=
  actions.foldl (fun console action => ((perform action).perform console).2) console

/-- A console that was just started stands. -/
theorem standing_start (config : Config) (host : Host)
    (quiet : ∀ device ∈ supply, device.ClosesQuietly) :
    Standing supply (start config host supply) where
  connected := rfl
  listens := rfl
  follows := by rintro _ _ ⟨⟩
  owns := by rintro _ ⟨⟩
  shown := rfl
  blank _ := ⟨rfl, rfl⟩
  released := by rintro _ ⟨⟩
  opened := ⟨[], rfl, rfl⟩
  quiet := quiet
  capacity := rfl
  monitored := rfl

/-- Any actions keep a console standing, by induction over the actions. -/
theorem Standing.afterAll (stands : Standing supply console) (actions : List Action) :
    Kept supply console (console.afterAll actions) := by
  induction actions generalizing console with
  | nil => exact (standing supply).refl console stands
  | cons action actions inductionHypothesis =>
    have first := perform_stands action console stands
    have rest := inductionHypothesis first.stands
    exact ⟨rest.stands, first.history.trans rest.history, rest.unlocked ∘ first.unlocked⟩

/-- The parts of a console agree with each other, and every device that it opened is accounted
for. -/
structure Coherent (supply : List Device) (console : Console) : Prop where
  session : console.connected = true ↔ console.session.isSome = true
  listener : console.connected = true ↔ console.listener.isSome = true
  listening : ∀ listener, console.listener = some listener → listener.isListening = true
  /-- A session is observed by the current receiver of the listener and by nobody else. -/
  observed : ∀ session, console.session = some session →
    ∃ listener receiver, console.listener = some listener ∧ listener.receiver = some receiver ∧
      listener.forwards receiver = true ∧ session.observers = [.receiver receiver]
  unlocked : console.locked = false
  shown : console.panel.connected = console.connected
  blank : console.connected = false →
    console.panel.role = "UNKNOWN" ∧ console.panel.offMeshAddress = "-"
  released : ∀ wire ∈ console.released, wire.Released
  /-- Of the devices that were taken so far, those that opened were given up, except for that of
  the session. -/
  opened : ∃ taken, supply = taken ++ console.devices ∧
    taken.countP (·.openFailure.isNone) =
      console.released.length + if console.session.isSome then 1 else 0

/-- A console that stands, and whose device nobody holds, is coherent. -/
theorem Standing.coherent (stands : Standing supply console) (unlocked : console.locked = false) :
    Coherent supply console := by
  refine {
    session := by rw [stands.connected]
    listener := by rw [stands.connected, stands.listens]
    listening := ?_
    observed := ?_
    unlocked := unlocked
    shown := stands.shown
    blank := stands.blank
    released := stands.released
    opened := stands.opened }
  · intro listener listens
    obtain ⟨session, has⟩ : ∃ session, console.session = some session := by
      rw [← Option.isSome_iff_exists, ← stands.listens, listens]
      rfl
    obtain ⟨receiver, current, -⟩ := stands.follows session listener has listens
    rw [Listener.isListening, current]
    rfl
  · intro session has
    obtain ⟨listener, listens, receiver, current, forwards, only⟩ := stands.has_listener has
    exact ⟨listener, receiver, listens, current, forwards, only⟩

/-- Behind any actions a console is coherent, whatever its devices do, as long as closing them does
not fail. -/
theorem run_coherent (config : Config) (host : Host) (supply : List Device)
    (quiet : ∀ device ∈ supply, device.ClosesQuietly) (actions : List Action) :
    Coherent supply ((start config host supply).afterAll actions) := by
  have kept := (standing_start config host quiet).afterAll actions
  exact kept.stands.coherent (kept.unlocked rfl)

/-- A simulated device that tells its role and its channel, and then falls silent. -/
def briefDevice : Device where
  streams := { unread := Text.Utf8.encode "disabled\nDone\n15\nDone\n".toList }

theorem quiet_briefDevice : briefDevice.ClosesQuietly := ⟨by rintro _ ⟨⟩, rfl, rfl⟩

/-- The link is lost when the radio is to be stopped; then there is one more device, which does not
open. -/
theorem run_coherent_briefDevice :
    (∀ device ∈ [briefDevice, .missing], device.ClosesQuietly) ∧
    ((start {} {} [briefDevice, .missing]).afterAll
      [.connect, .submit "channel"]).connected = true ∧
    ((start {} {} [briefDevice, .missing]).afterAll
      [.connect, .submit "channel", .stopRadio, .connect]).released.map Wire.returnCode =
        [some (-15)] ∧
    Coherent [briefDevice, .missing] ((start {} {} [briefDevice, .missing]).afterAll
      [.connect, .submit "channel", .stopRadio, .connect]) := by
  have quiet : ∀ device ∈ [briefDevice, .missing], device.ClosesQuietly := by
    simp [quiet_briefDevice, quiet_missing]
  exact ⟨quiet, by decide +kernel, by decide +kernel, run_coherent {} {} _ quiet _⟩

/-- The monitor shows the last twenty of all lines that ever passed on sessions of the console, in
order; and of what has passed before some actions, nothing is different behind them. -/
theorem run_monitored (config : Config) (host : Host) (supply : List Device)
    (quiet : ∀ device ∈ supply, device.ClosesQuietly) (earlier later : List Action) :
    (((start config host supply).afterAll (earlier ++ later)).monitor.entries.map
        MonitorEntry.content =
      lastItems 20 (((start config host supply).afterAll (earlier ++ later)).traffic.map
        wording)) ∧
    ((start config host supply).afterAll earlier).traffic <+:
      ((start config host supply).afterAll (earlier ++ later)).traffic := by
  have joined : (start config host supply).afterAll (earlier ++ later) =
      ((start config host supply).afterAll earlier).afterAll later := List.foldl_append
  have first := (standing_start config host quiet).afterAll earlier
  have kept := first.stands.afterAll later
  rw [joined]
  exact ⟨kept.stands.monitored, kept.history⟩

/-- A link that is lost, and a second device. -/
theorem run_monitored_briefDevices :
    (∀ device ∈ [briefDevice, briefDevice], device.ClosesQuietly) ∧
    lastItems 20 (((start {} {} [briefDevice, briefDevice]).afterAll
        ([.connect, .submit "channel", .stopRadio] ++ [.connect])).traffic.map wording) =
      [("TX", "state"), ("RX", "disabled"), ("RX", "Done"), ("TX", "channel"), ("RX", "15"),
        ("RX", "Done"), ("TX", "thread stop"), ("TX", "state"), ("RX", "disabled"),
        ("RX", "Done")] := by
  have quiet : ∀ device ∈ [briefDevice, briefDevice], device.ClosesQuietly := by
    simp [quiet_briefDevice]
  refine ⟨quiet, ?_⟩
  rw [← (run_monitored {} {} _ quiet _ _).1]
  decide +kernel

end ThreadHost.Console
