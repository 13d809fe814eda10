import ThreadHost.Console.Actions
import ThreadHost.Proofs.Console.Window
import ThreadHost.Proofs.Session.Followed
import ThreadHost.Proofs.Session.Opening
/-!
# How a console stands

Between two actions a console has a device or it has none. Its session, its listener, its flag and
its panel say the same, every other device that it ever opened is given up, and the monitor shows
the last lines of all sessions (`Standing`). Every action keeps this, also one that fails
(`perform_stands`); only a disconnection and the start of a session leave it in between, and each of
the two is therefore taken as one step.
-/

namespace ThreadHost.Console

open Act (Law)
open Session (followed)

/-- What an entry of the monitor tells, without the time. -/
def MonitorEntry.content (entry : MonitorEntry) : String × String := (entry.direction, entry.line)

/-- An event in the words of the monitor. -/
def wording (event : Event) : String × String := (event.1.word, event.2)

/-- Every line that passed on the sessions that the console has had, oldest first. -/
def traffic (console : Console) : List Event :=
  console.pastTraffic ++ (console.session.map Session.traffic).getD []

/-- A listener is listening to a session, and its current receiver is the only observer there. -/
def Follows (listener : Listener) (session : Session) : Prop :=
  ∃ receiver, listener.receiver = some receiver ∧ listener.forwards receiver = true ∧
    session.observers = [.receiver receiver]

/-- How a console stands that was supplied with some devices. -/
structure Standing (supply : List Device) (console : Console) : Prop where
  connected : console.connected = console.session.isSome
  listens : console.listener.isSome = console.session.isSome
  follows : ∀ session listener, console.session = some session →
    console.listener = some listener → Follows listener session
  owns : ∀ session, console.session = some session →
    ∃ link, session.link = some link ∧ link.Held ∧ link.ClosesQuietly
  shown : console.panel.connected = console.connected
  blank : console.connected = false →
    console.panel.role = "UNKNOWN" ∧ console.panel.offMeshAddress = "-"
  released : ∀ wire ∈ console.released, wire.Released
  /-- Every device that opened is either given up or that of the session. -/
  opened : ∃ taken, supply = taken ++ console.devices ∧
    taken.countP (·.openFailure.isNone) = console.openedCount
  quiet : ∀ device ∈ console.devices, device.ClosesQuietly
  capacity : console.monitor.capacity = 20
  monitored : console.monitor.entries.map MonitorEntry.content =
    lastItems 20 (console.traffic.map wording)

/-- A console stands behind an act, no line that passed before it is forgotten, and a device that
nobody held is held by nobody. -/
structure Kept (supply : List Device) (before after : Console) : Prop where
  stands : Standing supply after
  history : before.traffic <+: after.traffic
  unlocked : before.locked = false → after.locked = false

/-- A console that stands is kept standing. -/
def standing (supply : List Device) : Law Console where
  Holds before _ after := Standing supply before → Kept supply before after
  refl _ := fun stands => ⟨stands, List.prefix_rfl, id⟩
  trans first second := by
    intro stands
    have early := first stands
    have late := second early.stands
    exact ⟨late.stands, early.history.trans late.history, late.unlocked ∘ early.unlocked⟩

variable {supply : List Device} {console : Console} {session after : Session}
  {listener : Listener} {receiver : Receiver} {α : Type}

theorem standing_blind : (standing supply).Blind := fun _ holds => holds

/-- A session is followed by a listener. -/
theorem Standing.has_listener (stands : Standing supply console)
    (has : console.session = some session) :
    ∃ listener, console.listener = some listener ∧ Follows listener session := by
  obtain ⟨listener, listens⟩ : ∃ listener, console.listener = some listener := by
    rw [← Option.isSome_iff_exists, stands.listens, has]
    rfl
  exact ⟨listener, listens, stands.follows session listener has listens⟩

/-- What is shown of a device is shown while there is one, or is no more than its network. -/
theorem Standing.show (stands : Standing supply console) {change : StatusUpdate}
    (connection : change.connected = none)
    (apart : console.connected = true ∨ change.role = none ∧ change.offMeshAddress = none) :
    Standing supply { console with panel := console.panel.update change } :=
  { stands with
    shown := by
      rw [← stands.shown]
      simp [StatusPanel.update, connection]
    blank := by
      intro (disconnected : console.connected = false)
      obtain ⟨role, address⟩ := stands.blank disconnected
      rcases apart with connected | ⟨noRole, noAddress⟩
      · rw [connected] at disconnected
        cases disconnected
      · simp [StatusPanel.update, noRole, noAddress, role, address] }

theorem showStatus_stands {change : StatusUpdate} (connection : change.connected = none)
    (noRole : change.role = none) (noAddress : change.offMeshAddress = none) :
    (standing supply).Obeyed (showStatus change) := fun _ stands =>
  ⟨stands.show connection (.inr ⟨noRole, noAddress⟩), List.prefix_rfl, id⟩

theorem addNote_stands (note : Note) : (standing supply).Obeyed (addNote note) := fun _ stands =>
  ⟨{ stands with }, List.prefix_rfl, id⟩

theorem notify_stands (text : String) (severity : Severity) :
    (standing supply).Obeyed (notify text severity) := addNote_stands _

theorem throw_stands (failure : Failure) :
    (standing supply).Obeyed (throw failure : Act Console α) := (standing supply).refl

/-- Whoever held the device, nobody holds it behind an act during which it was held. -/
theorem holdingDevice_stands {act : Act Console α} (inner : (standing supply).Obeyed act) :
    (standing supply).Obeyed (holdingDevice act) := by
  intro console
  have left : ((holdingDevice act).perform console).2 =
      { (act.perform { console with locked := true }).2 with locked := false } := by
    unfold holdingDevice setLocked
    rw [Act.perform_bind, Act.perform_modify]
    exact Act.snd_perform_thenAlways act _ _
  rw [left]
  intro stands
  have held := inner { console with locked := true } { stands with }
  exact ⟨{ held.stands with }, held.history, fun _ => rfl⟩

/-- The listener passes on what its receiver was told. -/
theorem watch_of_told (monitor : Monitor) (current : listener.forwards receiver = true)
    {notices : List Notice} (told : ∀ notice ∈ notices, notice.observer = .receiver receiver) :
    watch monitor (some listener) notices = (notices.map entryOf).foldl Monitor.add monitor := by
  have all : notices.filter (passesOn (some listener)) = notices := by
    rw [List.filter_eq_self]
    intro notice member
    simp [passesOn, told notice member, current]
  rw [watch, all, List.foldl_map]

/-- What the receiver of a session is told while the session is worked with goes to the monitor. -/
theorem Standing.put (stands : Standing supply console) (has : console.session = some session)
    {ending : Option Failure}
    (holds : followed.Holds { session with host := console.host } ending after) :
    Kept supply console (console.putSession { session with host := console.host } after) := by
  obtain ⟨listener, listens, receiver, current, forwards, only⟩ := stands.has_listener has
  obtain ⟨observers, fresh, notices, told, traffic⟩ := holds.2 receiver only
  have soFar : console.traffic = console.pastTraffic ++ session.traffic := by
    rw [Console.traffic, has]
    rfl
  have grown : (console.putSession { session with host := console.host } after).traffic =
      console.traffic ++ fresh.map Notice.event := by
    rw [soFar, List.append_assoc, ← traffic]
    rfl
  have watched : (console.putSession { session with host := console.host } after).monitor =
      (fresh.map entryOf).foldl Monitor.add console.monitor := by
    rw [putSession, notices, List.drop_left, listens]
    exact watch_of_told _ forwards told
  refine ⟨{ stands with
    connected := stands.connected.trans (by rw [has]; rfl)
    listens := stands.listens.trans (by rw [has]; rfl)
    follows := ?_
    owns := ?_
    opened := ?_
    capacity := ?_
    monitored := ?_ }, ?_, id⟩
  · rintro _ other ⟨⟩ same
    cases listens.symm.trans same
    exact ⟨receiver, current, forwards, observers⟩
  · rintro _ ⟨⟩
    obtain ⟨link, owns, fine⟩ := stands.owns session has
    exact ⟨link, holds.1.trans owns, fine⟩
  · obtain ⟨taken, rest, count⟩ := stands.opened
    refine ⟨taken, rest, count.trans ?_⟩
    rw [openedCount, has]
    rfl
  · rw [watched, Monitor.capacity_addAll]
    exact stands.capacity
  · have natural : 0 ≤ console.monitor.capacity := by
      rw [stands.capacity]
      decide
    have holdsSoFar := stands.monitored
    rw [← stands.capacity] at holdsSoFar
    rw [watched, Monitor.entries_addAll natural _ holdsSoFar, stands.capacity, grown,
      List.map_append, List.map_map, List.map_map]
    rfl
  · rw [grown]
    exact List.prefix_append _ _

theorem perform_onSession_none (has : console.session = none) (otherwise : α)
    (act : Act Session α) :
    (onSession otherwise act).perform console = (.ok otherwise, console) := by
  change onSession otherwise act console = _
  rw [onSession, has]

theorem perform_onSession_some (has : console.session = some session) (otherwise : α)
    (act : Act Session α) :
    (onSession otherwise act).perform console =
      ((act.perform { session with host := console.host }).1,
        console.putSession { session with host := console.host }
          (act.perform { session with host := console.host }).2) := by
  change onSession otherwise act console = _
  rw [onSession, has]

/-- Work with the session that leaves a follower of it in place. -/
theorem onSession_stands (otherwise : α) {act : Act Session α} (obeyed : followed.Obeyed act) :
    (standing supply).Obeyed (onSession otherwise act) := by
  intro console
  cases has : console.session with
  | none =>
    rw [perform_onSession_none has]
    exact (standing supply).refl console
  | some session =>
    rw [perform_onSession_some has]
    exact fun stands => stands.put has (obeyed _)

end ThreadHost.Console
