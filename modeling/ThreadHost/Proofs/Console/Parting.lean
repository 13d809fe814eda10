import ThreadHost.Proofs.Console.Handled
/-!
# Devices that do not close

A console gives its device up when it is told to, and when the link is lost. What comes of it hangs
on one thing, whether the session closes (`disconnect_parted`): if it does, nothing says any more
that there is a device, and the next one can be opened; if it does not, the console has stopped
listening but goes on saying that it is connected, to a device that was closed, and opens no other.
-/

namespace ThreadHost.Console

variable {console after : Console} {session : Session} {failure : Failure}
  {part : Act Console Unit} {outcome : Except Failure Unit}

/-- A console without a device, which does not say that it has one. -/
structure GivenUp (console : Console) : Prop where
  session : console.session = none
  connected : console.connected = false
  listener : console.listener = none
  shown : console.panel.connected = false

/-- What comes of closing the session of a console, and the wire behind it. -/
def closed (console : Console) (session : Session) : Except Failure Unit × Wire :=
  Wire.close.perform (console.working session).toWire

/-- Whether the device of a console closes. Where there is none, nothing can fail. -/
def closing (console : Console) : Except Failure Unit :=
  match console.session with
  | none => .ok ()
  | some session => (console.closed session).1

/-- A console that has stopped listening to its device and has closed it, and still says that it is
connected. -/
structure Stuck (before after : Console) : Prop where
  listener : after.listener = none
  connected : after.connected = true
  panel : after.panel = before.panel
  session : ∃ given kept, before.session = some given ∧ after.session = some kept ∧
    kept.toWire = (before.closed given).2

/-- How giving a device up ends. -/
inductive Parted (before : Console) : Except Failure Unit → Console → Prop where
  | givenUp {after : Console} (closes : before.closing = .ok ()) (givenUp : GivenUp after) :
      Parted before (.ok ()) after
  | stuck {failure : Failure} {after : Console} (fails : before.closing = .error failure)
      (stuck : Stuck before after) : Parted before (.error failure) after

/-- The acts that give the device up: a user asks for it, or the link is lost. -/
inductive Parting : Act Console Unit → Prop where
  | disconnect : Parting disconnect
  | linkLost (failure : Failure) : Parting (linkLost failure)

/-- A session that does not close is not forgotten. -/
theorem perform_closeSession_of_error (has : console.session = some session) {wire : Wire}
    (fails : Wire.close.perform { session.toWire with host := console.host } =
      (.error failure, wire)) :
    closeSession.perform console = (.error failure, { console with
      host := wire.host
      session := some { session with toWire := wire } }) := by
  have closed : Session.close.perform { session with host := console.host } =
      (.error failure, { session with toWire := wire }) := by
    rw [Session.close, Session.onWire, Act.perform_onPart, fails]
  unfold closeSession
  rw [Act.perform_bind, perform_onSession_some has, closed]
  simp [putSession, watch]

/-- A disconnection leaves no device if the device closes, and otherwise a console that is stuck
with it. -/
theorem disconnect_parted (connected : console.connected = true) :
    Parted console (disconnect.perform console).1 (disconnect.perform console).2 := by
  obtain ⟨observers, unwatched⟩ := perform_unwatch console
  rw [perform_disconnect_unwatched connected unwatched]
  cases has : console.session with
  | none =>
    unfold closeSession
    rw [Act.perform_bind, perform_onSession_none rfl]
    exact .givenUp (by rw [closing, has]) ⟨rfl, rfl, rfl, rfl⟩
  | some session =>
    let silent : Console :=
      { console with session := some { session with observers }, listener := none }
    rcases closes : console.closed session with ⟨failure | _, wire⟩
    · have failed := @perform_closeSession_of_error silent _ failure rfl wire closes
      rw [Option.map_some, failed]
      refine .stuck (by simp only [closing, has, closes]) ⟨rfl, connected, rfl, ?_⟩
      exact ⟨session, _, has, rfl, by rw [closes]⟩
    · have answered := @perform_closeSession_of_ok silent _ rfl wire closes
      rw [Option.map_some, answered]
      exact .givenUp (by simp only [closing, has, closes]) ⟨rfl, rfl, rfl, rfl⟩

/-- A note is nothing to the device. -/
theorem Parted.of_notify {text : String} {severity : Severity}
    (parted : Parted ((notify text severity).perform console).2 outcome after) :
    Parted console outcome after := by
  cases parted with
  | givenUp closes givenUp => exact .givenUp closes givenUp
  | stuck fails stuck => exact .stuck fails { stuck with }

/-- Either act ends like that. -/
theorem parting_parted (parting : Parting part) (connected : console.connected = true) :
    Parted console (part.perform console).1 (part.perform console).2 := by
  cases parting with
  | disconnect => exact disconnect_parted connected
  | linkLost failure => exact Parted.of_notify (disconnect_parted connected)

/-- Where there is no device, the one that opens next gets a session, which is refreshed. -/
theorem perform_connect_opened (idle : console.connected = false)
    (opens : console.config.openSession console.nextDevice console.host = .opened session) :
    connect.perform console = refresh.perform (console.connectedTo session) := by
  have result : Session.openGiven console.config.place { options := console.config.options }
      console.nextDevice console.host = .opened session := opens
  obtain ⟨-, shown, -⟩ := Session.of_openGiven_opened result
  unfold connect
  rw [Act.perform_bind, Act.perform_get]
  simp only [idle, shown, Bool.not_true, Bool.false_eq_true, if_false]
  rw [opens]
  rfl

/-- A console that gives its device up stops listening to it, and ends as closing it ends. It has
given the device up exactly if that did not fail, and then the next device that opens gets a
session. Otherwise it is stuck with the device, and opens no other. -/
theorem parting_iff_closing (parting : Parting part) (connected : console.connected = true)
    (ends : part.perform console = (outcome, after)) :
    outcome = console.closing ∧ after.listener = none ∧
      (GivenUp after ↔ console.closing = .ok ()) ∧
      (console.closing = .ok () → ∀ session,
        after.config.openSession after.nextDevice after.host = .opened session →
        connect.perform after = refresh.perform (after.connectedTo session)) ∧
      ∀ failure, console.closing = .error failure →
        Stuck console after ∧
          connect.perform after = (notify "Already connected" .warning).perform after := by
  have parted : Parted console outcome after := by
    have whole := parting_parted parting connected
    rwa [ends] at whole
  cases parted with
  | givenUp closes givenUp =>
    refine ⟨closes.symm, givenUp.listener, iff_of_true givenUp closes,
      fun _ session => perform_connect_opened givenUp.connected, fun failure fails => ?_⟩
    cases closes.symm.trans fails
  | stuck fails stuck =>
    have notClosed : ¬console.closing = .ok () := by
      rw [fails]
      nofun
    have notGivenUp : ¬GivenUp after := fun givenUp =>
      Bool.false_ne_true (givenUp.connected.symm.trans stuck.connected)
    exact ⟨fails.symm, stuck.listener, iff_of_false notGivenUp notClosed,
      fun closes => absurd closes notClosed,
      fun _ _ => ⟨stuck, perform_connect_again stuck.connected⟩⟩

/-- A simulated device whose output does not close. -/
def jammedDevice : Device where
  streams := { unread := Text.Utf8.encode "disabled\nDone\n".toList }
  process := { outputCloseFailure := some (.plain (.system .other "Broken pipe")) }

/-- A console that is connected to such a device, and would find another one next. -/
def jammed : Console := (start {} {} [jammedDevice, briefDevice]).afterAll [.connect]

/-- It is told to disconnect, and is stuck. -/
theorem parting_iff_closing_jammed :
    jammed.connected = true ∧ ∃ failure : Failure, failure.message = "Broken pipe" ∧
      (disconnect.perform jammed).1 = .error failure ∧
      Stuck jammed (disconnect.perform jammed).2 ∧
      connect.perform (disconnect.perform jammed).2 =
        (notify "Already connected" .warning).perform (disconnect.perform jammed).2 := by
  have connected : jammed.connected = true := by decide +kernel
  have fails : (Act.ending jammed.closing).map Failure.message = some "Broken pipe" := by
    decide +kernel
  refine ⟨connected, ?_⟩
  obtain ⟨outcome, -, -, -, stays⟩ := parting_iff_closing .disconnect connected (Prod.eta _).symm
  cases closes : jammed.closing with
  | ok =>
    rw [closes] at fails
    cases fails
  | error failure =>
    rw [closes] at fails
    exact ⟨failure, Option.some.inj fails, outcome.trans closes, stays failure closes⟩

/-- So a console that gives its device up does not always say so. -/
theorem parting_not_always_givenUp :
    ¬∀ (config : Config) (host : Host) (supply : List Device) (actions : List Action)
      (part : Act Console Unit), Parting part →
      ((start config host supply).afterAll actions).connected = true →
      GivenUp (part.perform ((start config host supply).afterAll actions)).2 := by
  intro always
  have givenUp := always {} {} [jammedDevice, briefDevice] [.connect] disconnect .disconnect
    (by decide +kernel)
  have stillConnected : (disconnect.perform
      ((start {} {} [jammedDevice, briefDevice]).afterAll [.connect])).2.connected = true := by
    decide +kernel
  rw [givenUp.connected] at stillConnected
  cases stillConnected

end ThreadHost.Console
