import ThreadHost.Config.Basic
import ThreadHost.Console.Monitor
import ThreadHost.Console.StatusPanel
import ThreadHost.Session.Operations
/-!
# The console

An interactive console for one device at a time. It owns at most one session; a listener on that
session feeds the monitor. Whatever happens to the device is told in short notes.
-/

namespace ThreadHost

namespace Console

/-- How serious a note is. -/
inductive Severity where
  | information
  | warning
  | error
  deriving Repr, DecidableEq

/-- The word for a severity. -/
def Severity.word : Severity → String
  | .information => "information"
  | .warning => "warning"
  | .error => "error"

/-- What the console did to its screen. -/
inductive Note where
  /-- A message, with the seconds for which it is shown if that is not left open. -/
  | message (text : String) (severity : Severity) (seconds : Option Nat)
  | focusInput
  | unfocusInput
  /-- From now on the state is refreshed every so many seconds. -/
  | refreshEvery (seconds : Float)
  deriving Repr, DecidableEq

end Console

/-- The console. -/
structure Console where
  config : Config
  host : Host := {}
  /-- The devices that will be opened, the next one first. -/
  devices : List Device := []
  session : Option Session := none
  connected : Bool := false
  listener : Option Listener := none
  /-- Whether a worker holds the device. -/
  locked : Bool := false
  panel : Console.StatusPanel := {}
  monitor : Console.Monitor := {}
  notes : List Console.Note := []
  /-- Every device that was opened and given up, as it was left, oldest first. -/
  released : List Wire := []
  /-- Every line that passed on sessions that were given up, oldest first. -/
  pastTraffic : List (Direction × String) := []

namespace Console

/-- Add a note. -/
def addNote (note : Note) : Act Console Unit :=
  modify fun console => { console with notes := console.notes ++ [note] }

/-- Show a message. -/
def notify (text : String) (severity : Severity) : Act Console Unit :=
  addNote (.message text severity none)

/-- Change the panel. -/
def showStatus (change : StatusUpdate) : Act Console Unit :=
  modify fun console => { console with panel := console.panel.update change }

/-- The entry of a notice. -/
def entryOf (notice : Notice) : MonitorEntry :=
  ⟨Calendar.microseconds notice.time, notice.direction.word, notice.line⟩

/-- Whether the listener passes a notice on. -/
def passesOn (listener : Option Listener) (notice : Notice) : Bool :=
  match listener, notice.observer with
  | some listener, .receiver receiver => listener.forwards receiver
  | _, _ => false

/-- The monitor after notices that reached the listener. -/
def watch (monitor : Monitor) (listener : Option Listener) (notices : List Notice) : Monitor :=
  (notices.filter (passesOn listener)).foldl (fun monitor notice => monitor.add (entryOf notice))
    monitor

/-- The console after an operation has changed its session. -/
def putSession (console : Console) (before after : Session) : Console :=
  { console with
    host := after.host
    session := some after
    monitor := watch console.monitor console.listener
      (after.notices.drop before.notices.length) }

/-- Do something with the session, or else nothing. -/
def onSession {α : Type} (otherwise : α) (act : Act Session α) : Act Console α := fun console =>
  match console.session with
  | none => (.ok otherwise, console)
  | some session =>
    let session := { session with host := console.host }
    let (outcome, after) := act.perform session
    (outcome, console.putSession session after)

/-- Take or release the device. -/
def setLocked (locked : Bool) : Act Console Unit :=
  modify fun console => { console with locked }

/-- Hold the device during an operation. -/
def holdingDevice {α : Type} (act : Act Console α) : Act Console α := do
  setLocked true
  act.thenAlways (setLocked false)

/-- The console without its session, which was closed. -/
def releaseSession (console : Console) : Console :=
  match console.session with
  | none => console
  | some session =>
    { console with
      session := none
      released := console.released ++ [session.toWire]
      pastTraffic := console.pastTraffic ++ session.traffic }

/-- The device that was opened last, if any was. -/
def lastDevice (console : Console) : Option Wire :=
  match console.session with
  | some session => some session.toWire
  | none => console.released.getLast?

/-- How many devices were opened. -/
def openedCount (console : Console) : Nat :=
  console.released.length + (if console.session.isSome then 1 else 0)

end Console

end ThreadHost
