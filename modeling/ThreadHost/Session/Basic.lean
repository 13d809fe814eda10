import ThreadHost.Command
import ThreadHost.Dataset.Basic
import ThreadHost.Link.Open
import ThreadHost.Listener.Basic
import ThreadHost.Waiting
/-!
# Sessions

A session drives one device. It counts what passes, tells its observers, and remembers the dataset
of the last join.
-/

namespace ThreadHost

/-- What a session counts. -/
structure Stats where
  commandsSent : Nat := 0
  linesReceived : Nat := 0
  promptLines : Nat := 0
  deviceErrors : Nat := 0
  deriving Repr, DecidableEq

/-- Which way a line went. -/
inductive Direction where
  | sent
  | received
  deriving Repr, DecidableEq

/-- A line, and which way it went. -/
abbrev Event := Direction × String

/-- What an observer does besides taking note: nothing, or it fails, or it takes itself or everybody
off the list of observers. -/
inductive Reaction where
  | none
  | fail (fault : Fault)
  | removeSelf
  | removeAll
  deriving Repr, DecidableEq

/-- How the observer of a name reacts to the last of the lines that have passed. -/
abbrev Manner := String → List Event → Reaction

/-- Somebody who is told of every line: an observer with a name, or the receiver of a listener. -/
inductive Observer where
  | named (name : String)
  | receiver (receiver : Receiver)
  deriving Repr, DecidableEq

/-- How an observer reacts to the last of the lines that have passed. A receiver only hands it
on. -/
def Observer.reaction (manner : Manner) (passed : List Event) : Observer → Reaction
  | .named name => manner name passed
  | .receiver _ => .none

/-- What an observer was told, and when. -/
structure Notice where
  observer : Observer
  direction : Direction
  line : String
  time : Float
  deriving Repr, DecidableEq

/-- A session on the streams of one device. -/
structure Session extends Wire where
  /-- The pause between two checks while waiting, or why there can be none. -/
  pollInterval : Except Fault Float
  /-- How many blank lines follow a factory reset, or why they cannot be written. -/
  padding : Except Fault Nat
  activeDataset : Option Dataset := none
  observers : List Observer := []
  /-- How those observers that have a name react. -/
  manner : Manner := fun _ _ => .none
  stats : Stats := {}
  /-- Every line that passed, oldest first. -/
  traffic : List Event := []
  /-- What all observers were told, oldest first. -/
  notices : List Notice := []

namespace Session

/-- An operation on the streams, as an operation of the session. -/
def onWire {α : Type} (act : Act Wire α) : Act Session α :=
  Act.onPart Session.toWire (fun wire session => { session with toWire := wire }) act

/-- Add an observer; one that is added twice is told twice. -/
def addObserver (session : Session) (observer : Observer) : Session :=
  { session with observers := session.observers ++ [observer] }

/-- Remove an observer once, if it is there. -/
def removeObserver (session : Session) (observer : Observer) : Session :=
  { session with observers := session.observers.erase observer }

/-- Attach a listener that is not listening. -/
def listen (session : Session) (listener : Listener) : Session × Listener :=
  match listener.start? with
  | none => (session, listener)
  | some (receiver, listener) => (session.addObserver (.receiver receiver), listener)

/-- Detach a listener that is listening. -/
def unlisten (session : Session) (listener : Listener) : Session × Listener :=
  match listener.stop? with
  | none => (session, listener)
  | some (receiver, listener) => (session.removeObserver (.receiver receiver), listener.release)

/-- Change the counters. -/
def count (change : Stats → Stats) : Act Session Unit :=
  modify fun session => { session with stats := change session.stats }

/-- What an observer does after it took note of the line that has just passed. -/
def react (observer : Observer) : Act Session Unit := do
  let session ← get
  match observer.reaction session.manner session.traffic with
  | .none => pure ()
  | .fail fault => Act.refuse fault
  | .removeSelf => set (session.removeObserver observer)
  | .removeAll => set { session with observers := [] }

/-- Tell one observer of a line. -/
def tell (direction : Direction) (line : String) (observer : Observer) : Act Session Unit := do
  modify fun session => { session with
    notices := session.notices ++ [⟨observer, direction, line, session.host.clock⟩] }
  react observer

/-- Record a line and tell everybody who is an observer now. An observer that fails ends it. -/
def notify (direction : Direction) (line : String) : Act Session Unit := do
  modify fun session => { session with traffic := session.traffic ++ [(direction, line)] }
  (← get).observers.forM (tell direction line)

end Session

end ThreadHost
