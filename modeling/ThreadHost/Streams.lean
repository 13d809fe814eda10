import ThreadHost.Dataset.Basic
import ThreadHost.Host
import ThreadHost.Line
/-!
# The streams of a device

The two byte streams between host and device. What the device sends is given in advance; how long
a read takes and which accesses fail may depend on how many there were before.
-/

namespace ThreadHost

/-- The output of a device, its input, and how both behave. -/
structure Streams where
  /-- What the device has sent and nobody has read. -/
  unread : Bytes
  /-- How many bytes were read or discarded. -/
  consumed : Nat := 0
  /-- How many reads of a line were tried while the output was open. -/
  reads : Nat := 0
  /-- How long the read of this number takes. -/
  delay : Nat → Float := fun _ => 0
  /-- How the read of this number fails. -/
  readFailure : Nat → Option Failure := fun _ => none
  /-- How a write fails when this many were made before. -/
  writeFailure : Nat → Option Failure := fun _ => none
  /-- How a flush fails when this many writes were made before. -/
  flushFailure : Nat → Option Failure := fun _ => none
  /-- What was written, one entry for each write. -/
  written : List Bytes := []
  outputClosed : Bool := false
  inputClosed : Bool := false
  /-- What either stream refuses with once it is closed. -/
  closedRefusal : StreamFault := .ofPipe

namespace Streams

/-- Let the device send more. -/
def feed (streams : Streams) (bytes : Bytes) : Streams :=
  { streams with unread := streams.unread ++ bytes }

/-- Throw away some of what has been sent. -/
def discard (streams : Streams) (count : Nat) : Streams :=
  { streams with
    unread := streams.unread.drop count
    consumed := streams.consumed + (streams.unread.take count).length }

end Streams

/-- A process that runs a simulated device. -/
structure Process where
  terminateTimeout : Float := 2
  returnCode : Option Int := none
  ignoresTerminate : Bool := false
  /-- How closing its input fails; it is closed nevertheless. -/
  inputCloseFailure : Option Failure := none
  /-- How closing its output fails; it is closed nevertheless. -/
  outputCloseFailure : Option Failure := none

/-- A serial port. -/
structure Port where
  isOpen : Bool := true
  /-- How many bytes a reset of the input discards. -/
  stale : Nat := 0
  discardFailure : Option Failure := none
  /-- How closing the port fails; it is closed nevertheless. -/
  closeFailure : Option Failure := none

/-- What owns the streams of a device. -/
inductive Link where
  | process (process : Process)
  | port (port : Port)

/-- A host and the streams of one device, with the link that owns them. Without a link the streams
belong to somebody else. -/
structure Wire where
  host : Host := {}
  streams : Streams
  link : Option Link := none

namespace Wire

/-- Read up to and including the next line feed, or all there is; nothing at the end. A closed
output refuses before any time passes. -/
def readLine : Act Wire Bytes := do
  let wire ← get
  if wire.streams.outputClosed then Act.refuse wire.streams.closedRefusal.fault
  let number := wire.streams.reads
  set { wire with
    host := wire.host.advance (wire.streams.delay number)
    streams := { wire.streams with reads := number + 1 } }
  match wire.streams.readFailure number with
  | some failure => throw failure
  | none =>
    let (line, rest) := Line.next wire.streams.unread
    modify fun wire => { wire with
      streams := { wire.streams with
        unread := rest
        consumed := wire.streams.consumed + line.length } }
    pure line

/-- Write some bytes. -/
def write (data : Bytes) : Act Wire Unit := do
  let wire ← get
  if wire.streams.inputClosed then Act.refuse wire.streams.closedRefusal.fault
  match wire.streams.writeFailure wire.streams.written.length with
  | some failure => throw failure
  | none =>
    set { wire with streams := { wire.streams with written := wire.streams.written ++ [data] } }

/-- Push out what was written. -/
def flush : Act Wire Unit := do
  let wire ← get
  match wire.streams.flushFailure wire.streams.written.length with
  | some failure => throw failure
  | none => pure ()

/-- Record a call to the operating system. -/
def call (call : Call) : Act Wire Unit :=
  modify fun wire => { wire with host := wire.host.record call }

/-- Close the input of the device. -/
def closeInput : Act Wire Unit :=
  modify fun wire => { wire with streams := { wire.streams with inputClosed := true } }

/-- Close the output of the device. -/
def closeOutput : Act Wire Unit :=
  modify fun wire => { wire with streams := { wire.streams with outputClosed := true } }

/-- Fail if there is a failure. -/
def raise : Option Failure → Act Wire Unit
  | some failure => throw failure
  | none => pure ()

/-- Replace the link. -/
def setLink (link : Link) : Act Wire Unit := modify fun wire => { wire with link := some link }

end Wire

end ThreadHost
