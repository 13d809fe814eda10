import ThreadHost.Link.Port
import ThreadHost.Link.Process
import ThreadHost.Setting
/-!
# Opening and closing a link

A device that waits to be opened, and the wire that opening it gives.
-/

namespace ThreadHost

/-- A device before it is opened. -/
structure Device where
  streams : Streams
  process : Process := {}
  port : Port := {}
  /-- How opening it fails. -/
  openFailure : Option Failure := none

/-- What is opened where there is no device. -/
def Device.missing : Device where
  streams := { unread := [] }
  openFailure := some (.plain (.system .notFound "no such device"))

/-- The program that simulates a device. -/
def defaultProgram : String := "ot-cli-ftd"

/-- The speed of a serial port. -/
def defaultBaud : Int := 115200

/-- How to reach a device. -/
inductive Place where
  | simulation (node : Setting Int) (program : Setting String) (terminateTimeout : Float)
  | serial (port : Setting String) (baud : Setting Int) (writeTimeout : Option Float)

namespace Place

/-- The call that opens a place. -/
def call : Place → Call
  | .simulation node program _ => .spawn [program.datum, .text node.shown]
  | .serial port baud writeTimeout => .openPort port.datum baud.datum writeTimeout

/-- A fault for which a link was not opened. The link is named by the program or the port, if that
can be shown. -/
def unopened (place : Place) (fault : Fault) : Failure :=
  match place with
  | .simulation node program _ =>
    if program.isShowable then .link (.program program.shown node.shown) (some fault)
    else .plain .tooManyDigits
  | .serial port .. =>
    if port.isShowable then .link (.port port.shown) (some fault) else .plain .tooManyDigits

/-- What a failure of that call is taken for. Any system fault means that the program did not
start; of a port only a fault of the serial layer means that it could not be opened. Other
failures go on as they are. -/
def openFailure (place : Place) (failure : Failure) : Failure :=
  match place, failure with
  | .simulation .., .plain fault => if fault.isSystem then place.unopened fault else failure
  | .serial .., .plain (.system .serial text) => place.unopened (.system .serial text)
  | _, _ => failure

/-- The link that a place gives to a device. -/
def link (device : Device) : Place → Link
  | .simulation _ _ terminateTimeout =>
    .process { device.process with terminateTimeout := terminateTimeout }
  | .serial .. => .port { device.port with isOpen := true }

/-- The streams of a device that is opened at a place. Once they are closed, a pipe refuses by itself,
and a port as its driver does. -/
def freshStreams (device : Device) : Place → Streams
  | .simulation .. => { device.streams with closedRefusal := .ofPipe }
  | .serial .. => device.streams

/-- What is wrong with the number of a simulated device: it is at least one, and not too long to be
shown. -/
def numberFault? (node : Setting Int) : Option Fault :=
  match node with
  | .proper number =>
    if !node.isShowable then some .tooManyDigits
    else if number < 1 then some (.nodeNumber node.shown)
    else none
  | .stray (.truth value) => if value then none else some (.nodeNumber node.shown)
  | .stray (.real value) => if value < 1 then some (.nodeNumber node.shown) else none
  | .stray datum => some (.misuse (.unordered datum.kind .whole))

/-- Why a place cannot even be tried. -/
def refusal? : Place → Option Fault
  | .simulation node .. => numberFault? node
  | .serial .. => none

/-- Whether the log can tell which device was opened. -/
def isShowable : Place → Bool
  | .simulation node program _ => program.isShowable && node.isShowable
  | .serial port baud _ => port.isShowable && baud.isShowable

/-- The wire on a device that was opened at a place. -/
def wire (place : Place) (device : Device) (host : Host) : Wire where
  host := host.record place.call
  streams := place.freshStreams device
  link := some (place.link device)

end Place

namespace Wire

/-- Close the link, if there is one. -/
def close : Act Wire Unit := do
  match (← get).link with
  | none => pure ()
  | some (.process process) => process.close
  | some (.port port) => port.close

/-- Discard what a serial port has received; other streams have nothing to discard. -/
def discardInput : Act Wire Unit := do
  match (← get).link with
  | some (.port port) => port.discardInput
  | _ => pure ()

/-- The return code of the child, if the link is a child that has ended. -/
def returnCode (wire : Wire) : Option Int :=
  match wire.link with
  | some (.process process) => process.returnCode
  | _ => none

end Wire

/-- What comes of opening a link: the wire, or a failure and the host after it. -/
inductive Opening where
  | opened (wire : Wire)
  /-- No device was asked for. -/
  | refused (fault : Fault)
  /-- The device did not open. -/
  | failed (failure : Failure) (host : Host)
  /-- The device opened, and nobody was told of it. -/
  | unfinished (failure : Failure) (wire : Wire)

/-- Open a device at a place. That it was opened is logged; a failure to do so leaves it open. -/
def Place.openDevice (place : Place) (device : Device) (host : Host) : Opening :=
  match place.refusal? with
  | some fault => .refused fault
  | none =>
    match device.openFailure with
    | some failure => .failed (place.openFailure failure) (host.record place.call)
    | none =>
      if place.isShowable then .opened (place.wire device host)
      else .unfinished (.plain .tooManyDigits) (place.wire device host)

end ThreadHost
