import ThreadHost.CommandLine.Arguments
import ThreadHost.Config.File
import ThreadHost.Log.Level
import ThreadHost.Session.Operations
/-!
# Tools

A tool opens one device, works with it, and closes it however the work went. What it prints before
a failure stays printed. A failure that the tool knows ends it with a complaint and an exit code;
any other failure goes on.
-/

namespace ThreadHost.Tool

/-- How a tool ends. -/
inductive Ending where
  | exit (code : Nat)
  /-- The command line was not carried out. -/
  | refused (refusal : CommandLine.Refusal)
  | failed (failure : Failure)
  /-- The settings could not be read. -/
  | unreadable (error : Config.LoadError)

/-- What a run of a tool leaves behind. -/
structure Run where
  ending : Ending
  /-- The lines on standard output. -/
  printed : List String := []
  /-- The lines on standard error. -/
  complaints : List String := []
  /-- The log level that was chosen, if one was. -/
  level : Option Log.Level := none
  host : Host := {}
  /-- The device that was opened, as the tool left it. -/
  wire : Option Wire := none

/-- A complaint and the exit code that goes with it. -/
structure Complaint where
  code : Nat
  text : String
  deriving Repr, DecidableEq

/-- A tool at work: its session and what it has printed. -/
structure Work where
  session : Session
  printed : List String := []

/-- Do something with the session. -/
def onSession {α : Type} (act : Act Session α) : Act Work α :=
  Act.onPart Work.session (fun session work => { work with session }) act

/-- Print a line. -/
def print (line : String) : Act Work Unit :=
  modify fun work => { work with printed := work.printed ++ [line] }

/-- What a tool has to say in the end: its exit code and the last lines it prints. -/
structure Conclusion where
  code : Nat := 0
  lines : List String := []

/-- The end of a tool. -/
def finish (complain : Failure → Option Complaint) (outcome : Except Failure Conclusion)
    (printed : List String) (host : Host) (wire : Option Wire) : Run :=
  match outcome with
  | .ok conclusion =>
    { ending := .exit conclusion.code, printed := printed ++ conclusion.lines, host, wire }
  | .error failure =>
    match complain failure with
    | some complaint =>
      { ending := .exit complaint.code, complaints := [complaint.text], printed, host, wire }
    | none => { ending := .failed failure, printed, host, wire }

/-- Work with a session that is about to be opened, and close it. A device that opened without one
is left as it is. -/
def conduct (complain : Failure → Option Complaint) (opening : Session.Opening)
    (work : Act Work Conclusion) : Run :=
  match opening with
  | .refused failure => finish complain (.error failure) [] {} none
  | .failed failure host => finish complain (.error failure) [] host none
  | .abandoned failure wire => finish complain (.error failure) [] wire.host (some wire)
  | .opened session =>
    let (outcome, after) := (work.thenAlways (onSession Session.close)).perform { session }
    finish complain outcome after.printed after.session.host (some after.session.toWire)

/-- The complaint about a failure in general. -/
def complaint (failure : Failure) : Complaint := ⟨1, "Error: " ++ failure.message⟩

/-- The options that say which device to open. -/
def deviceOptions : List CommandLine.OptionForm :=
  [⟨"--node-id", .whole⟩, ⟨"--binary", .text⟩, ⟨"--port", .text⟩, ⟨"--baud", .whole⟩]

/-- The device that the options ask for: a board, if a port is named, and otherwise a simulated
device. -/
def placeOf (arguments : CommandLine.Arguments) : Place :=
  match arguments.text "--port" "" with
  | .proper "" | .stray _ =>
    Session.simulation (arguments.whole "--node-id" 1) (arguments.text "--binary" defaultProgram)
  | port => Session.serial port (arguments.whole "--baud" defaultBaud)

/-- Read the command line and work with the device it asks for. -/
def onDevice (form : CommandLine.Form) (complain : Failure → Option Complaint)
    (work : CommandLine.Arguments → Act Work Conclusion) (texts : List String)
    (device : Device) (platform : Platform := {}) : Run :=
  match CommandLine.Arguments.read form texts with
  | .error refusal => { ending := .refused refusal }
  | .ok arguments =>
    conduct complain (Session.openAt (placeOf arguments) {} device { platform }) (work arguments)

end ThreadHost.Tool
