import ThreadHost.Calendar
import ThreadHost.Dataset.Fault
import ThreadHost.Decimal.Shortest
/-!
# Failures

A `Fault` is what a stream, the clock, a check or a conversion refuses with. A `Failure` is how an
operation on a device ends: with a fault as it is, or with one of the failures of the exchange,
which carry the command and the fault that caused them.

Four families cut across both types and decide who handles what: faults of the operating system,
rejected values, failures of the link, and failed assertions.
-/

namespace ThreadHost

/-- The faults that the operating system tells apart. -/
inductive SystemKind where
  | other
  | brokenPipe
  | notFound
  | permission
  | timeout
  | serial
  deriving Repr, DecidableEq

/-- Why no pause of some length can be made. -/
inductive PauseRefusal where
  | negative
  | notANumber
  /-- The clock cannot count so far. -/
  | tooLong
  deriving Repr, DecidableEq

/-- What went wrong underneath an operation. -/
inductive Fault where
  | system (kind : SystemKind) (text : String)
  /-- A condition did not come true in time. -/
  | waitExpired (timeout : Float) (description : String)
  | dataset (fault : Dataset.Fault)
  | address (fault : Address.Fault)
  /-- A command holds a line break. -/
  | severalLines (command : String)
  | closedStream
  | pause (refusal : PauseRefusal)
  /-- The number of a simulated device is too low; it is given as it is shown. -/
  | nodeNumber (shown : String)
  /-- There are too few blank lines; their number is given as it is shown. -/
  | paddingCount (least : Nat) (shown : String)
  | noSamples
  | unknownVerdict (shown : String)
  /-- There is no such setting in a section of settings of a kind. -/
  | unknownSetting (kind name : String)
  /-- A whole number has too many digits to be shown. -/
  | tooManyDigits
  /-- There is no such moment in the calendar. -/
  | moment (absence : Calendar.Absence)
  /-- A datum was used for what it cannot be used for. -/
  | misuse (how : Misuse)
  /-- A value was rejected with a text of its own. -/
  | rejected (text : String)
  | assertion (text : String)
  | runtime (text : String)
  deriving Repr, DecidableEq

/-- Why there is no link to the device. -/
inductive LinkProblem where
  /-- The program of a simulated device did not start; path and number are given as they are
  shown. -/
  | program (path node : String)
  | port (name : String)
  | other (text : String)
  deriving Repr, DecidableEq

/-- How an operation on a device fails. -/
inductive Failure where
  | plain (fault : Fault)
  | link (problem : LinkProblem) (cause : Option Fault)
  /-- The device's input did not take the command. -/
  | writeRejected (command : String) (cause : Option Fault)
  /-- The device's output failed or ended within an answer. -/
  | readFailed (command reason : String) (cause : Option Fault)
  /-- The device reported an error, or its answer makes no sense. -/
  | deviceError (command : String) (line problem : Option String) (cause : Option Fault)
  deriving Repr, DecidableEq

open Text.Quoted (quote)

/-- The description of a wait that has none of its own. -/
def defaultDescription : String := "condition"

/-- The reason given when an answer ends before its last line. -/
def truncated : String := "truncated response"

/-- The wording of a refused pause. -/
def PauseRefusal.message : PauseRefusal → String
  | .negative => "sleep length must be non-negative"
  | .notANumber => "Invalid value NaN (not a number)"
  | .tooLong => "timestamp out of range for platform time_t"

/-- The wording of a fault. -/
def Fault.message : Fault → String
  | .system _ text => text
  | .waitExpired timeout description =>
    "Timed out after " ++ Decimal.text timeout ++ "s waiting for " ++ description
  | .dataset fault => fault.message
  | .address fault => fault.message
  | .severalLines command => "Command must be a single line: " ++ quote command
  | .closedStream => "I/O operation on closed file."
  | .pause refusal => refusal.message
  | .nodeNumber shown => "Node ID must be >= 1, got " ++ shown
  | .paddingCount least shown => s!"reset_padding_lines must be >= {least}, got " ++ shown
  | .noSamples => "mean requires at least one data point"
  | .unknownVerdict shown => shown ++ " is not a valid ScenarioResult"
  | .unknownSetting kind name =>
    "\"" ++ kind ++ "\" object has no field \"" ++ name ++ "\""
  | .tooManyDigits =>
    "Exceeds the limit (4300 digits) for integer string conversion; " ++
      "use sys.set_int_max_str_digits() to increase the limit"
  | .moment absence => absence.message
  | .misuse how => how.message
  | .rejected text => text
  | .assertion text => text
  | .runtime text => text

/-- The wording of a link problem. -/
def LinkProblem.message : LinkProblem → String
  | .program path node => s!"Failed to start {path} (id={node})"
  | .port name => s!"Failed to open serial port {name}"
  | .other text => text

/-- The wording of a failure. -/
def Failure.message : Failure → String
  | .plain fault => fault.message
  | .link problem _ => problem.message
  | .writeRejected command _ =>
    "Failed to write the command " ++ quote command ++ " to ot-cli-ftd"
  | .readFailed command reason _ =>
    "Failed to read the ot-cli-ftd output of command " ++ quote command ++ ": " ++ reason
  | .deviceError command line problem _ =>
    let shown := problem.getD ("ot-cli-ftd reported an error: " ++ line.getD "None")
    shown ++ " (command: " ++ quote command ++ ")"

/-- Faults of the operating system, an expired wait among them. -/
def Fault.isSystem : Fault → Bool
  | .system .. | .waitExpired .. => true
  | _ => false

/-- Timeouts: a part of the faults of the operating system. -/
def Fault.isTimeout : Fault → Bool
  | .system .timeout _ | .waitExpired .. => true
  | _ => false

/-- Rejected values. A number that does not fit its field is none of them, neither is a pause that the
clock cannot count, nor a datum of the wrong kind. -/
def Fault.isRejection : Fault → Bool
  | .dataset .numberTooBig | .dataset .numberNegative | .dataset (.misuse _) => false
  | .pause .tooLong => false
  | .dataset _ | .address _ | .severalLines _ | .closedStream | .pause _ | .nodeNumber _
  | .paddingCount .. | .noSamples | .unknownVerdict _ | .unknownSetting .. | .tooManyDigits
  | .moment .notANumber | .rejected _ => true
  | _ => false

/-- What a stream may refuse with and be taken for a failed stream. -/
def Fault.isStreamFault (fault : Fault) : Bool := fault.isSystem || fault.isRejection

/-- A fault that a stream may refuse with. -/
structure StreamFault where
  fault : Fault
  ofStream : fault.isStreamFault = true

/-- What a closed pipe refuses with. -/
def StreamFault.ofPipe : StreamFault := ⟨.closedStream, rfl⟩

namespace Failure

/-- Failures of the link to the device. -/
def isLink : Failure → Bool
  | .link .. | .writeRejected .. | .readFailed .. => true
  | _ => false

/-- Errors that the device reported. -/
def isDeviceError : Failure → Bool
  | .deviceError .. => true
  | _ => false

/-- Failed assertions, device errors among them. -/
def isAssertion : Failure → Bool
  | .deviceError .. | .plain (.assertion _) => true
  | _ => false

/-- Rejected values. -/
def isRejection : Failure → Bool
  | .plain fault => fault.isRejection
  | _ => false

/-- Timeouts. -/
def isTimeout : Failure → Bool
  | .plain fault => fault.isTimeout
  | _ => false

/-- What was wrong underneath. -/
def cause? : Failure → Option Fault
  | .plain _ => none
  | .link _ cause | .writeRejected _ cause | .readFailed _ _ cause | .deviceError _ _ _ cause =>
    cause

/-- The error line of the device, if it reported one that is not empty, and otherwise the whole
message. -/
def detail : Failure → String
  | .deviceError command line problem cause =>
    match line with
    | some text => if text = "" then message (.deviceError command line problem cause) else text
    | none => message (.deviceError command line problem cause)
  | failure => failure.message

end Failure

end ThreadHost
