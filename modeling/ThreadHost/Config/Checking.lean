import ThreadHost.Config.Assign
import ThreadHost.Config.NumberText
/-!
# Checking settings

Settings come as data without fixed types. Each is read leniently (a number may be given as text,
a whole number with a zero fraction) and held to its bounds; all complaints are collected, in the
order of the settings. Settings that are not known are passed over.
-/

namespace ThreadHost.Config

/-- What is wrong with one setting. -/
inductive Complaint where
  | notInteger
  | integerText
  | integerFraction
  | integerSize
  | notFinite
  | notNumber
  | numberText
  | notText
  | notTransport
  | below (least : Int)
  | above (greatest : Int)
  | notPositive
  /-- A section is no table; the argument names the kind of section. -/
  | notTable (kind : String)
  deriving Repr, DecidableEq

/-- The kind of a complaint, by the name it is reported under. -/
def Complaint.kind : Complaint → String
  | .notInteger => "int_type"
  | .integerText => "int_parsing"
  | .integerFraction => "int_from_float"
  | .integerSize => "int_parsing_size"
  | .notFinite => "finite_number"
  | .notNumber => "float_type"
  | .numberText => "float_parsing"
  | .notText => "string_type"
  | .notTransport => "literal_error"
  | .below _ => "greater_than_equal"
  | .above _ => "less_than_equal"
  | .notPositive => "greater_than"
  | .notTable _ => "model_type"

/-- The wording of a complaint. -/
def Complaint.message : Complaint → String
  | .notInteger => "Input should be a valid integer"
  | .integerText =>
    "Input should be a valid integer, unable to parse string as an integer"
  | .integerFraction =>
    "Input should be a valid integer, got a number with a fractional part"
  | .integerSize => "Unable to parse input string as an integer, exceeded maximum size"
  | .notFinite => "Input should be a finite number"
  | .notNumber => "Input should be a valid number"
  | .numberText => "Input should be a valid number, unable to parse string as a number"
  | .notText => "Input should be a valid string"
  | .notTransport => "Input should be 'simulation' or 'serial'"
  | .below least => s!"Input should be greater than or equal to {least}"
  | .above greatest => s!"Input should be less than or equal to {greatest}"
  | .notPositive => "Input should be greater than 0"
  | .notTable kind => "Input should be a valid dictionary or instance of " ++ kind

/-- A complaint, and the names that lead to its setting. -/
structure Issue where
  location : List String
  complaint : Complaint
  deriving Repr, DecidableEq

/-- A checked value, or everything that is wrong with it. -/
inductive Checked (α : Type) where
  | valid (value : α)
  | invalid (issues : List Issue)
  deriving Repr

namespace Checked

/-- Change an accepted value. -/
def map {α β : Type} (change : α → β) : Checked α → Checked β
  | .valid value => .valid (change value)
  | .invalid issues => .invalid issues

/-- Apply a checked function to a checked value; the issues of both are kept, in order. -/
def apply {α β : Type} : Checked (α → β) → Checked α → Checked β
  | .valid function, .valid value => .valid (function value)
  | .valid _, .invalid issues => .invalid issues
  | .invalid issues, .valid _ => .invalid issues
  | .invalid first, .invalid second => .invalid (first ++ second)

/-- Issues found below a name. -/
def below {α : Type} (name : String) : Checked α → Checked α
  | .valid value => .valid value
  | .invalid issues =>
    .invalid (issues.map fun issue => { issue with location := name :: issue.location })

/-- A single complaint. -/
def complain {α : Type} (complaint : Complaint) : Checked α := .invalid [⟨[], complaint⟩]

end Checked

/-! ## Single settings -/

/-- Read a whole number from text. -/
def integerOfText (text : String) : Except Complaint Int :=
  match NumberText.readWhole text.toList with
  | .number value => .ok value
  | .tooLong => .error .integerSize
  | .malformed => .error .integerText

/-- Read a whole number from a double without a fraction. -/
def integerOfReal (value : Float) : Except Complaint Int :=
  match Decimal.Binary.ofFloat value with
  | .finite negative significand exponent _ =>
    let (numerator, denominator) := Decimal.ratio significand exponent
    let magnitude := numerator / denominator
    if numerator % denominator ≠ 0 then .error .integerFraction
    else if Nat.pow 2 63 ≤ magnitude then .error .integerSize
    else .ok (if negative then -(magnitude : Int) else magnitude)
  | _ => .error .notFinite

/-- Read a whole number. -/
def integer : Datum → Except Complaint Int
  | .whole value => .ok value
  | .truth value => .ok (if value then 1 else 0)
  | .real value => integerOfReal value
  | .text text => integerOfText text
  | _ => .error .notInteger

/-- Read a whole number within bounds. -/
def boundedInteger (least : Int) (greatest : Option Int) (datum : Datum) :
    Except Complaint Int := do
  let value ← integer datum
  match greatest with
  | some greatest => if greatest < value then throw (.above greatest)
  | none => pure ()
  if value < least then throw (.below least)
  pure value

/-- Read a number from text. -/
def realOfText (text : String) : Except Complaint Float :=
  match NumberText.readReal? text.toList with
  | some value => .ok value
  | none => .error .numberText

/-- Read a number. A whole number too large for a double is none. -/
def real : Datum → Except Complaint Float
  | .real value => .ok value
  | .truth value => .ok (if value then 1 else 0)
  | .whole value =>
    let nearest := (Seconds.whole value).toFloat
    if nearest.isInf then .error .notNumber else .ok nearest
  | .text text => realOfText text
  | _ => .error .notNumber

/-- Read a positive number of seconds. -/
def positive (datum : Datum) : Except Complaint Seconds := do
  let value ← real datum
  if 0 < value then pure (.real value) else throw .notPositive

/-- Read a text. -/
def text : Datum → Except Complaint String
  | .text value => .ok value
  | _ => .error .notText

/-- Read the name of a link. -/
def transport : Datum → Except Complaint Transport
  | .text name =>
    match Transport.ofName? name with
    | some transport => .ok transport
    | none => .error .notTransport
  | _ => .error .notTransport

/-! ## Sections -/

/-- A setting of a table, or its default where the table does not have it. -/
def setting {α : Type} (table : Table) (name : String) (fallback : Setting α)
    (read : Datum → Except Complaint α) : Checked (Setting α) :=
  match table.get? name with
  | none => .valid fallback
  | some datum =>
    match read datum with
    | .ok value => .valid (.proper value)
    | .error complaint => .invalid [⟨[name], complaint⟩]

/-- Check the settings of the simulated device. -/
def checkSimulation (table : Table) : Checked SimulationSettings :=
  let fallback : SimulationSettings := {}
  (Checked.valid SimulationSettings.mk)
    |>.apply (setting table "binary" fallback.binary text)
    |>.apply (setting table "node_id" fallback.nodeId (boundedInteger 1 none))

/-- Check the settings of the serial port. -/
def checkSerial (table : Table) : Checked SerialSettings :=
  let fallback : SerialSettings := {}
  (Checked.valid SerialSettings.mk)
    |>.apply (setting table "port" fallback.port text)
    |>.apply (setting table "baud" fallback.baud integer)

/-- Check the settings of the session. -/
def checkSession (table : Table) : Checked SessionSettings :=
  let fallback : SessionSettings := {}
  (Checked.valid SessionSettings.mk)
    |>.apply (setting table "transport" fallback.transport transport)
    |>.apply (setting table "poll_interval_s" fallback.pollInterval positive)
    |>.apply (setting table "wait_timeout_s" fallback.waitTimeout positive)
    |>.apply (setting table "factory_reset_padding_lines" fallback.resetPadding
      (boundedInteger 1000 none))

/-- Check the settings of the network. -/
def checkNetwork (table : Table) : Checked NetworkSettings :=
  let fallback : NetworkSettings := {}
  (Checked.valid NetworkSettings.mk)
    |>.apply (setting table "network_name" fallback.networkName text)
    |>.apply (setting table "channel" fallback.channel (boundedInteger 11 (some 26)))
    |>.apply (setting table "pan_id" fallback.panId (boundedInteger 0 (some 0xFFFE)))
    |>.apply (setting table "extended_pan_id" fallback.extendedPanId text)
    |>.apply (setting table "network_key" fallback.networkKey text)
    |>.apply (setting table "mesh_local_prefix" fallback.meshLocalPrefix text)

/-- Check the settings of the log. -/
def checkLogging (table : Table) : Checked LoggingSettings :=
  let fallback : LoggingSettings := {}
  (Checked.valid LoggingSettings.mk)
    |>.apply (setting table "level" fallback.level text)
    |>.apply (setting table "log_dir" fallback.directory text)

/-- A section of a table, or its default where the table does not have it. -/
def part {α : Type} (table : Table) (name : String) (fallback : α)
    (check : Table → Checked α) : Checked α :=
  match table.get? name with
  | none => .valid fallback
  | some (.table entries) => (check entries).below name
  | some _ => .invalid [⟨[name], .notTable ((sectionKinds.lookup name).getD "Config")⟩]

/-- Check a whole configuration. -/
def check (table : Table) : Checked Config :=
  (Checked.valid Config.mk)
    |>.apply (part table "simulation" {} checkSimulation)
    |>.apply (part table "serial" {} checkSerial)
    |>.apply (part table "session" {} checkSession)
    |>.apply (part table "network" {} checkNetwork)
    |>.apply (part table "logging" {} checkLogging)

end ThreadHost.Config
