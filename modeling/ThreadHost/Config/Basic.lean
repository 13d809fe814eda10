import ThreadHost.Dataset.Fields
import ThreadHost.Link.Open
import ThreadHost.Session.Open
/-!
# Settings

The settings of a device link, a session, the network to join, and the log, with their defaults.
Checked settings hold values of their kinds; what happens to any other is told where it is used.
-/

namespace ThreadHost

/-- Which link to open. -/
inductive Transport where
  | simulation
  | serial
  deriving Repr, DecidableEq

namespace Transport

/-- The name of a link. -/
def name : Transport → String
  | .simulation => "simulation"
  | .serial => "serial"

/-- The link of a name. -/
def ofName? (name : String) : Option Transport :=
  [simulation, serial].find? fun transport => transport.name = name

end Transport

instance : Settable Transport where
  ofDatum? | .text name => Transport.ofName? name | _ => none
  toDatum transport := .text transport.name

/-- The simulated device. -/
structure SimulationSettings where
  binary : Setting String := .proper defaultProgram
  nodeId : Setting Int := .proper 1
  deriving Repr, DecidableEq

/-- The serial port of a board. -/
structure SerialSettings where
  port : Setting String := .proper "/dev/ttyACM0"
  baud : Setting Int := .proper defaultBaud
  deriving Repr, DecidableEq

/-- The session with a device. Whatever is no name of a link opens the simulation. -/
structure SessionSettings where
  transport : Setting Transport := .proper .simulation
  pollInterval : Setting Seconds := .proper (.real 0.05)
  waitTimeout : Setting Seconds := .proper (.real 30)
  resetPadding : Setting Int := .proper 1000
  deriving Repr, DecidableEq

/-- The network to join. -/
structure NetworkSettings where
  networkName : Setting String := .proper "ftd-host"
  channel : Setting Int := .proper 15
  panId : Setting Int := .proper 0x1234
  extendedPanId : Setting String := .proper "dead00beef00cafe"
  networkKey : Setting String := .proper "00112233445566778899aabbccddeeff"
  meshLocalPrefix : Setting String := .proper "fd00:1234::/64"
  deriving Repr, DecidableEq

/-- The log. -/
structure LoggingSettings where
  level : Setting String := .proper "INFO"
  directory : Setting String := .proper "~/ftd_logs"
  deriving Repr, DecidableEq

/-- All settings. -/
structure Config where
  simulation : SimulationSettings := {}
  serial : SerialSettings := {}
  session : SessionSettings := {}
  network : NetworkSettings := {}
  logging : LoggingSettings := {}
  deriving Repr, DecidableEq

namespace NetworkSettings

/-- The bytes that a hexadecimal text stands for. -/
def hexBytes (text : String) : Except Dataset.Fault Bytes :=
  match Text.Hex.decode text with
  | .error position => .error (.notHex position)
  | .ok bytes => .ok bytes

/-- The bytes that a hexadecimal setting stands for. -/
def bytesOf (setting : Setting String) : Except Dataset.Fault Bytes := do
  hexBytes (← setting.require fun datum => .misuse (.notDigits datum.kind))

/-- The two bytes of a number; a truth value is a number as well. -/
def numberBytes (setting : Setting Int) : Except Dataset.Fault Bytes :=
  match setting.datum.number? with
  | some (.whole value) => Bytes.ofInteger 2 value
  | _ => .error (.misuse (.lacks setting.datum.kind.name "to_bytes"))

/-- The bytes of a timestamp; a truth value is a number as well. -/
def timestampBytes (setting : Setting Int) : Except Dataset.Fault Bytes :=
  match setting.datum.number? with
  | some (.whole value) => Dataset.timestampBytes value
  | _ => .error (.misuse (.notCombined "<<" setting.datum.kind .whole))

/-- The network given as mesh-local prefix. A number stands for the address of that number, and
anything else for the text that shows it. -/
def mesh (setting : Setting String) : Except Dataset.Fault Address.Network :=
  Dataset.requireMeshLength setting.shown
    (match setting with
    | .stray (.whole value) => Address.Network.ofNumber value
    | .stray (.truth value) => Address.Network.ofNumber (if value then 1 else 0)
    | setting => Address.Network.parse setting.shown)

/-- The dataset of the network, with an active timestamp in seconds. -/
def toDataset (network : NetworkSettings) (activeTimestamp : Setting Int) :
    Except Dataset.Fault Dataset := do
  let extendedPanId ← bytesOf network.extendedPanId
  let networkKey ← bytesOf network.networkKey
  let networkName ← network.networkName.require fun datum =>
    .misuse (.lacks datum.kind.name "encode")
  Dataset.Draft.build {
    networkName
    extendedPanId
    networkKey
    mesh := mesh network.meshLocalPrefix
    timestamp := timestampBytes activeTimestamp
    channel := numberBytes network.channel
    panId := numberBytes network.panId }

end NetworkSettings

namespace Config

/-- The active timestamp of the network in the settings. -/
def activeTimestamp : Int := 1

/-- The dataset of the network in the settings. -/
def dataset (config : Config) : Except Dataset.Fault Dataset :=
  config.network.toDataset (.proper activeTimestamp)

/-- The sections of a configuration with their settings, in order. -/
def sections (config : Config) : List (String × Table) := [
  ("simulation", [
    ("binary", config.simulation.binary.datum),
    ("node_id", config.simulation.nodeId.datum)]),
  ("serial", [
    ("port", config.serial.port.datum),
    ("baud", config.serial.baud.datum)]),
  ("session", [
    ("transport", config.session.transport.datum),
    ("poll_interval_s", config.session.pollInterval.datum),
    ("wait_timeout_s", config.session.waitTimeout.datum),
    ("factory_reset_padding_lines", config.session.resetPadding.datum)]),
  ("network", [
    ("network_name", config.network.networkName.datum),
    ("channel", config.network.channel.datum),
    ("pan_id", config.network.panId.datum),
    ("extended_pan_id", config.network.extendedPanId.datum),
    ("network_key", config.network.networkKey.datum),
    ("mesh_local_prefix", config.network.meshLocalPrefix.datum)]),
  ("logging", [
    ("level", config.logging.level.datum),
    ("log_dir", config.logging.directory.datum)])]

/-- A configuration as a table of its sections. -/
def table (config : Config) : Table :=
  config.sections.map fun (name, settings) => (name, .table settings)

/-- What all settings hold, in order. -/
def data (config : Config) : List Datum := config.sections.flatMap fun part => part.2.map Prod.snd

/-- Whether two configurations hold the same settings. -/
def agrees (left right : Config) : Bool :=
  (left.data.zip right.data).all fun (left, right) => left.agrees right

/-- Where the device of a configuration is. -/
def place (config : Config) : Place :=
  match config.session.transport with
  | .proper .serial => Session.serial config.serial.port config.serial.baud
  | _ => Session.simulation config.simulation.nodeId config.simulation.binary

/-- What a configuration chooses for a session. -/
def options (config : Config) : Session.Options where
  pollInterval := config.session.pollInterval
  padding := config.session.resetPadding

/-- How long to wait for a role. A whole number must not be above all doubles, and what has no
number cannot be added to the time. -/
def timeout (config : Config) : Except Fault Float :=
  match config.session.waitTimeout.datum with
  | .real value => .ok value
  | datum =>
    match datum.number? with
    | none => .error (.misuse (.notCombined "+" .real datum.kind))
    | some seconds =>
      if seconds.toFloat.isInf then .error (.misuse .aboveDoubles) else .ok seconds.toFloat

/-- Open the session that a configuration describes. -/
def openSession (config : Config) (device : Device) (host : Host) : Session.Opening :=
  Session.openAt config.place config.options device host

/-- The device of a configuration, as it is shown. -/
def deviceName (config : Config) : String :=
  match config.session.transport with
  | .proper .serial => config.serial.port.shown ++ " @ " ++ config.serial.baud.shown
  | _ => config.simulation.binary.shown ++ " node " ++ config.simulation.nodeId.shown

end Config

end ThreadHost
