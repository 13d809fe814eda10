import ThreadHost.Config.Basic
/-!
# Assigning settings

A setting may be assigned any datum, without a check. The section and the setting must exist.
-/

namespace ThreadHost.Config

/-- The sections, each with the name of its kind. -/
def sectionKinds : List (String × String) := [
  ("simulation", "SimulationConfig"),
  ("serial", "SerialConfig"),
  ("session", "SessionConfig"),
  ("network", "NetworkConfig"),
  ("logging", "LoggingConfig")]

/-- The configuration after an assignment to a setting of a section, if there is that setting. -/
def put? (config : Config) (part setting : String) (value : Datum) : Option Config :=
  match part, setting with
  | "simulation", "binary" => some { config with simulation.binary := .ofDatum value }
  | "simulation", "node_id" => some { config with simulation.nodeId := .ofDatum value }
  | "serial", "port" => some { config with serial.port := .ofDatum value }
  | "serial", "baud" => some { config with serial.baud := .ofDatum value }
  | "session", "transport" => some { config with session.transport := .ofDatum value }
  | "session", "poll_interval_s" => some { config with session.pollInterval := .ofDatum value }
  | "session", "wait_timeout_s" => some { config with session.waitTimeout := .ofDatum value }
  | "session", "factory_reset_padding_lines" =>
    some { config with session.resetPadding := .ofDatum value }
  | "network", "network_name" => some { config with network.networkName := .ofDatum value }
  | "network", "channel" => some { config with network.channel := .ofDatum value }
  | "network", "pan_id" => some { config with network.panId := .ofDatum value }
  | "network", "extended_pan_id" => some { config with network.extendedPanId := .ofDatum value }
  | "network", "network_key" => some { config with network.networkKey := .ofDatum value }
  | "network", "mesh_local_prefix" =>
    some { config with network.meshLocalPrefix := .ofDatum value }
  | "logging", "level" => some { config with logging.level := .ofDatum value }
  | "logging", "log_dir" => some { config with logging.directory := .ofDatum value }
  | _, _ => none

/-- Assign a setting of a section. A name that begins with an underscore is private: it is taken and
shows nowhere. -/
def assign (config : Config) (part setting : String) (value : Datum) : Except Fault Config :=
  match sectionKinds.lookup part, config.put? part setting value with
  | none, _ => .error (.misuse (.lacks "Config" part))
  | some _, some config => .ok config
  | some kind, none =>
    if setting.toList.head? = some '_' then .ok config else .error (.unknownSetting kind setting)

end ThreadHost.Config
