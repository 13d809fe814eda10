import ThreadHost.Scenario.Catalogue
import ThreadHost.Text.Padded
/-!
# The status panel

What the console shows of the device: connection, role, network, address and counters.
-/

namespace ThreadHost.Console

/-- What the panel shows. -/
structure StatusPanel where
  connected : Bool := false
  device : String := "-"
  role : String := "UNKNOWN"
  network : String := "-"
  offMeshAddress : String := "-"
  commandsSent : Setting Int := .proper 0
  linesReceived : Setting Int := .proper 0
  promptLines : Setting Int := .proper 0
  deviceErrors : Setting Int := .proper 0
  deriving Repr, DecidableEq

/-- A change of the panel: each part that is given replaces what is shown. -/
structure StatusUpdate where
  connected : Option Bool := none
  device : Option String := none
  role : Option String := none
  network : Option String := none
  offMeshAddress : Option String := none
  commandsSent : Option (Setting Int) := none
  linesReceived : Option (Setting Int) := none
  promptLines : Option (Setting Int) := none
  deviceErrors : Option (Setting Int) := none

namespace StatusUpdate

/-- What a change may be given. -/
def partNames : List String := ["connected", "device", "state", "network", "omr_address", "stats"]

/-- A value that is given, and not left open. -/
def given? (entries : Table) (name : String) : Option Datum :=
  (entries.get? name).filter fun datum => datum ≠ .nothing

/-- The change that named values make: texts as they are shown, and the counters whatever they are. -/
def ofTable (entries : Table) : Except Fault StatusUpdate :=
  let operation := "StatusPanel.update_status"
  let text := fun name => (given? entries name).map Datum.shown
  let count := fun name =>
    match entries.get? "stats" with
    | some (.table counters) => (Table.get? counters name).map Setting.ofDatum
    | _ => none
  match (entries.map Prod.fst).find? fun name => !partNames.contains name with
  | some "self" => .error (.misuse (.givenTwice operation "self"))
  | some name => .error (.misuse (.notTaken operation name))
  | none => .ok {
    connected := (given? entries "connected").map Datum.isTrue
    device := text "device"
    role := text "state"
    network := text "network"
    offMeshAddress := text "omr_address"
    commandsSent := count "commands_tx"
    linesReceived := count "lines_rx"
    promptLines := count "prompt_lines"
    deviceErrors := count "protocol_errors" }

end StatusUpdate

namespace StatusPanel

/-- The panel after a change. -/
def update (panel : StatusPanel) (change : StatusUpdate) : StatusPanel where
  connected := change.connected.getD panel.connected
  device := change.device.getD panel.device
  role := change.role.getD panel.role
  network := change.network.getD panel.network
  offMeshAddress := change.offMeshAddress.getD panel.offMeshAddress
  commandsSent := change.commandsSent.getD panel.commandsSent
  linesReceived := change.linesReceived.getD panel.linesReceived
  promptLines := change.promptLines.getD panel.promptLines
  deviceErrors := change.deviceErrors.getD panel.deviceErrors

/-- Text in a colour. -/
def coloured (colour text : String) : String := s!"[{colour}]{text}[/{colour}]"

/-- The text of a counter. A truth value counts as one or zero. -/
def counterText (count : Setting Int) : Except Fault String :=
  match count.datum with
  | .truth value => .ok (if value then "1" else "0")
  | .whole _ | .real _ | .text _ => .ok count.shown
  | datum => .error (.misuse (.notAligned datum.kind))

/-- A counter, right-aligned. -/
def counter (count : Setting Int) : Except Fault String := do
  pure (Text.padStart 6 (← counterText count))

/-- The text of the panel. The role of an attached device is green. -/
def text (panel : StatusPanel) : Except Fault String := do
  let connection :=
    if panel.connected then coloured "green" "CONNECTED" else coloured "red" "DISCONNECTED"
  let colour := if Scenario.attachedRoles.contains panel.role then "green" else "yellow"
  pure ("\n".intercalate [
    "[bold]DEVICE STATUS[/bold]",
    "",
    "Connection:  " ++ connection,
    "Device:      " ++ panel.device,
    "State:       " ++ coloured colour panel.role,
    "Network:     " ++ panel.network,
    "OMR address: " ++ panel.offMeshAddress,
    "",
    "[bold]CLI STATISTICS[/bold]",
    "",
    "Commands:    " ++ (← counter panel.commandsSent),
    "Lines RX:    " ++ (← counter panel.linesReceived),
    "Prompts:     " ++ (← counter panel.promptLines),
    "Errors:      " ++ (← counter panel.deviceErrors)])

end StatusPanel

/-- The change that shows the counters of a session. -/
def countersOf (stats : Stats) : StatusUpdate where
  commandsSent := some (.proper stats.commandsSent)
  linesReceived := some (.proper stats.linesReceived)
  promptLines := some (.proper stats.promptLines)
  deviceErrors := some (.proper stats.deviceErrors)

end ThreadHost.Console
