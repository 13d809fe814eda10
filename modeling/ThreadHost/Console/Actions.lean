import ThreadHost.Config.Assign
import ThreadHost.Console.Basic
/-!
# What the console does

Every action is an operation on the console. Work with the device is done at once, while the
device is held; errors of the device are shown, a failure of the link gives the session up, and
any other failure goes on.
-/

namespace ThreadHost.Console

/-- Refuse when there is no session. -/
def requireSession : Act Console Bool := do
  let console ← get
  if !console.connected || console.session.isNone then
    notify "Not connected" .error
    pure false
  else pure true

/-- Detach the monitor, if it is attached. -/
def unwatch : Act Console Unit :=
  modify fun console =>
    match console.listener, console.session with
    | some listener, some session =>
      { console with session := some (session.unlisten listener).1, listener := none }
    | _, _ => { console with listener := none }

/-- Close the session and forget it. When closing fails it is not forgotten. -/
def closeSession : Act Console Unit := do
  onSession () Session.close
  modify releaseSession

/-- Close the device. -/
def disconnect : Act Console Unit := do
  if !(← get).connected then notify "Not connected" .warning
  else
    unwatch
    closeSession
    modify fun console => { console with connected := false }
    showStatus { connected := some false, role := some "UNKNOWN", offMeshAddress := some "-" }
    notify "Disconnected" .information

/-- Give up a session whose link failed. -/
def linkLost (failure : Failure) : Act Console Unit := do
  notify ("Device lost: " ++ failure.message) .error
  disconnect

/-- What a refresh asks for: the role, and the address of an attached device. -/
def askStatus : Act Session (String × Option Address.Ipv6) := do
  let role ← Session.getState
  if Scenario.attachedRoles.contains role then
    pure (role, ← Session.getOffMeshAddress none)
  else pure (role, none)

/-- What a refresh shows. -/
def statusOf (role : String) (address : Option Address.Ipv6) (stats : Stats) : StatusUpdate :=
  { countersOf stats with
    role := some role
    offMeshAddress := some ((address.map Address.Ipv6.text).getD "-") }

/-- Refresh role, address and counters, unless the device is held by somebody else. The device is
held until a failed link was given up. -/
def refresh : Act Console Unit := do
  let console ← get
  if !console.connected || console.session.isNone || console.locked then pure ()
  else
    let status ← holdingDevice do
      match ← (onSession ("", none) askStatus).attempt with
      | .ok status => pure (some status)
      | .error failure =>
        if failure.isDeviceError then pure none
        else if failure.isLink then linkLost failure; pure none
        else throw failure
    match status, (← get).session with
    | some (role, address), some session => showStatus (statusOf role address session.stats)
    | _, _ => pure ()

/-- Attach the monitor to the session and show that there is a device. -/
def attach (session : Session) : Act Console Unit := do
  let (session, listener) := session.listen { tag := "cli-monitor" }
  modify fun console => { console with
    session := some session
    listener := some listener
    connected := true }
  showStatus { connected := some true, device := some (← get).config.deviceName }
  notify "Connected" .information

/-- What is opened next. -/
def nextDevice (console : Console) : Device := console.devices.headD Device.missing

/-- Handle a failure to connect: failures of the link and rejected values are shown. -/
def connectionFailed (failure : Failure) : Act Console Unit :=
  if failure.isLink || failure.isRejection then
    notify ("Connection failed: " ++ failure.message) .error
  else throw failure

/-- Open the device of the settings, unless it has no name that can be shown. -/
def connect : Act Console Unit := do
  let console ← get
  if console.connected then notify "Already connected" .warning
  else if !console.config.place.isShowable then connectionFailed (.plain .tooManyDigits)
  else
    let rest := console.devices.drop 1
    match console.config.openSession console.nextDevice console.host with
    | .refused failure => connectionFailed failure
    | .failed failure host =>
      set { console with host, devices := rest }
      connectionFailed failure
    | .abandoned failure wire =>
      set { console with
        host := wire.host
        devices := rest
        released := console.released ++ [wire] }
      connectionFailed failure
    | .opened session =>
      set { console with host := session.host, devices := rest }
      attach session
      refresh

/-- Do something with the device on behalf of the user. -/
def guarded (label : String) (act : Act Session Unit) (onSuccess : Act Console Unit) :
    Act Console Unit := do
  match ← (holdingDevice (onSession () act)).attempt with
  | .ok () =>
    onSuccess
    notify (label ++ ": Done") .information
  | .error failure =>
    if failure.isDeviceError then notify (label ++ ": " ++ failure.detail) .error
    else if failure.isLink then linkLost failure
    else throw failure

/-- The dataset of the network in the settings. -/
def networkDataset : Act Console Dataset := do
  match (← get).config.dataset with
  | .ok dataset => pure dataset
  | .error fault => Act.refuse (.dataset fault)

/-- Join the network of the settings; its name is shown afterwards. -/
def join : Act Console Unit := do
  if ← requireSession then
    let dataset ← networkDataset
    guarded "Join" (Session.join dataset) (showStatus { network := dataset.networkName })

/-- Stop the radio. -/
def stopRadio : Act Console Unit := do
  if ← requireSession then guarded "Stop radio" Session.stopRadio (pure ())

/-- Reset the device. -/
def factoryReset : Act Console Unit := do
  if ← requireSession then guarded "Factory reset" Session.factoryReset (pure ())

/-- Whether a scenario went wrong. -/
def wentWrong (report : Report) : Bool :=
  report.verdict = .failed || report.verdict = .error

/-- The message about all scenarios. -/
def announcement (reports : List Report) : String × Severity :=
  let failed := reports.filter wentWrong
  if failed.isEmpty then (s!"✓ All {reports.length} scenarios passed", .information)
  else
    (s!"{failed.length}/{reports.length} scenarios failed: " ++
      ", ".intercalate (failed.map (·.name)), .error)

/-- How many seconds the message about all scenarios is shown. -/
def announcementSeconds : Nat := 15

/-- Run all network scenarios. -/
def scenarios : Act Console Unit := do
  if ← requireSession then
    notify "Running network scenarios..." .information
    let reports ← holdingDevice do
      let dataset ← networkDataset
      onSession [] (Scenario.runEvery dataset (← get).config.timeout)
    let (text, severity) := announcement reports
    addNote (.message text severity (some announcementSeconds))

/-- Send a typed line as a command. A blank line is passed over. The answer shows up in the
monitor. -/
def submit (typed : String) : Act Console Unit := do
  let command := Text.Blank.strip typed
  if command ≠ "" then
    if ← requireSession then guarded command (discard (Session.execute command)) (pure ())

/-- A refresh while somebody else holds the device. -/
def refreshWhileHeld : Act Console Unit := do
  setLocked true
  refresh.thenAlways (setLocked false)

/-- The title of the console. -/
def title : String := "FTD Host - OpenThread CLI Console"

/-- The line below the title. -/
def subtitle : String :=
  "Keys: c=connect d=disconnect j=join x=stop r=reset s=scenarios q=quit"

/-- Start refreshing once a second. -/
def mount : Act Console Unit := addNote (.refreshEvery 1)

/-- Let the device that is connected send more. -/
def feed (bytes : Bytes) : Act Console Unit :=
  modify fun console => { console with
    session := console.session.map fun session =>
      { session with streams := session.streams.feed bytes } }

/-- Assign a setting. -/
def assign (part setting : String) (value : Datum) : Act Console Unit := do
  let config ← Act.ofFault ((← get).config.assign part setting value)
  modify fun console => { console with config }

/-- The actions of the console, as data. -/
inductive Action where
  | connect
  | disconnect
  | join
  | stopRadio
  | factoryReset
  | scenarios
  | submit (typed : String)
  | refresh
  | refreshWhileHeld
  | focusInput
  | unfocusInput
  | mount
  | feed (bytes : Bytes)
  | assign (part setting : String) (value : Datum)

/-- Carry out an action. -/
def perform : Action → Act Console Unit
  | .connect => Console.connect
  | .disconnect => Console.disconnect
  | .join => Console.join
  | .stopRadio => Console.stopRadio
  | .factoryReset => Console.factoryReset
  | .scenarios => Console.scenarios
  | .submit typed => Console.submit typed
  | .refresh => Console.refresh
  | .refreshWhileHeld => Console.refreshWhileHeld
  | .focusInput => addNote .focusInput
  | .unfocusInput => addNote .unfocusInput
  | .mount => Console.mount
  | .feed bytes => Console.feed bytes
  | .assign part setting value => Console.assign part setting value

end ThreadHost.Console
