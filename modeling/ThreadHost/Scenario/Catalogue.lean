import ThreadHost.Scenario.Basic
import ThreadHost.Session.Operations
/-!
# The scenarios there are

Three scenarios that drive a device through a network: form it, look up an address that is
reachable from outside, and stop the radio.
-/

namespace ThreadHost.Scenario

/-- The roles of a device that is attached to a network. -/
def attachedRoles : List String := ["leader", "router", "child"]

/-- Wait for the device to take one of some roles. A timeout that is of no use shows here. -/
def waitForRole (roles : List String) (timeout : Except Fault Float) :
    Act (Underway Session) Unit := do
  let timeout ← Act.ofFault timeout
  onState (Session.waitForState roles timeout)

/-- Wait for the device to be back in the disabled role. -/
def waitForDisabled (timeout : Except Fault Float) : Act (Underway Session) Unit :=
  waitForRole ["disabled"] timeout

/-- A channel as a detail of a step. -/
def channelDetail : Option Nat → Datum
  | some channel => .whole channel
  | none => .nothing

/-- The step of a network that was joined. -/
def joined (dataset : Dataset) : Step where
  name := "Join network"
  passed := true
  message := "Dataset applied for " ++ (dataset.networkName.map Text.Quoted.quote).getD "None"
  details := [("channel", channelDetail dataset.channel)]

/-- Reset the device, join the network and wait until the device is attached. The role in the
last step is asked for once more after the wait. -/
def formNetwork (dataset : Dataset) (timeout : Except Fault Float) : Scenario Session where
  name := "Form Network"
  description := "Factory reset, join the network and wait until attached"
  body := do
    onState Session.factoryReset
    waitForDisabled timeout
    note ⟨"Factory reset", true, "Device back in disabled state", []⟩
    onState (Session.join dataset)
    note (joined dataset)
    waitForRole attachedRoles timeout
    let role ← onState Session.getState
    note ⟨"Attach", true, "Device attached as " ++ role, [("state", .text role)]⟩

/-- Look up the address of an attached device that is reachable from outside the mesh. -/
def offMeshAddress (dataset : Dataset) : Scenario Session where
  name := "OMR Address"
  description := "Look up an off-mesh-routable address"
  body := do
    let role ← onState Session.getState
    let attached := attachedRoles.contains role
    note ⟨"Attached", attached, "state=" ++ role, []⟩
    if attached then
      match ← onState (Session.getOffMeshAddress (some dataset)) with
      | none =>
        note ⟨"OMR address", true, "No OMR prefix on this network", []⟩
        conclude .skipped
      | some address =>
        note ⟨"OMR address", true, "Found " ++ address.text, [("address", .text address.text)]⟩

/-- Stop the radio and wait until the device is disabled. -/
def stopRadio (timeout : Except Fault Float) : Scenario Session where
  name := "Stop Radio"
  description := "Stop the Thread radio and wait for disabled"
  body := do
    onState Session.stopRadio
    note ⟨"Stop radio", true, "thread stop / ifconfig down accepted", []⟩
    waitForDisabled timeout
    note ⟨"Disabled", true, "Device in disabled state", []⟩

/-- All scenarios, in order. -/
def all (dataset : Dataset) (timeout : Except Fault Float) : List (Scenario Session) :=
  [formNetwork dataset timeout, offMeshAddress dataset, stopRadio timeout]

/-- Run all scenarios. -/
def runEvery (dataset : Dataset) (timeout : Except Fault Float) : Act Session (List Report) :=
  runAll Session.clock.now (all dataset timeout)

/-- How long a scenario waits for a role, unless told otherwise. -/
def defaultTimeout : Float := 30

end ThreadHost.Scenario
