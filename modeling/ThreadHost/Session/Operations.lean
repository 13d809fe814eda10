import ThreadHost.Dataset.Fields
import ThreadHost.Dataset.Records
import ThreadHost.Session.Exchange
/-!
# What a session can ask of its device
-/

namespace ThreadHost.Session

/-- Fail with a dataset fault as it is. -/
def ofDataset {α : Type} : Except Dataset.Fault α → Act Session α
  | .ok value => pure value
  | .error fault => Act.refuse (.dataset fault)

/-- The role of the device: the first content line, whatever it says. -/
def getState : Act Session String := do
  match ← execute "state" with
  | state :: _ => pure state
  | [] =>
    count fun stats => { stats with deviceErrors := stats.deviceErrors + 1 }
    throw (.deviceError "state" none (some "empty response to state query") none)

/-- Run commands one after another; the first that fails ends it. -/
def executeAll (commands : List String) : Act Session Unit :=
  commands.forM fun command => do discard (execute command)

/-- The commands that join the network of a dataset with a given text. -/
def joinCommands (hex : String) : List String :=
  ["dataset set active " ++ hex, "ifconfig up", "thread start"]

/-- Join the network of a dataset. The dataset is the active one from the start, even when a step
fails. -/
def join (dataset : Dataset) : Act Session Unit := do
  modify fun session => { session with activeDataset := some dataset }
  let hex ← ofDataset dataset.toHex
  executeAll (joinCommands hex)

/-- Stop the radio. -/
def stopRadio : Act Session Unit := executeAll ["thread stop", "ifconfig down"]

/-- The unicast addresses, as the device lists them. -/
def getAddresses : Act Session (List String) := execute "ipaddr"

/-- Whether an address is reachable from outside the mesh. -/
def isOffMesh (mesh : Option Address.Network) (address : Address.Ipv6) : Bool :=
  !address.isLinkLocal && !(mesh.any fun network => network.contains address)

/-- The first listed address that is reachable from outside the mesh. A line before it that is no
address makes the whole answer invalid. -/
def firstOffMesh (mesh : Option Address.Network) :
    List String → Except Failure (Option Address.Ipv6)
  | [] => .ok none
  | line :: rest =>
    match Address.Ipv6.parse (Text.Blank.strip line) with
    | .error fault =>
      .error (.deviceError "ipaddr" (some line)
        (some ("invalid IPv6 address: " ++ Text.Quoted.quote line)) (some (.address fault)))
    | .ok address => if isOffMesh mesh address then .ok (some address) else firstOffMesh mesh rest

/-- The first off-mesh-routable address of the device, judged by the given dataset or else by the
active one. Without either nothing is asked. -/
def getOffMeshAddress (dataset : Option Dataset) : Act Session (Option Address.Ipv6) := do
  match dataset.or (← get).activeDataset with
  | none => pure none
  | some dataset =>
    let mesh ← ofDataset dataset.meshLocalPrefix
    let lines ← getAddresses
    Act.ofExcept (firstOffMesh mesh lines)

/-- A text put in its place among ascending ones, unless it is there. -/
def insertText (text : String) : List String → List String
  | [] => [text]
  | other :: rest =>
    if text < other then text :: other :: rest
    else if text = other then other :: rest
    else other :: insertText text rest

/-- Texts in ascending order, each once. -/
def ascending (texts : List String) : List String := texts.foldr insertText []

/-- The session's clock. -/
def clock : Waiting.Clock Session Float where
  now session := session.host.clock
  pause seconds :=
    Act.onPart (fun session : Session => session.host)
      (fun host session => { session with host }) (Host.pause seconds)

/-- The session's clock and the pause between two checks. With an interval that is of no use, it is
the pause that fails. -/
def pacing (session : Session) : Waiting.Clock Session Float × Float :=
  match session.pollInterval with
  | .ok interval => (clock, interval)
  | .error fault => (clock.stuck fault, 0)

/-- Wait until the role of the device is one of the given. Every check but the last reads a line,
so one check more than there are bytes is enough. -/
def waitForState (states : List String) (timeout : Float) : Act Session Unit := do
  let session ← get
  let check := do pure (states.contains (← getState))
  let description := "state in " ++ Text.Quoted.quoteAll (ascending states)
  let (clock, interval) := session.pacing
  match ← Waiting.waitFor clock check timeout interval description
      (session.streams.unread.length + 1) with
  | .satisfied => pure ()
  | .unfinished => throw (truncatedAnswer "state")

/-- The command that resets a device. -/
def resetCommand : String := "factoryreset"

/-- Reset the device. It restarts instead of answering; blank lines fill its input buffer, so that
the next command is not cut short. -/
def factoryReset : Act Session Unit := do
  send resetCommand
  let padding ← Act.ofFault (← get).padding
  writeFor resetCommand (List.replicate padding Line.feed)

/-- Close the link that the session owns. -/
def close : Act Session Unit := onWire Wire.close

/-- Run an operation and close the session behind it. -/
def within {α : Type} (act : Act Session α) : Act Session α := act.thenAlways close

/-- The operations of a session, as data. -/
inductive Operation where
  | execute (command : String)
  | getState
  | join (dataset : Dataset)
  | stopRadio
  | getAddresses
  | getOffMeshAddress (dataset : Option Dataset)
  | waitForState (states : List String) (timeout : Float)
  | factoryReset
  | close

/-- What an operation answers. -/
inductive Answer where
  | nothing
  | state (role : String)
  | lines (content : List String)
  | address (address : Option Address.Ipv6)

/-- Carry out an operation. -/
def perform : Operation → Act Session Answer
  | .execute command => do pure (.lines (← Session.execute command))
  | .getState => do pure (.state (← Session.getState))
  | .join dataset => do Session.join dataset; pure .nothing
  | .stopRadio => do Session.stopRadio; pure .nothing
  | .getAddresses => do pure (.lines (← Session.getAddresses))
  | .getOffMeshAddress dataset => do pure (.address (← Session.getOffMeshAddress dataset))
  | .waitForState states timeout => do Session.waitForState states timeout; pure .nothing
  | .factoryReset => do Session.factoryReset; pure .nothing
  | .close => do Session.close; pure .nothing

end ThreadHost.Session
