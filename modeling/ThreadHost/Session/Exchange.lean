import ThreadHost.Session.Basic
/-!
# One exchange

A command goes out as one line; the answer is read line by line up to and including the line that
closes it.
-/

namespace ThreadHost.Session

/-- How a failed write looks to whoever sent a command. -/
def writeFailure (command : String) : Failure → Failure
  | .plain fault =>
    if fault.isStreamFault then .writeRejected command (some fault) else .plain fault
  | failure => failure

/-- How a failed read looks to whoever sent a command. -/
def readFailure (command : String) : Failure → Failure
  | .plain fault =>
    if fault.isStreamFault then .readFailed command ("read failed: " ++ fault.message) (some fault)
    else .plain fault
  | failure => failure

/-- Change the failure of an operation. -/
def renameFailure {α : Type} (rename : Failure → Failure) (act : Act Session α) : Act Session α :=
  fun session =>
    match act.perform session with
    | (.ok value, after) => (.ok value, after)
    | (.error failure, after) => (.error (rename failure), after)

/-- Write and push out data on behalf of a command. -/
def writeFor (command : String) (data : Bytes) : Act Session Unit :=
  renameFailure (writeFailure command) (onWire (do Wire.write data; Wire.flush))

/-- Send a command. -/
def send (command : String) : Act Session Unit := do
  match Command.encode command with
  | .error fault => Act.refuse fault
  | .ok data =>
    writeFor command data
    count fun stats => { stats with commandsSent := stats.commandsSent + 1 }
    notify .sent command

/-- Read one line of an answer; nothing at the end of the output. -/
def readLine (command : String) : Act Session (Option String) := do
  let raw ← renameFailure (readFailure command) (onWire Wire.readLine)
  if raw = [] then pure none
  else
    let line := Line.decode raw
    count fun stats => { stats with linesReceived := stats.linesReceived + 1 }
    notify .received line
    pure (some line)

/-- The failure of an answer that ends before its last line. -/
def truncatedAnswer (command : String) : Failure := .readFailed command truncated none

/-- Read the rest of an answer, behind the content lines that have come, in at most a given number
of reads. -/
def readAnswer (command : String) : Nat → List String → Act Session (List String)
  | 0, _ => throw (truncatedAnswer command)
  | reads + 1, content => do
    match ← readLine command with
    | none => throw (truncatedAnswer command)
    | some line =>
      match Line.classify line with
      | .done => pure content
      | .error =>
        count fun stats => { stats with deviceErrors := stats.deviceErrors + 1 }
        throw (.deviceError command (some line) none none)
      | .prompt =>
        count fun stats => { stats with promptLines := stats.promptLines + 1 }
        readAnswer command reads content
      | .content => readAnswer command reads (content ++ [line])

/-- Send a command and read its answer: the content lines. Each read but the last takes at least
one byte, so one read more than there are bytes is enough. -/
def execute (command : String) : Act Session (List String) := do
  send command
  readAnswer command ((← get).streams.unread.length + 1) []

end ThreadHost.Session
