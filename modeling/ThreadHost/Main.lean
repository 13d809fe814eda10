import ThreadHost.Config.Location
import ThreadHost.Tool.Latency
import ThreadHost.Tool.Scenarios
import ThreadHost.Tool.Send
/-!
# The command line

Runs a tool against a device whose output comes from standard input. The first argument names the
tool: `send`, `bench` or `form`.
-/

namespace ThreadHost.Main

/-- Everything there is on a stream. -/
partial def readAll (stream : IO.FS.Stream) (done : ByteArray) : IO ByteArray := do
  let part ← stream.read 65536
  if part.isEmpty then pure done else readAll stream (done ++ part)

/-- The default settings file. -/
def defaultSettings : IO FilePath := do
  pure (Config.location (← IO.getEnv "XDG_CONFIG_HOME") ((← IO.getEnv "HOME").getD "/"))

/-- What there is at the path of the settings file that a command line names, with directories all
the way there. -/
def settingsFiles (fallback : FilePath) (texts : List String) : IO Files := do
  let named := match CommandLine.Arguments.read Tool.Scenarios.form texts with
    | .ok arguments => (arguments.text "--config" fallback.text).shown
    | .error _ => fallback.text
  let path := FilePath.ofText named
  let entry ←
    try pure (Entry.file (← IO.FS.readBinFile path.text).toList)
    catch _ => pure Entry.absent
  pure fun other => if other = path.resolved then entry else .directory

/-- Print what a tool has to say, and give its exit code. -/
def conclude (run : Tool.Run) : IO UInt32 := do
  IO.print (printedLines run.printed)
  IO.eprint (printedLines run.complaints)
  match run.ending with
  | .exit code => pure code.toUInt32
  | .refused refusal => pure refusal.exitCode.toUInt32
  | .failed failure =>
    IO.eprintln failure.message
    pure 1
  | .unreadable _ =>
    IO.eprintln "The settings file cannot be used."
    pure 1

end ThreadHost.Main

open ThreadHost in
/-- Run the tool that the first argument names. -/
def main (arguments : List String) : IO UInt32 := do
  let output ← Main.readAll (← IO.getStdin) ByteArray.empty
  let device : Device := { streams := { unread := output.toList } }
  match arguments with
  | "send" :: texts => Main.conclude (Tool.Send.run texts device)
  | "bench" :: texts => Main.conclude (Tool.Latency.run texts device)
  | "form" :: texts => do
    let fallback ← Main.defaultSettings
    let files ← Main.settingsFiles fallback texts
    Main.conclude (Tool.Scenarios.run files fallback texts device)
  | _ =>
    IO.eprintln "The first argument is one of: send, bench, form."
    pure 2
