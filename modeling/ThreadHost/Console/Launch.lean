import ThreadHost.Config.File
import ThreadHost.Console.Basic
import ThreadHost.FilePath
import ThreadHost.Log.Level
/-!
# Launching the console

The settings are read, the directory for logs is made, a log file named for the moment is opened,
and the console runs.
-/

namespace ThreadHost.Console

/-- Why a file or a directory cannot be made. -/
inductive PlaceFault where
  /-- The path or a name on it is too long. -/
  | tooLong
  /-- A part of the path is a file. -/
  | notDirectory
  /-- The path is that of a file. -/
  | isFile
  deriving Repr, DecidableEq

/-- Why the directory of a path cannot be made, with all that is missing above it: what is on the
way is found first. -/
def obstacle? (files : Files) (path : FilePath) : Option PlaceFault :=
  match path.follow files.filled with
  | .error .tooLong => some .tooLong
  | .error .notDirectory => some .notDirectory
  | .ok (.file _) => some .isFile
  | .ok _ => none

/-- Why the console does not run to its end. -/
inductive LaunchFailure where
  | settings (error : Config.LoadError)
  | place (fault : PlaceFault)
  | failed (failure : Failure)

/-- What a launch did. -/
structure Launch where
  /-- The level and the file of the log, if it was opened. -/
  log : Option (Log.Level × FilePath) := none
  /-- The console as it was when it began to run, if it did. -/
  ran : Option Console := none
  failure : Option LaunchFailure := none

/-- What a null character in a path is refused with. -/
def nullRefused : Fault := .rejected "embedded null byte"

/-- The directory for logs. A path must not hold a null character, and a `~` must stand for the
home directory. -/
def logDirectory (config : Config) (home : String) : Except Fault FilePath :=
  let path := FilePath.ofText config.logging.directory.shown
  match path.expandHome? home with
  | none =>
    if (path.parts.headD "").toList.contains '\x00' then .error nullRefused
    else .error (.runtime "Could not determine home directory.")
  | some path => if path.holdsNull then .error nullRefused else .ok path

/-- The log file of a moment. -/
def logFile (directory : FilePath) (moment : Int) : FilePath :=
  (directory.below ("ftd_host_" ++ Calendar.stamp moment ++ ".log")).resolved

/-- The log file of a moment. -/
def openLog (directory : FilePath) (moment : Except Calendar.Absence Int) :
    Except LaunchFailure FilePath := do
  let moment ← moment.mapError fun absence => .failed (.plain (.moment absence))
  let file := logFile directory moment
  if file.isTooLong then throw (.place .tooLong)
  pure file

/-- The console and its log, ready to run. The directory for logs is made where it is missing. -/
def prepare (files : Files) (settings : FilePath) (home : String)
    (moment : Except Calendar.Absence Int) :
    Except LaunchFailure (Config × FilePath) := do
  let config ← (Config.loadAt files settings).mapError .settings
  let directory ← (logDirectory config home).mapError fun fault => .failed (.plain fault)
  match obstacle? files directory with
  | some fault => throw (.place fault)
  | none => pure (config, ← openLog directory moment)

/-- Launch the console with the settings at a path, at a moment in microseconds. -/
def launch (files : Files) (settings : FilePath) (home : String)
    (moment : Except Calendar.Absence Int) (run : Console → Option Failure) : Launch :=
  match prepare files settings home moment with
  | .error failure => { failure := some failure }
  | .ok (config, file) =>
    let console : Console := { config }
    { log := some (Log.level config.logging.level.shown, file)
      ran := some console
      failure := (run console).map .failed }

end ThreadHost.Console
