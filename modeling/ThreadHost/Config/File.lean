import ThreadHost.Config.Checking
import ThreadHost.FilePath.Entry
import ThreadHost.Text.Utf8
import ThreadHost.Toml.Document
import ThreadHost.Toml.Written
/-!
# Settings files

A configuration as the bytes of a TOML file. A file that is not there stands for the defaults, and
so does a path with a file on its way or with a null character. Saving makes the directories above
the file and puts it in place of what was there.
-/

namespace ThreadHost.Config

/-- Why a settings file cannot be used. -/
inductive LoadError where
  /-- The file is not UTF-8. -/
  | encoding
  /-- The text is not read as TOML. -/
  | flawed (flaw : Toml.Flaw)
  /-- The settings are not acceptable. -/
  | unacceptable (issues : List Issue)
  /-- There is a directory in place of the file. -/
  | isDirectory
  /-- The path or a name on it is too long. -/
  | pathTooLong
  /-- What was given for a path is none. -/
  | misuse (how : Misuse)
  deriving Repr, DecidableEq

/-- The configuration in the bytes of a file. -/
def ofBytes (bytes : Bytes) : Except LoadError Config :=
  match Text.Utf8.decode? bytes with
  | none => .error .encoding
  | some text =>
    match Toml.parse text with
    | .error flaw => .error (.flawed flaw)
    | .ok table =>
      match check table with
      | .valid config => .ok config
      | .invalid issues => .error (.unacceptable issues)

/-- The configuration of a file that may not be there. -/
def load (file : Option Bytes) : Except LoadError Config :=
  match file with
  | none => .ok {}
  | some bytes => ofBytes bytes

/-- The configuration at a path. -/
def loadAt (files : Files) (path : FilePath) : Except LoadError Config :=
  if path.holdsNull then .ok {}
  else
    match path.follow files with
    | .error .tooLong => .error .pathTooLong
    | .error .notDirectory | .ok .absent => load none
    | .ok .directory => .error .isDirectory
    | .ok (.file bytes) => load (some bytes)

/-- The text of a configuration, as far as it can be written. -/
def written (config : Config) : Toml.Written := Toml.write config.table

/-- The bytes of the file that a configuration is saved to, whatever was there before. -/
def save (config : Config) : Bytes := Text.Utf8.encode config.written.text.toList

/-- Why a configuration is not saved as a whole. -/
def saveFault? (config : Config) : Option Fault :=
  config.written.missing.map fun kind => .misuse (.notWritable kind)

/-- Why a configuration is not saved at a path. -/
inductive SaveError where
  /-- The directory is not made, or the file not written. -/
  | file (fault : WriteFault)
  /-- A setting cannot be written; the file ends before it. -/
  | setting (fault : Fault)
  deriving Repr, DecidableEq

/-- What is left when a configuration was saved. -/
structure Saved where
  files : Files
  error : Option SaveError

/-- Save a configuration at a path, with the directories above it. -/
def saveAt (files : Files) (path : FilePath) (config : Config) : Saved :=
  match files.makeDirectories path.parent with
  | (made, some fault) => ⟨made, some (.file fault)⟩
  | (made, none) =>
    match made.placeOf path with
    | .error fault => ⟨made, some (.file fault)⟩
    | .ok place => ⟨made.put place (.file config.save), config.saveFault?.map .setting⟩

end ThreadHost.Config
