import ThreadHost.FilePath
/-!
# What there is at a path

Files as a map from paths to entries, and following a path through them. A name that is too long is
refused where it is looked up; a file with more of the path behind it is no directory; where there
is nothing, the way ends. Directories are made wherever there are none on a path, and a file is
written in place of what was there, unless that is a directory.
-/

namespace ThreadHost

/-- What there is at a path. -/
inductive Entry where
  | absent
  | directory
  | file (content : List UInt8)
  deriving Repr, DecidableEq

/-- Why a path cannot be followed. -/
inductive PathFault where
  /-- The path or a name on it is too long. -/
  | tooLong
  /-- There is a file on the way. -/
  | notDirectory
  deriving Repr, DecidableEq

/-- All files there are. The paths that are asked for hold no two-point parts. -/
abbrev Files := FilePath → Entry

namespace FilePath

/-- The most bytes of a path. -/
def longestPath : Nat := 4095

/-- The most bytes of a name on a path. -/
def longestName : Nat := 255

/-- Whether the text of a path is too long. -/
def isTooLong (path : FilePath) : Bool := longestPath < path.text.utf8ByteSize

/-- Whether a path holds a null character. -/
def holdsNull (path : FilePath) : Bool := path.text.toList.contains '\x00'

/-- Go on from parts that were passed, to what is at the end. -/
def followFrom (files : Files) (root : String) (passed : List String) :
    List String → Except PathFault Entry
  | [] => .ok (files ⟨root, passed⟩)
  | part :: rest =>
    if longestName < part.utf8ByteSize then .error .tooLong
    else
      let here := if part = ".." then passed.dropLast else passed ++ [part]
      match files ⟨root, here⟩ with
      | .absent => .ok .absent
      | .directory => followFrom files root here rest
      | .file content => if rest = [] then .ok (.file content) else .error .notDirectory

/-- Follow a path to what is at its end. -/
def follow (files : Files) (path : FilePath) : Except PathFault Entry :=
  if path.isTooLong then .error .tooLong else followFrom files path.root [] path.parts

end FilePath

/-! ## Making directories and writing files -/

/-- Why a directory is not made, or a file not written. -/
inductive WriteFault where
  /-- The path cannot be followed. -/
  | path (fault : PathFault)
  /-- The path holds a null character. -/
  | null
  /-- There is a file in place of the directory. -/
  | isFile
  /-- There is a directory in place of the file. -/
  | isDirectory
  /-- There is no directory that the file could be put in. -/
  | noDirectory
  deriving Repr, DecidableEq

namespace Files

/-- The files with another entry at a path. -/
def put (files : Files) (path : FilePath) (entry : Entry) : Files := fun other =>
  if other = path then entry else files other

/-- Go on from parts that were passed, and make a directory wherever there is nothing. What was made
before a fault stays. -/
def makeFrom (root : String) (files : Files) (passed : List String) :
    List String → Files × Option WriteFault
  | [] => (files, none)
  | part :: rest =>
    if FilePath.longestName < part.utf8ByteSize then (files, some (.path .tooLong))
    else
      let here := if part = ".." then passed.dropLast else passed ++ [part]
      match files ⟨root, here⟩ with
      | .absent => makeFrom root (files.put ⟨root, here⟩ .directory) here rest
      | .directory => makeFrom root files here rest
      | .file _ => (files, some (if rest = [] then .isFile else .path .notDirectory))

/-- Make a directory and all above it, as far as there are none. -/
def makeDirectories (files : Files) (path : FilePath) : Files × Option WriteFault :=
  if path.holdsNull then (files, some .null)
  else if path.isTooLong then (files, some (.path .tooLong))
  else makeFrom path.root files [] path.parts

/-- Go on from parts that were passed, to where a file is written. -/
def placeFrom (files : Files) (root : String) (passed : List String) :
    List String → Except WriteFault FilePath
  | [] => .error .isDirectory
  | part :: rest =>
    if FilePath.longestName < part.utf8ByteSize then .error (.path .tooLong)
    else
      let here := if part = ".." then passed.dropLast else passed ++ [part]
      match files ⟨root, here⟩, rest with
      | .directory, _ => placeFrom files root here rest
      | _, [] => .ok ⟨root, here⟩
      | .absent, _ => .error .noDirectory
      | .file _, _ => .error (.path .notDirectory)

/-- Where a file with a path is written. -/
def placeOf (files : Files) (path : FilePath) : Except WriteFault FilePath :=
  if path.holdsNull then .error .null
  else if path.isTooLong then .error (.path .tooLong)
  else placeFrom files path.root [] path.parts

end Files

/-- The same files, with a directory wherever there was nothing. -/
def Files.filled (files : Files) : Files := fun path =>
  match files path with
  | .absent => .directory
  | entry => entry

end ThreadHost
