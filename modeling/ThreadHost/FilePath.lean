import ThreadHost.Text.Pieces
/-!
# Paths of files

Paths as text: repeated slashes and parts that are a single point vanish, two points stay, and
exactly two slashes at the front stay two.
-/

namespace ThreadHost

/-- A path: what it begins with, and its parts. -/
structure FilePath where
  root : String
  parts : List String
  deriving Repr, DecidableEq

namespace FilePath

/-- The parts of a path text that count. -/
def partsOf (text : List Char) : List String :=
  ((Text.pieces '/' text).filter fun part => part ≠ [] ∧ part ≠ ['.']).map String.ofList

/-- Read a path. -/
def ofText (text : String) : FilePath :=
  let slashes := (text.toList.takeWhile (· = '/')).length
  ⟨if slashes = 2 then "//" else if slashes = 0 then "" else "/", partsOf text.toList⟩

/-- The text of a path. -/
def text (path : FilePath) : String :=
  if path.root = "" ∧ path.parts = [] then "." else path.root ++ "/".intercalate path.parts

/-- A path below another; one that begins at a root stands for itself. -/
def below (path : FilePath) (inner : String) : FilePath :=
  let inner := ofText inner
  if inner.root = "" then ⟨path.root, path.parts ++ inner.parts⟩ else inner

/-- The path of the directory that a path lies in. -/
def parent (path : FilePath) : FilePath := { path with parts := path.parts.dropLast }

/-- A home directory without slashes at its end. -/
def homeText (home : String) : String :=
  String.ofList ((home.toList.reverse.dropWhile (· = '/')).reverse)

/-- The path with a leading `~` replaced by the home directory; nothing when the `~` names somebody
whose home is not known. -/
def expandHome? (home : String) (path : FilePath) : Option FilePath :=
  match path.root, path.parts with
  | "", first :: rest =>
    if first = "~" then
      let directory := ofText (if homeText home = "" then "/" else homeText home)
      some ⟨directory.root, directory.parts ++ rest⟩
    else if first.toList.head? = some '~' then none
    else some path
  | _, _ => some path

/-- The path without two-point parts: each takes the part before it away, if there is one. -/
def resolved (path : FilePath) : FilePath :=
  { path with
    parts := path.parts.foldl (fun done part =>
      if part = ".." then done.dropLast else done ++ [part]) [] }

end FilePath

end ThreadHost
