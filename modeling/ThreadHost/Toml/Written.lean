import ThreadHost.Decimal.Shortest
import ThreadHost.Text.Quoted
import ThreadHost.Toml.Lexeme
/-!
# Writing TOML

Tables under their headers, with an empty line between two of them. Values stand behind their keys;
a value that has no written form ends the text.
-/

namespace ThreadHost.Toml

/-- One character of a string in double quotes. A tab stands for itself; a control character
without a letter of its own is written by its code point. -/
def writeCharacter (character : Char) : List Char :=
  match character with
  | '"' => ['\\', '"']
  | '\\' => ['\\', '\\']
  | '\x08' => ['\\', 'b']
  | '\n' => ['\\', 'n']
  | '\x0c' => ['\\', 'f']
  | '\r' => ['\\', 'r']
  | _ =>
    if (character.toNat < 0x20 && character ≠ '\t') || character.toNat = 0x7F then
      '\\' :: 'u' :: Text.Quoted.hexDigits 4 character.toNat
    else [character]

/-- A string in double quotes. -/
def writeString (text : String) : String :=
  String.ofList ('"' :: (text.toList.flatMap writeCharacter ++ ['"']))

/-- A key; one that is not bare stands in quotes. -/
def writeKey (name : String) : String :=
  if name ≠ "" && name.toList.all isBare then name else writeString name

/-- The spaces in front of an item of an array. -/
def indent (level : Nat) : String := String.ofList (List.replicate (4 * level) ' ')

/-! ## Values -/

mutual

/-- The text of a value inside so many arrays, or the kind of what cannot be written. An array has
a line for each item; a table stands on one line. -/
def literal (level : Nat) : Datum → Except Datum.Kind String
  | .text value => .ok (writeString value)
  | .whole value => .ok (toString value)
  | .real value => .ok (Decimal.text value)
  | .truth value => .ok (if value then "true" else "false")
  | .list [] => .ok "[]"
  | .list (first :: rest) => do
    let items := (← literal (level + 1) first) :: (← literals (level + 1) rest)
    let lines := items.map fun item => indent (level + 1) ++ item ++ ",\n"
    pure ("[\n" ++ String.join lines ++ indent level ++ "]")
  | .table [] => .ok "\x7b\x7d"
  | .table ((name, value) :: rest) => do
    let first := writeKey name ++ " = " ++ (← literal 0 value)
    pure ("\x7b " ++ ", ".intercalate (first :: (← inlinePairsOf rest)) ++ " \x7d")
  | .nothing => .error .nothing
  | .moment => .error .moment

/-- The texts of the items of an array. -/
def literals (level : Nat) : List Datum → Except Datum.Kind (List String)
  | [] => .ok []
  | item :: rest => do pure ((← literal level item) :: (← literals level rest))

/-- The texts of the pairs of a table on one line. -/
def inlinePairsOf : List (String × Datum) → Except Datum.Kind (List String)
  | [] => .ok []
  | (name, value) :: rest => do
    pure ((writeKey name ++ " = " ++ (← literal 0 value)) :: (← inlinePairsOf rest))

end

/-! ## Tables -/

/-- The most characters of a line with a table on it. -/
def longestTable : Nat := 100

/-- Whether a value is a table that is short enough to stand on the line of an array. -/
def fitsLine (value : Datum) : Except Datum.Kind Bool := do
  let line := indent 1 ++ (← literal 0 value) ++ ","
  pure (line.length ≤ longestTable && !line.toList.contains '\n')

/-- Whether a value is a table. -/
def isTable : Datum → Bool
  | .table _ => true
  | _ => false

/-- Whether an array is written as tables with headers of their own: it holds tables only, and not
all of them fit on a line. -/
def needsHeaders (items : List Datum) : Except Datum.Kind Bool := do
  if items = [] || !items.all isTable then pure false
  else pure !(← items.allM fitsLine)

/-- Whether a value is written behind its key, and not under a header. -/
def isPlain : Datum → Except Datum.Kind Bool
  | .table _ => .ok false
  | .list items => do pure !(← needsHeaders items)
  | _ => .ok true

/-- The pairs of a table that are written behind their keys. -/
def plainPairs (entries : Table) : Except Datum.Kind Table := entries.filterM fun pair => isPlain pair.2

/-- Pieces of text in order, some of which cannot be written. -/
abbrev Pieces := List (Except Datum.Kind String)

/-- The line of a pair. -/
def pairLine (pair : String × Datum) : Except Datum.Kind String := do
  pure (writeKey pair.1 ++ " = " ++ (← literal 0 pair.2) ++ "\n")

/-- A table: its header, its pairs, and the tables below it, with an empty line in front of each of
these where anything stands before it. The root has no header, and neither has a table that holds
nothing but tables. -/
def arrange (header : String) (isItem : Bool) (entries : Table) (below : List Pieces) : Pieces :=
  match plainPairs entries with
  | .error kind => [.error kind]
  | .ok pairs =>
    let title : Pieces :=
      if isItem then [.ok ("[[" ++ header ++ "]]\n")]
      else if header ≠ "" && (pairs ≠ [] || below.isEmpty) then [.ok ("[" ++ header ++ "]\n")]
      else []
    let front := title ++ pairs.map pairLine
    if front.isEmpty then [.ok "\n"].intercalate below
    else front ++ below.flatMap fun pieces => .ok "\n" :: pieces

/-- The header of a table below another one. -/
def headerBelow (header name : String) : String :=
  if header = "" then writeKey name else header ++ "." ++ writeKey name

mutual

/-- A value that is written under a header: a table, or an array whose tables each have one. -/
def underHeader (header : String) (isItem : Bool) : Datum → List Pieces
  | .table entries => [arrange header isItem entries (tablesBelow header entries)]
  | .list items =>
    match needsHeaders items with
    | .ok true => itemTables header items
    | _ => []
  | _ => []

/-- The tables with headers among the pairs of a table. -/
def tablesBelow (header : String) : List (String × Datum) → List Pieces
  | [] => []
  | (name, value) :: rest =>
    underHeader (headerBelow header name) false value ++ tablesBelow header rest

/-- The tables of an array, each with a header. -/
def itemTables (header : String) : List Datum → List Pieces
  | [] => []
  | item :: rest => underHeader header true item ++ itemTables header rest

end

/-- What is written of a document: its text up to the first piece that cannot be written, and the
kind of that piece. -/
structure Written where
  text : String
  missing : Option Datum.Kind
  deriving Repr, DecidableEq

/-- Put pieces together. -/
def gather : Pieces → Written
  | [] => ⟨"", none⟩
  | .ok piece :: rest => { gather rest with text := piece ++ (gather rest).text }
  | .error kind :: _ => ⟨"", some kind⟩

/-- Write a document. -/
def write (root : Table) : Written := gather (arrange "" false root (tablesBelow "" root))

end ThreadHost.Toml
