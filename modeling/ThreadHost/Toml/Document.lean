import ThreadHost.Toml.Lexeme
/-!
# TOML documents

Values, and the statements of a document: tables, arrays of tables, and pairs of key and value.
A table may be declared once, a value set once, and whatever was written inline is closed.
-/

namespace ThreadHost.Toml

/-- The path of a table or value from the root. -/
abbrev Path := List String

/-- Change the table behind a path, making tables on the way where there are none. In an array of
tables the last one is meant, if `intoLists` allows to look there. -/
def within (intoLists : Bool) (change : Table → Option Table) : Path → Table → Option Table
  | [], table => change table
  | name :: path, table =>
    match table.get? name with
    | none => (within intoLists change path []).map fun inner => table.put name (.table inner)
    | some (.table inner) =>
      (within intoLists change path inner).map fun inner => table.put name (.table inner)
    | some (.list items) =>
      match intoLists, items.getLast? with
      | true, some (.table inner) =>
        (within intoLists change path inner).map fun inner =>
          table.put name (.list (items.dropLast ++ [.table inner]))
      | _, _ => none
    | some _ => none

/-- Set a name that has no value yet. -/
def setNew (name : String) (value : Datum) (table : Table) : Option Table :=
  if (table.get? name).isSome then none else some (table ++ [(name, value)])

/-- Whether a path or one above it is among the given. -/
def coveredBy (paths : List Path) (path : Path) : Bool :=
  paths.any fun above => above.isPrefixOf path && above ≠ []

/-- Whether a value is an array or a table. -/
def isNested : Datum → Bool
  | .list _ | .table _ => true
  | _ => false

/-- A pair of key and value, given a reader of values. -/
def pair (value : Parser Datum) : Parser (Path × Datum) := fun text => do
  let (path, rest) ← key text
  let rest ← required (mark '=' rest)
  let (datum, rest) ← value (skipBlanks rest)
  pure ((path, datum), rest)

/-- The text behind spaces and comments. -/
def behindFiller (text : List Char) : Except Flaw (List Char) :=
  required (skipFiller false text)

/-- Put a pair into an inline table. -/
def putInline (table : Table) (closed : List Path) (path : Path) (datum : Datum) : Option Table :=
  if coveredBy closed path then none
  else within false (setNew (path.getLastD "") datum) path.dropLast table

mutual

/-- A value inside so many arrays and inline tables, with at most a given depth and length of
nesting. -/
def value : Nat → Nat → Parser Datum
  | 0, _, _ => .error .malformed
  | bound + 1, level, text =>
    if mostLevels < level then .error .tooDeep
    else
      match text with
      | '"' :: _ | '\'' :: _ => do
        let (content, rest) ← required (string text)
        pure (.text content, rest)
      | '[' :: rest => do
        let (items, rest) ← arrayItems bound (level + 1) (← behindFiller rest)
        pure (.list items, rest)
      | '\x7b' :: rest => do
        let (table, rest) ← inlinePairs bound (level + 1) [] [] (← behindFiller rest)
        pure (.table table, rest)
      | _ =>
        match expect "true".toList text, expect "false".toList text, moment text with
        | some rest, _, _ => .ok (.truth true, rest)
        | none, some rest, _ => .ok (.truth false, rest)
        | none, none, some rest => do pure (.moment, ← required rest)
        | none, none, none => anyNumber text

/-- The items of an array from one of them on, or its end. -/
def arrayItems : Nat → Nat → Parser (List Datum)
  | 0, _, _ => .error .malformed
  | bound + 1, level, text =>
    match text with
    | ']' :: rest => .ok ([], rest)
    | _ => do
      let (item, rest) ← value bound level text
      match ← behindFiller rest with
      | ']' :: rest => pure ([item], rest)
      | ',' :: rest =>
        let (items, rest) ← arrayItems bound level (← behindFiller rest)
        pure (item :: items, rest)
      | _ => .error .malformed

/-- The pairs of an inline table from one of them on, or its end. -/
def inlinePairs : Nat → Nat → Table → List Path → Parser Table
  | 0, _, _, _, _ => .error .malformed
  | bound + 1, level, table, closed, text =>
    match text with
    | '\x7d' :: rest => .ok (table, rest)
    | _ => do
      let ((path, datum), rest) ← pair (value bound level) text
      let table ← required (putInline table closed path datum)
      let closed := if isNested datum then path :: closed else closed
      match ← behindFiller rest with
      | '\x7d' :: rest => pure (table, rest)
      | ',' :: rest => inlinePairs bound level table closed (← behindFiller rest)
      | _ => .error .malformed

end

/-- What has been read of a document. -/
structure Document where
  root : Table := []
  /-- The table that pairs go to. -/
  header : Path := []
  /-- Tables that may not be declared again. -/
  declared : List Path := []
  /-- Tables that dotted keys have made since the last header. -/
  dotted : List Path := []
  /-- Arrays and tables that were written inline. -/
  closed : List Path := []

namespace Document

/-- Tables made by dotted keys count as declared from the next header on. -/
def settle (document : Document) : Document :=
  { document with declared := document.dotted ++ document.declared, dotted := [] }

/-- Declare a table. -/
def declare (document : Document) (path : Path) : Option Document := do
  guard (¬(document.declared.contains path || coveredBy document.closed path))
  let root ← within true some path document.root
  pure { document with root, header := path, declared := path :: document.declared }

/-- Add a table to the array at the end of a path. -/
def appendTo (name : String) (table : Table) : Option Table :=
  match table.get? name with
  | none => some (table.put name (.list [.table []]))
  | some (.list items) => some (table.put name (.list (items ++ [.table []])))
  | some _ => none

/-- Begin a new table of an array of tables. What was declared below the previous one is free
again. -/
def declareItem (document : Document) (path : Path) : Option Document := do
  guard (¬coveredBy document.closed path)
  let free := fun (paths : List Path) => paths.filter fun below => ¬path.isPrefixOf below
  let root ← within true (appendTo (path.getLastD "")) path.dropLast document.root
  pure { document with
    root
    header := path
    declared := path :: free document.declared
    closed := free document.closed }

/-- The tables between the header and the last part of a key. -/
def between (header key : Path) : List Path :=
  (List.range (key.length - 1)).map fun count => header ++ key.take (count + 1)

/-- Set the value of a key below the header. -/
def assign (document : Document) (key : Path) (datum : Datum) : Option Document := do
  let made := between document.header key
  guard (¬made.any document.declared.contains)
  let parent := document.header ++ key.dropLast
  guard (¬coveredBy document.closed parent)
  let root ← within true (setNew (key.getLastD "") datum) parent document.root
  let closed :=
    if isNested datum then (document.header ++ key) :: document.closed else document.closed
  pure { document with root, closed, dotted := made ++ document.dotted }

/-- One statement, and what is left behind it on its line. -/
def statement (document : Document) : Parser Document := fun text =>
  match text with
  | '[' :: '[' :: rest => do
    let (path, rest) ← key (skipBlanks rest)
    let document ← required (document.settle.declareItem path)
    pure (document, skipBlanks (← required (expect "]]".toList rest)))
  | '[' :: rest => do
    let (path, rest) ← key (skipBlanks rest)
    let document ← required (document.settle.declare path)
    pure (document, skipBlanks (← required (mark ']' rest)))
  | '#' :: _ | '\n' :: _ | [] => .ok (document, text)
  | _ => do
    let ((path, datum), rest) ← pair (value (2 * text.length + 2) 0) text
    let document ← required (document.assign path datum)
    pure (document, skipBlanks rest)

/-- The statements of a text, at most a given number of lines. -/
def statements : Nat → Document → List Char → Except Flaw Document
  | 0, _, _ => .error .malformed
  | lines + 1, document, text => do
    let (document, rest) ← document.statement (skipBlanks text)
    match ← required (skipComment rest) with
    | [] => pure document
    | '\n' :: rest => statements lines document rest
    | _ => .error .malformed

end Document

/-- A carriage return before a line feed belongs to the line end. -/
def joinLineEnds : List Char → List Char
  | '\r' :: '\n' :: rest => '\n' :: joinLineEnds rest
  | character :: rest => character :: joinLineEnds rest
  | [] => []

/-- The table of a document. -/
def parse (text : List Char) : Except Flaw Table :=
  let text := joinLineEnds text
  (Document.statements (text.length + 1) {} text).map Document.root

end ThreadHost.Toml
