import ThreadHost.Datum
import ThreadHost.Decimal.Binary
import ThreadHost.Text.DecimalDigit
import ThreadHost.Text.Hex
import ThreadHost.Toml.Flaw
/-!
# The words of TOML

Blanks, comments, keys, strings, numbers and moments. Line ends are single line feeds here.
-/

namespace ThreadHost.Toml

/-- Spaces and tabs. -/
def isBlank (character : Char) : Bool := character = ' ' || character = '\t'

/-- Blanks and line feeds. -/
def isSpace (character : Char) : Bool := isBlank character || character = '\n'

/-- Skip blanks. -/
def skipBlanks (text : List Char) : List Char := text.dropWhile isBlank

/-- Control characters that may stand neither in a comment nor in a string of one line. -/
def isControl (character : Char) : Bool :=
  (character.toNat < 0x20 && character ≠ '\t') || character.toNat = 0x7F

/-- Skip a comment up to the line feed behind it, if one begins here. -/
def skipComment : List Char → Option (List Char)
  | '#' :: rest =>
    if (rest.takeWhile (· ≠ '\n')).any isControl then none
    else some (rest.dropWhile (· ≠ '\n'))
  | text => some text

/-- Skip spaces and comments; the flag tells whether the text begins within a comment. -/
def skipFiller (inComment : Bool) : List Char → Option (List Char)
  | [] => some []
  | character :: rest =>
    if inComment then
      if character = '\n' then skipFiller false rest
      else if isControl character then none
      else skipFiller true rest
    else if isSpace character then skipFiller false rest
    else if character = '#' then skipFiller true rest
    else some (character :: rest)

/-- The rest behind some given characters, if the text begins with them. -/
def expect (word : List Char) (text : List Char) : Option (List Char) :=
  if word.isPrefixOf text then some (text.drop word.length) else none

/-! ## Strings -/

/-- The characters that a backslash and one letter stand for. -/
def shortEscape? : Char → Option Char
  | 'b' => some '\x08'
  | 't' => some '\t'
  | 'n' => some '\n'
  | 'f' => some '\x0c'
  | 'r' => some '\r'
  | 'e' => some '\x1b'
  | '"' => some '"'
  | '\\' => some '\\'
  | _ => none

/-- The character with the code point given by a number of hexadecimal digits. -/
def codePoint (width : Nat) (text : List Char) : Option (Char × List Char) := do
  let digits := text.take width
  guard (digits.length = width)
  let values ← digits.mapM Text.Hex.value?
  let code := values.foldl (fun sum digit => sum * 16 + digit) 0
  guard (code < 0xD800 ∨ (0xDFFF < code ∧ code < 0x110000))
  pure (Char.ofNat code, text.drop width)

/-- The character that an escape stands for, behind its backslash. -/
def escape : List Char → Option (Char × List Char)
  | 'x' :: rest => codePoint 2 rest
  | 'u' :: rest => codePoint 4 rest
  | 'U' :: rest => codePoint 8 rest
  | letter :: rest => (shortEscape? letter).map (·, rest)
  | [] => none

/-- The rest of a string of one line in double quotes, in at most a given number of steps. -/
def basicString : Nat → Reader (List Char)
  | 0, _ => none
  | steps + 1, text =>
    match text with
    | '"' :: rest => some ([], rest)
    | '\\' :: rest => do
      let (character, rest) ← escape rest
      let (more, rest) ← basicString steps rest
      pure (character :: more, rest)
    | character :: rest =>
      if isControl character then none
      else (basicString steps rest).map fun (more, rest) => (character :: more, rest)
    | [] => none

/-- Skip a line end that a backslash has taken back, with the spaces around it. -/
def foldedLine (text : List Char) : Option (List Char) :=
  match skipBlanks text with
  | [] => some []
  | '\n' :: rest => some (rest.dropWhile isSpace)
  | _ => none

/-- The rest of a string of several lines in double quotes, in at most a given number of steps. -/
def longBasicString : Nat → Reader (List Char)
  | 0, _ => none
  | steps + 1, text =>
    match text with
    | '"' :: '"' :: '"' :: rest => some ([], rest)
    | '\\' :: next :: rest =>
      if isSpace next then do longBasicString steps (← foldedLine (next :: rest))
      else do
        let (character, rest) ← escape (next :: rest)
        let (more, rest) ← longBasicString steps rest
        pure (character :: more, rest)
    | ['\\'] => none
    | character :: rest =>
      if isControl character && character ≠ '\n' then none
      else (longBasicString steps rest).map fun (more, rest) => (character :: more, rest)
    | [] => none

/-- The rest of a string of one line in single quotes. -/
def literalString : Reader (List Char)
  | [] => none
  | character :: rest =>
    if character = '\'' then some ([], rest)
    else if isControl character then none
    else (literalString rest).map fun (more, rest) => (character :: more, rest)

/-- The rest of a string of several lines in single quotes. -/
def longLiteralString : Reader (List Char)
  | '\'' :: '\'' :: '\'' :: rest => some ([], rest)
  | character :: rest =>
    if isControl character && character ≠ '\n' then none
    else (longLiteralString rest).map fun (more, rest) => (character :: more, rest)
  | [] => none

/-- Up to two quotes right behind the closing three belong to the string. -/
def extraQuotes (quote : Char) (content rest : List Char) : List Char × List Char :=
  let extra := min 2 (rest.takeWhile (· = quote)).length
  (content ++ List.replicate extra quote, rest.drop extra)

/-- A line feed right behind the opening quotes does not count. -/
def dropFirstFeed : List Char → List Char
  | '\n' :: rest => rest
  | text => text

/-- A string of any kind. -/
def string : Reader String := fun text =>
  let content : Option (List Char × List Char) :=
    match text with
    | '"' :: '"' :: '"' :: rest =>
      (longBasicString (text.length + 1) (dropFirstFeed rest)).map fun (content, rest) =>
        extraQuotes '"' content rest
    | '"' :: rest => basicString (text.length + 1) rest
    | '\'' :: '\'' :: '\'' :: rest =>
      (longLiteralString (dropFirstFeed rest)).map fun (content, rest) =>
        extraQuotes '\'' content rest
    | '\'' :: rest => literalString rest
    | _ => none
  content.map fun (content, rest) => (String.ofList content, rest)

/-! ## Keys -/

/-- The characters of a bare key. -/
def isBare (character : Char) : Bool :=
  character.isAlphanum || character = '-' || character = '_'

/-- One part of a key. -/
def keyPart : Reader String := fun text =>
  match text with
  | '"' :: rest =>
    (basicString (text.length + 1) rest).map fun (content, rest) => (String.ofList content, rest)
  | '\'' :: rest => (literalString rest).map fun (content, rest) => (String.ofList content, rest)
  | _ =>
    let bare := text.takeWhile isBare
    if bare = [] then none else some (String.ofList bare, text.dropWhile isBare)

/-- The parts of a key behind the first one, if there is room for them, and the blanks after them. -/
def keyParts : Nat → Parser (List String)
  | room, text =>
    match skipBlanks text with
    | '.' :: rest => do
      let (part, rest) ← required (keyPart (skipBlanks rest))
      match room with
      | 0 => .error .tooManyParts
      | room + 1 =>
        let (parts, rest) ← keyParts room rest
        pure (part :: parts, rest)
    | text => .ok ([], text)

/-- A key: its parts from the outside in. -/
def key : Parser (List String) := fun text => do
  let (part, rest) ← required (keyPart text)
  let (parts, rest) ← keyParts (mostParts - 1) rest
  pure (part :: parts, rest)

/-! ## Numbers -/

/-- Digits, with single underscores between them. -/
def moreDigits (value? : Char → Option Nat) : List Char → List Nat × List Char
  | [] => ([], [])
  | '_' :: digit :: rest =>
    match value? digit with
    | some value =>
      let (values, rest) := moreDigits value? rest
      (value :: values, rest)
    | none => ([], '_' :: digit :: rest)
  | digit :: rest =>
    match value? digit with
    | some value =>
      let (values, rest) := moreDigits value? rest
      (value :: values, rest)
    | none => ([], digit :: rest)

/-- At least one digit. -/
def digits (value? : Char → Option Nat) : Reader (List Nat)
  | [] => none
  | digit :: rest => (value? digit).map fun value =>
    let (values, rest) := moreDigits value? rest
    (value :: values, rest)

/-- The number that digits stand for. -/
def number (base : Nat) (digits : List Nat) : Nat :=
  digits.foldl (fun sum digit => sum * base + digit) 0

/-- The value of a digit below a base of at most ten. -/
def digitBelow (base : Nat) (character : Char) : Option Nat :=
  (Text.DecimalDigit.ascii? character).filter (· < base)

/-- A whole number behind the mark of its base. -/
def based : Reader Int
  | '0' :: 'x' :: rest =>
    (digits Text.Hex.value? rest).map fun (values, rest) => ((number 16 values : Nat), rest)
  | '0' :: 'b' :: rest =>
    (digits (digitBelow 2) rest).map fun (values, rest) => ((number 2 values : Nat), rest)
  | '0' :: 'o' :: rest =>
    (digits (digitBelow 8) rest).map fun (values, rest) => ((number 8 values : Nat), rest)
  | _ => none

/-- A sign, if there is one: whether it is a minus. -/
def sign : List Char → Bool × List Char
  | '-' :: rest => (true, rest)
  | '+' :: rest => (false, rest)
  | text => (false, text)

/-- The digits before the point: a zero alone, or digits that do not begin with one. -/
def leadingDigits : Reader (List Nat)
  | '0' :: rest => some ([0], rest)
  | text => digits (digitBelow 10) text

/-- The digits behind a point, if there are any. -/
def fraction (text : List Char) : Option (List Nat × List Char) :=
  match text with
  | '.' :: rest => digits (digitBelow 10) rest
  | _ => none

/-- The exponent, if there is one. -/
def exponent (text : List Char) : Option (Int × List Char) :=
  match text with
  | mark :: rest =>
    if mark = 'e' || mark = 'E' then
      let (negative, rest) := sign rest
      (digits (digitBelow 10) rest).map fun (values, rest) =>
        (if negative then -(number 10 values : Nat) else (number 10 values : Nat), rest)
    else none
  | [] => none

/-- A whole number of decimal digits, unless there are too many of them. -/
def wholeOf (negative : Bool) (digits : List Nat) : Except Flaw Datum :=
  if Text.WholeNumber.mostDigits < digits.length then .error (.tooManyDigits digits.length)
  else .ok (.whole (if negative then -(number 10 digits : Nat) else (number 10 digits : Nat)))

/-- A decimal number, whole or with a fraction or an exponent. -/
def decimal : Reader (Except Flaw Datum) := fun text => do
  let (negative, rest) := sign text
  let (whole, rest) ← leadingDigits rest
  let (part, rest, hasPart) := match fraction rest with
    | some (values, rest) => (values, rest, true)
    | none => ([], rest, false)
  let (power, rest, hasPower) := match exponent rest with
    | some (power, rest) => (power, rest, true)
    | none => (0, rest, false)
  if hasPart || hasPower then
    let digits := number 10 (whole ++ part)
    pure (.ok (.real (Decimal.nearestDecimal negative digits (power - part.length))), rest)
  else pure (wholeOf negative whole, rest)

/-- Infinities and values that are no number. -/
def special : Reader Datum := fun text =>
  let (negative, rest) := sign text
  match expect "inf".toList rest with
  | some rest => some (.real (Decimal.nearest negative (Nat.pow 2 2000) 1), rest)
  | none => (expect "nan".toList rest).map (.real (0.0 / 0.0), ·)

/-- A number. -/
def anyNumber : Parser Datum := fun text =>
  match based text, decimal text with
  | some (value, rest), _ => .ok (.whole value, rest)
  | none, some (datum, rest) => datum.map (·, rest)
  | none, none => required (special text)

/-! ## Moments -/

/-- A number of exactly so many digits within a range. -/
def fixedNumber (width low high : Nat) : Reader Nat := fun text => do
  let values ← (text.take width).mapM (digitBelow 10)
  guard (values.length = width)
  let value := number 10 values
  guard (low ≤ value ∧ value ≤ high)
  pure (value, text.drop width)

/-- A given character. -/
def mark (character : Char) (text : List Char) : Option (List Char) := expect [character] text

/-- Seconds behind a colon, with a fraction of them. -/
def seconds (text : List Char) : Option (List Char) := do
  let (_, rest) ← fixedNumber 2 0 59 (← mark ':' text)
  match rest with
  | '.' :: digit :: more =>
    if digit.isDigit then pure (more.dropWhile Char.isDigit) else pure rest
  | _ => pure rest

/-- A time of day, to the minute or finer: what follows it. -/
def timeOfDay (text : List Char) : Option (List Char) := do
  let (_, rest) ← fixedNumber 2 0 23 text
  let (_, rest) ← fixedNumber 2 0 59 (← mark ':' rest)
  pure ((seconds rest).getD rest)

/-- The distance from universal time, if it is given: what follows it. -/
def offset (text : List Char) : List Char :=
  match text with
  | 'Z' :: rest | 'z' :: rest => rest
  | '+' :: rest | '-' :: rest =>
    let behind := do
      let (_, rest) ← fixedNumber 2 0 23 rest
      let (_, rest) ← fixedNumber 2 0 59 (← mark ':' rest)
      pure rest
    behind.getD text
  | _ => text

/-- The number of days of a month. -/
def daysOf (year month : Nat) : Nat :=
  if month = 2 then
    if year % 4 = 0 ∧ (year % 100 ≠ 0 ∨ year % 400 = 0) then 29 else 28
  else if month = 4 ∨ month = 6 ∨ month = 9 ∨ month = 11 then 30 else 31

/-- A date and what follows it; the flag tells whether the calendar has it. -/
def date (text : List Char) : Option (Bool × List Char) := do
  let (year, rest) ← fixedNumber 4 0 9999 text
  let (month, rest) ← fixedNumber 2 1 12 (← mark '-' rest)
  let (day, rest) ← fixedNumber 2 1 31 (← mark '-' rest)
  pure (0 < year && day ≤ daysOf year month, rest)

/-- The time behind a date, if there is one: what follows it. -/
def timeBehindDate (text : List Char) : List Char :=
  match text with
  | separator :: rest =>
    if separator = 'T' || separator = 't' || separator = ' ' then
      match timeOfDay rest with
      | some rest => offset rest
      | none => text
    else text
  | [] => []

/-- A moment. The outer option tells whether the text begins with one, the inner one gives what
follows it, unless the calendar does not have the date. -/
def moment (text : List Char) : Option (Option (List Char)) :=
  match date text with
  | some (true, rest) => some (some (timeBehindDate rest))
  | some (false, _) => some none
  | none => (timeOfDay text).map some

end ThreadHost.Toml
