import ThreadHost.Decimal.Binary
import ThreadHost.Text.Blank
import ThreadHost.Text.DecimalDigit
import ThreadHost.Text.Pieces
/-!
# Numbers given as text

A setting that is a number may be given as text. A plain number is tried first; what is not plain is
cleaned and tried once more. Cleaning a whole number takes away blanks around it, a plus, a fraction
of zeros, zeros and underscores in front, and single underscores within; cleaning any other number
takes away single underscores, and then no blanks may stand around it.
-/

namespace ThreadHost.Config.NumberText

/-- The number that decimal digits stand for. -/
def numberOf (digits : List Char) : Nat :=
  digits.foldl (fun sum digit => sum * 10 + (digit.toNat - '0'.toNat)) 0

/-- A number with a sign. -/
def signed (negative : Bool) (magnitude : Nat) : Int :=
  if negative then -(magnitude : Int) else magnitude

/-- One of the digits `1` to `9`. -/
def isLeading (character : Char) : Bool := character.isDigit && character ≠ '0'

/-- Text without its underscores, if it neither begins nor ends with one and no two stand together. -/
def withoutUnderscores? (text : List Char) : Option (List Char) :=
  if (Text.pieces '_' text).contains [] && text ≠ [] then none else some (text.filter (· ≠ '_'))

/-! ## Whole numbers -/

/-- The most characters that a whole number is read from. -/
def longest : Nat := 4300

/-- What a text is as a whole number. -/
inductive Reading where
  | number (value : Int)
  | tooLong
  | malformed
  deriving Repr, DecidableEq

/-- Read a plain whole number: a minus if it is negative, and a zero alone or digits that do not
begin with one. Whether there are too many digits shows before what follows them. -/
def readPlain (text : List Char) : Reading :=
  let negative := text.head? = some '-'
  let rest := if negative then text.drop 1 else text
  let digits := rest.takeWhile Char.isDigit
  match digits with
  | [] => .malformed
  | '0' :: _ => if rest = ['0'] then .number 0 else .malformed
  | _ =>
    if longest < text.length - rest.length + digits.length then .tooLong
    else if digits.length < rest.length then .malformed
    else .number (signed negative (numberOf digits))

/-- Text without a fraction of zeros. -/
def dropZeroFraction (text : List Char) : List Char :=
  match Text.partition '.' text with
  | (whole, some (zero :: zeros)) => if (zero :: zeros).all (· = '0') then whole else text
  | _ => text

/-- Text without zeros and underscores in front. A zero must be the first of them, and a digit or a
minus must follow; of nothing but zeros and underscores the last character is left. -/
def dropZeros? (text : List Char) : Option (List Char) :=
  let begins := fun (rest : List Char) =>
    rest.head?.any fun character => isLeading character || character = '-'
  if text.head? = some '0' then
    match text.dropWhile fun character => character = '0' || character = '_' with
    | [] => text.getLast?.map ([·])
    | rest => if begins rest then some rest else none
  else if begins text then some text
  else none

/-- Text without a plus in front; a minus must not follow it. -/
def dropPlus? : List Char → Option (List Char)
  | '+' :: '-' :: _ => none
  | '+' :: rest => some rest
  | text => some text

/-- A whole number cleaned of what is not plain. -/
def cleaned? (text : List Char) : Option (List Char) := do
  let text ← dropPlus? (Text.Blank.trimWhile Text.Blank.isSpace text)
  let minus := text.takeWhile (· = '-') |>.take 1
  let digits ← dropZeros? (dropZeroFraction (text.drop minus.length))
  withoutUnderscores? (minus ++ digits)

/-- Read a whole number. Only a plain one is found to be too long. -/
def readWhole (text : List Char) : Reading :=
  match readPlain text with
  | .malformed =>
    match (cleaned? text).map readPlain with
    | some (.number value) => .number value
    | _ => .malformed
  | reading => reading

/-! ## Other numbers -/

/-- A sign, if there is one: whether it is a minus. -/
def signOf : List Char → Bool × List Char
  | '-' :: rest => (true, rest)
  | '+' :: rest => (false, rest)
  | text => (false, text)

/-- Decimal digits, at least one. -/
def digits? (text : List Char) : Option (List Char) :=
  if text ≠ [] && text.all Char.isDigit then some text else none

/-- The digits before and behind the point; one side may be empty. -/
def pointed? (text : List Char) : Option (List Char × List Char) :=
  match Text.partition '.' text with
  | (whole, none) => (digits? whole).map (·, [])
  | ([], some part) => (digits? part).map ([], ·)
  | (whole, some []) => (digits? whole).map (·, [])
  | (whole, some part) => do pure (← digits? whole, ← digits? part)

/-- The power of ten that an exponent stands for, behind its mark. -/
def power? (text : List Char) : Option Int :=
  let (negative, rest) := signOf text
  (digits? rest).map fun digits => signed negative (numberOf digits)

/-- Read a plain number without its sign: decimal with an optional exponent, or the name of a value
that is not finite. -/
def unsigned? (negative : Bool) (text : List Char) : Option Float :=
  let lower := String.ofList (text.map Char.toLower)
  if lower = "inf" ∨ lower = "infinity" then some (Decimal.nearest negative (Nat.pow 2 2000) 1)
  else if lower = "nan" then some (0.0 / 0.0)
  else
    let mantissa := text.takeWhile fun character => character ≠ 'e' && character ≠ 'E'
    do
      let (whole, part) ← pointed? mantissa
      let power ← match text.drop mantissa.length with
        | [] => some 0
        | _ :: rest => power? rest
      pure (Decimal.nearestDecimal negative (numberOf (whole ++ part)) (power - part.length))

/-- Read a plain number. -/
def plainReal? (text : List Char) : Option Float :=
  let (negative, rest) := signOf text
  unsigned? negative rest

/-- Read a number. -/
def readReal? (text : List Char) : Option Float :=
  (plainReal? (Text.Blank.trimWhile Text.Blank.isSpace text)).or
    ((withoutUnderscores? text).bind plainReal?)

end ThreadHost.Config.NumberText
