import ThreadHost.Text.WholeNumber
/-!
# What is wrong with a TOML text

A text that does not follow the grammar is malformed. A text that does may still be refused: for a
whole number with too many digits, for values nested too deep, and for a key with too many parts.
What comes first in the text counts.
-/

namespace ThreadHost.Toml

/-- Why a text is not read as TOML. -/
inductive Flaw where
  | malformed
  /-- A decimal whole number of so many digits. -/
  | tooManyDigits (count : Nat)
  | tooDeep
  | tooManyParts
  deriving Repr, DecidableEq

/-- The most levels of arrays and inline tables around a value. -/
def mostLevels : Nat := 400

/-- The most parts of a key. -/
def mostParts : Nat := 1000

/-- The wording of a flaw; a malformed text is not told more about. -/
def Flaw.message? : Flaw → Option String
  | .malformed => none
  | .tooManyDigits count =>
    some (s!"Exceeds the limit ({Text.WholeNumber.mostDigits} digits) for integer string conversion: " ++
      s!"value has {count} digits; use sys.set_int_max_str_digits() to increase the limit")
  | .tooDeep =>
    some s!"TOML inline arrays/tables are nested more than the allowed {mostLevels} levels"
  | .tooManyParts => some s!"TOML key has more than the allowed {mostParts} parts"

/-- A reader of one piece of text: it takes what is left of the text and gives a value with what is
left after it, or nothing where there is no such piece. -/
abbrev Reader (α : Type) := List Char → Option (α × List Char)

/-- A reader of a piece of text that must be there. -/
abbrev Parser (α : Type) := List Char → Except Flaw (α × List Char)

/-- What must be there, or else the text is malformed. -/
def required {α : Type} : Option α → Except Flaw α
  | some value => .ok value
  | none => .error .malformed

end ThreadHost.Toml
