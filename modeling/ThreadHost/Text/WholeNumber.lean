import ThreadHost.Text.Blank
import ThreadHost.Text.DecimalDigit
/-!
# Whole numbers as text

A sign and decimal digits of any script, with single underscores between them and white space
around; a number of too many digits is refused.
-/

namespace ThreadHost.Text.WholeNumber

/-- How many digits a number may have. -/
def mostDigits : Nat := 4300

/-- The digits of a text that begins and ends with one and has at most one underscore between
two. -/
def digits? : List Char → Option (List Nat)
  | [] => none
  | [last] => (DecimalDigit.value? last).map ([·])
  | first :: '_' :: rest => do pure ((← DecimalDigit.value? first) :: (← digits? rest))
  | first :: rest => do pure ((← DecimalDigit.value? first) :: (← digits? rest))

/-- The number of a text without a sign. -/
def magnitude? (characters : List Char) : Option Nat := do
  let digits ← digits? characters
  if mostDigits < digits.length then none
  else pure (digits.foldl (fun sum digit => sum * 10 + digit) 0)

/-- The number of a text. -/
def value? (text : String) : Option Int :=
  match Blank.trimWhile Blank.isSpace text.toList with
  | '-' :: rest => (magnitude? rest).map fun number => -(number : Int)
  | '+' :: rest => (magnitude? rest).map fun number => (number : Int)
  | characters => (magnitude? characters).map fun number => (number : Int)

end ThreadHost.Text.WholeNumber
