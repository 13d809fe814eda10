import ThreadHost.Decimal.Binary
/-!
# Shortest decimal text

The fewest digits that read back as a given double, and of those the nearest to it. A double
stands for the interval of reals that round to it; the search tries the two neighbours of the
value on the grid of one digit, two digits, and so on.
-/

namespace ThreadHost.Decimal

/-- The number `digits * 10 ^ exponent`. -/
structure Scaled where
  digits : Nat
  exponent : Int
  deriving Repr, DecidableEq

namespace Shortest

/-- Compare `digits * 10 ^ exponent` with `significand * 2 ^ power`, exactly. -/
def compareScaled (number : Scaled) (significand : Nat) (power : Int) : Ordering :=
  compare (number.digits * Nat.pow 10 number.exponent.toNat * Nat.pow 2 (-power).toNat)
    (significand * Nat.pow 2 power.toNat * Nat.pow 10 (-number.exponent).toNat)

/-- Whether a decimal lies in the interval that rounds to `significand * 2 ^ exponent`. The ends
are halfway to the neighbours and belong to it when the significand is even. -/
def readsBack (significand : Nat) (exponent : Int) (narrowBelow : Bool) (number : Scaled) : Bool :=
  let low := if narrowBelow then 4 * significand - 1 else 4 * significand - 2
  let high := 4 * significand + 2
  let closed := significand % 2 = 0
  let below := compareScaled number low (exponent - 2)
  let above := compareScaled number high (exponent - 2)
  (below = .gt || (closed && below = .eq)) && (above = .lt || (closed && above = .eq))

/-- How many zeros follow the point of a quotient below one. -/
def leadingZeros (denominator : Nat) : Nat → Nat → Nat
  | 0, _ => 0
  | bound + 1, numerator =>
    if numerator * 10 < denominator then leadingZeros denominator bound (numerator * 10) + 1 else 0

/-- The least `k` with `numerator / denominator < 10 ^ k`, for a positive double. -/
def scale (numerator denominator : Nat) : Int :=
  if denominator ≤ numerator then (Nat.toDigits 10 (numerator / denominator)).length
  else -leadingZeros denominator 400 numerator

/-- The best candidate with a given last place, if one reads back. -/
def candidate? (significand : Nat) (exponent : Int) (narrowBelow : Bool) (place : Int) :
    Option Scaled :=
  let (numerator, denominator) := ratio significand exponent
  let numerator := numerator * Nat.pow 10 (-place).toNat
  let denominator := denominator * Nat.pow 10 place.toNat
  let low := numerator / denominator
  let lowHit := readsBack significand exponent narrowBelow ⟨low, place⟩
  let highHit := readsBack significand exponent narrowBelow ⟨low + 1, place⟩
  match lowHit, highHit with
  | false, false => none
  | true, false => some ⟨low, place⟩
  | false, true => some ⟨low + 1, place⟩
  | true, true => some ⟨roundQuotient numerator denominator, place⟩

/-- Move trailing zeros of the digits into the exponent. -/
def stripZeros : Nat → Scaled → Scaled
  | 0, number => number
  | bound + 1, ⟨digits, exponent⟩ =>
    if digits % 10 = 0 then stripZeros bound ⟨digits / 10, exponent + 1⟩ else ⟨digits, exponent⟩

/-- The exact decimal value of a double; it reads back however many digits it has. -/
def exactDecimal (significand : Nat) (exponent : Int) : Scaled :=
  ⟨significand * Nat.pow 2 exponent.toNat * Nat.pow 5 (-exponent).toNat, min exponent 0⟩

/-- The shortest decimal that reads back as a positive finite double. -/
def select (significand : Nat) (exponent : Int) (narrowBelow : Bool) : Scaled :=
  let top := scale (ratio significand exponent).1 (ratio significand exponent).2
  let found := (List.range 17).findSome? fun count =>
    candidate? significand exponent narrowBelow (top - (count + 1 : Nat))
  stripZeros 20 (found.getD (exactDecimal significand exponent))

end Shortest

/-- How digits are laid out as text. -/
structure Layout where
  /-- The least and the first too large exponent of the leading digit that is written without an
  exponent. -/
  positionalFrom : Int
  positionalBelow : Int
  /-- The least number of digits of an exponent. -/
  exponentWidth : Nat
  notANumber : String
  infinity : String

namespace Layout

/-- Digits with a point behind the leading one, if more follow. -/
def pointed : List Char → List Char
  | [] => []
  | [only] => [only]
  | lead :: rest => lead :: '.' :: rest

/-- A signed exponent. -/
def exponentText (layout : Layout) (exponent : Int) : List Char :=
  let digits := Nat.toDigits 10 exponent.natAbs
  (if exponent < 0 then '-' else '+') ::
    (List.replicate (layout.exponentWidth - digits.length) '0' ++ digits)

/-- Lay out a positive decimal; a whole number keeps one zero behind the point. -/
def layOut (layout : Layout) (number : Scaled) : List Char :=
  let digits := Nat.toDigits 10 number.digits
  let lead := number.exponent + digits.length - 1
  if layout.positionalFrom ≤ lead ∧ lead < layout.positionalBelow then
    if 0 ≤ number.exponent then digits ++ List.replicate number.exponent.toNat '0' ++ ['.', '0']
    else if 0 ≤ lead then digits.take (lead.toNat + 1) ++ '.' :: digits.drop (lead.toNat + 1)
    else '0' :: '.' :: (List.replicate ((-lead).toNat - 1) '0' ++ digits)
  else pointed digits ++ 'e' :: layout.exponentText lead

/-- The text of a double. -/
def write (layout : Layout) (value : Float) : String :=
  let signed := fun (negative : Bool) (text : List Char) =>
    String.ofList (if negative then '-' :: text else text)
  match Binary.ofFloat value with
  | .notANumber => layout.notANumber
  | .infinite negative => signed negative layout.infinity.toList
  | .finite negative significand exponent narrowBelow =>
    if significand = 0 then signed negative "0.0".toList
    else signed negative (layout.layOut (Shortest.select significand exponent narrowBelow))

end Layout

/-- Seconds, timeouts and settings: positional from `0.0001` to below `10 ^ 16`, otherwise with a
signed exponent of at least two digits. -/
def plain : Layout where
  positionalFrom := -4
  positionalBelow := 16
  exponentWidth := 2
  notANumber := "nan"
  infinity := "inf"

/-- The text of a double in messages, reports and settings files. -/
def text (value : Float) : String := plain.write value

end ThreadHost.Decimal
