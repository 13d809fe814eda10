import ThreadHost.Decimal.Shortest
/-!
# Fixed places

A double written with a set number of places. The exact binary value is rounded, and a half goes
to the even neighbour.
-/

namespace ThreadHost.Decimal

/-- The digits of `units / 10 ^ places` with the point in place. -/
def placed (places units : Nat) : List Char :=
  let digits := Nat.toDigits 10 units
  let padded := List.replicate (places + 1 - digits.length) '0' ++ digits
  let whole := padded.length - places
  if places = 0 then padded else padded.take whole ++ '.' :: padded.drop whole

/-- A double with the given number of places. -/
def fixed (places : Nat) (value : Float) : String :=
  let signed := fun (negative : Bool) (text : List Char) =>
    String.ofList (if negative then '-' :: text else text)
  match Binary.ofFloat value with
  | .notANumber => "nan"
  | .infinite negative => signed negative "inf".toList
  | .finite negative significand exponent _ =>
    let (numerator, denominator) := ratio significand exponent
    signed negative (placed places (roundQuotient (numerator * Nat.pow 10 places) denominator))

end ThreadHost.Decimal
