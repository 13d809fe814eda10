import ThreadHost.Decimal.Binary
/-!
# Seconds

A number of seconds is given as a whole number or as a double, and reckoned with as a double.
-/

namespace ThreadHost

/-- A number of seconds, as it was given: whole or not. -/
inductive Seconds where
  | whole (count : Int)
  | real (value : Float)
  deriving Repr, DecidableEq

namespace Seconds

/-- The double that a number of seconds is reckoned with. -/
def toFloat : Seconds → Float
  | .whole count => Decimal.nearest (count < 0) count.natAbs 1
  | .real value => value

/-- Whether two numbers of seconds are the same number. -/
def agrees : Seconds → Seconds → Bool
  | .whole left, .whole right => left = right
  | .real left, .real right => left == right
  | .whole count, .real value | .real value, .whole count =>
    match Decimal.Binary.ofFloat value with
    | .finite negative significand exponent _ =>
      let (numerator, denominator) := Decimal.ratio significand exponent
      (if negative then -(numerator : Int) else numerator) = count * denominator
    | _ => false

end Seconds

end ThreadHost
