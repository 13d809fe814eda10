import ThreadHost.Decimal.Binary
/-!
# Square roots

The whole square root of a number, and the double nearest to the square root of a quotient.
-/

namespace ThreadHost.Statistics

/-- The greatest number whose square is not above the given one. -/
def squareRoot (number : Nat) : Nat :=
  if number = 0 then 0
  else
    let half := 2 * squareRoot (number / 4)
    if (half + 1) * (half + 1) ≤ number then half + 1 else half
termination_by number
decreasing_by omega

/-- How often a quotient is multiplied by four so that its whole square root has more bits than
any double keeps. -/
def rootScale (numerator denominator : Nat) : Nat :=
  (denominator.log2 + 130 - numerator.log2) / 2

/-- The double nearest to the square root of a quotient. The whole root of the scaled quotient is
doubled, and one is added when something is left: that lies on the same side of every midpoint
between two doubles as the root itself. -/
def nearestRoot (numerator denominator : Nat) : Float :=
  let scale := rootScale numerator denominator
  let scaled := numerator * Nat.pow 4 scale
  let root := squareRoot (scaled / denominator)
  let rest := if root * root * denominator = scaled then 0 else 1
  Decimal.nearest false (2 * root + rest) (Nat.pow 2 (scale + 1))

end ThreadHost.Statistics
