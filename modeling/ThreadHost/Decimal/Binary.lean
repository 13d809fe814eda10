/-!
# Binary floating point values, exactly

A finite double is `significand * 2 ^ exponent` with a sign. `Binary.ofFloat` takes a value apart
and `nearest` is the way back from an exact quotient: the double next to it, ties to the even
significand, overflow to infinity.
-/

namespace ThreadHost.Decimal

/-- Which neighbour a quotient rounds to: the nearer one, and of two equally near the even one. -/
def roundQuotient (numerator denominator : Nat) : Nat :=
  let quotient := numerator / denominator
  let rest := numerator % denominator
  if 2 * rest < denominator then quotient
  else if denominator < 2 * rest then quotient + 1
  else if quotient % 2 = 0 then quotient else quotient + 1

/-- A double, taken apart. -/
inductive Binary where
  | notANumber
  | infinite (negative : Bool)
  /-- The value `significand * 2 ^ exponent`; `narrowBelow` holds when the gap to the value below
  is half the gap to the value above. -/
  | finite (negative : Bool) (significand : Nat) (exponent : Int) (narrowBelow : Bool)
  deriving Repr, DecidableEq

namespace Binary

/-- The parts of the double with the given bits. -/
def ofBits (bits : Nat) : Binary :=
  let negative : Bool := bits / Nat.pow 2 63 % 2 = 1
  let power : Nat := bits / Nat.pow 2 52 % Nat.pow 2 11
  let fraction : Nat := bits % Nat.pow 2 52
  if power = 2047 then (if fraction = 0 then .infinite negative else .notANumber)
  else if power = 0 then .finite negative fraction (-1074) false
  else .finite negative (Nat.pow 2 52 + fraction) ((power : Int) - 1075) (fraction = 0 && 1 < power)

/-- The parts of a double. -/
def ofFloat (value : Float) : Binary := ofBits value.toBits.toNat

end Binary

/-- The numerator and denominator of `significand * 2 ^ exponent`. -/
def ratio (significand : Nat) (exponent : Int) : Nat × Nat :=
  (significand * Nat.pow 2 exponent.toNat, Nat.pow 2 (-exponent).toNat)

/-- The exponent at which a positive quotient is rounded: that of the last of its 53 leading
bits, but never below the least one there is. -/
def lastPlace (numerator denominator : Nat) : Int :=
  let guess : Int := numerator.log2 - denominator.log2
  -- The quotient lies between `2 ^ (guess - 1)` and `2 ^ (guess + 1)`.
  let top :=
    if numerator * Nat.pow 2 (-guess).toNat < denominator * Nat.pow 2 guess.toNat then guess - 1
    else guess
  max (top - 52) (-1074)

/-- The bits of the non-negative double nearest to a quotient. -/
def nearestBits (numerator denominator : Nat) : Nat :=
  if numerator = 0 then 0
  else
    let place := lastPlace numerator denominator
    let significand :=
      roundQuotient (numerator * Nat.pow 2 (-place).toNat) (denominator * Nat.pow 2 place.toNat)
    -- A carry to `2 ^ 53` steps into the next power of two, which the sum below takes care of.
    let bits := (place + 1074).toNat * Nat.pow 2 52 + significand
    min bits (2047 * Nat.pow 2 52)

/-- The double nearest to a signed quotient. -/
def nearest (negative : Bool) (numerator denominator : Nat) : Float :=
  let sign := if negative then Nat.pow 2 63 else 0
  Float.ofBits (UInt64.ofNat (sign + nearestBits numerator denominator))

/-- The double nearest to `digits * 10 ^ exponent`. Exponents far outside the range of doubles
are decided without computing the power. -/
def nearestDecimal (negative : Bool) (digits : Nat) (exponent : Int) : Float :=
  let size : Int := digits.log2
  if digits = 0 then nearest negative 0 1
  else if 1100 < size + 3 * exponent ∧ 0 ≤ exponent then nearest negative (Nat.pow 2 2000) 1
  else if size + 3 * exponent < -1200 ∧ exponent < 0 then nearest negative 0 1
  else nearest negative (digits * Nat.pow 10 exponent.toNat) (Nat.pow 10 (-exponent).toNat)

end ThreadHost.Decimal
