import Mathlib.Algebra.Order.Field.Basic
import Mathlib.Algebra.Order.Field.Power
import Mathlib.Tactic.FieldSimp
import Mathlib.Tactic.Linarith
import Mathlib.Tactic.Ring
import ThreadHost.Decimal.Shortest
/-!
# What rounds to a double

A number rounds to a finite double when it is at most half a gap away from it. The gap below a power
of two is half the gap above it, so that a number close below one is rounded on a finer grid first
and carried over.
-/

namespace ThreadHost.Decimal

/-- A quotient rounds to a number that it is not further from than a half, and of which it is less
than a half away if that number is odd. -/
theorem roundQuotient_eq {numerator denominator number : Nat}
    (low : 2 * (number * denominator) ≤ 2 * numerator + denominator)
    (high : 2 * numerator ≤ 2 * (number * denominator) + denominator)
    (odd : number % 2 = 1 → 2 * (number * denominator) < 2 * numerator + denominator ∧
      2 * numerator < 2 * (number * denominator) + denominator) (positive : 0 < denominator) :
    roundQuotient numerator denominator = number := by
  have split := Nat.div_add_mod numerator denominator
  have small := Nat.mod_lt numerator positive
  have near : number = numerator / denominator ∨ number = numerator / denominator + 1 := by
    have above : ¬numerator / denominator + 2 ≤ number := fun far => by
      have scaled := Nat.mul_le_mul_right denominator far
      rw [Nat.add_mul, Nat.mul_comm (numerator / denominator)] at scaled
      omega
    have below : ¬number + 1 ≤ numerator / denominator := fun far => by
      have scaled := Nat.mul_le_mul_right denominator far
      rw [Nat.add_mul, Nat.mul_comm (numerator / denominator)] at scaled
      omega
    omega
  have product : numerator / denominator * denominator = denominator * (numerator / denominator) :=
    Nat.mul_comm ..
  unfold roundQuotient
  simp only
  rcases near with rfl | rfl
  · split
    · rfl
    · split
      · omega
      · split <;> omega
  · rw [Nat.add_mul, Nat.one_mul] at low high odd
    split
    · omega
    · split
      · rfl
      · split <;> omega

/-- A power with a whole exponent, as a quotient. -/
theorem zpow_eq_div {base : Nat} (positive : 0 < base) (exponent : Int) :
    (base : ℚ) ^ exponent =
      (Nat.pow base exponent.toNat : Nat) / (Nat.pow base (-exponent).toNat : Nat) := by
  have nonzero : (base : ℚ) ≠ 0 := by exact_mod_cast positive.ne'
  have apart : exponent = (exponent.toNat : Int) - (-exponent).toNat := by omega
  conv_lhs => rw [apart]
  rw [zpow_sub₀ nonzero, zpow_natCast, zpow_natCast]
  simp only [Nat.pow_eq, Nat.cast_pow]

theorem pow_cast_pos {base : Nat} (positive : 0 < base) (power : Nat) :
    (0 : ℚ) < (Nat.pow base power : Nat) := by
  exact_mod_cast Nat.pow_pos positive

/-- A scaled quotient. -/
theorem scaled_div (numerator denominator : Nat) (exponent : Int) :
    ((numerator * Nat.pow 2 (-exponent).toNat : Nat) : ℚ) /
      (denominator * Nat.pow 2 exponent.toNat : Nat) =
        numerator / denominator / 2 ^ exponent := by
  have power := @zpow_eq_div 2 (by decide) exponent
  rw [Nat.cast_ofNat] at power
  rw [power, Nat.cast_mul, Nat.cast_mul]
  have up := (@pow_cast_pos 2 (by decide) exponent.toNat).ne'
  have down := (@pow_cast_pos 2 (by decide) (-exponent).toNat).ne'
  field_simp

/-- A number lies between the powers of two of its leading bit. -/
theorem log2_bounds {number : Nat} (positive : 0 < number) :
    (2 : ℚ) ^ (number.log2 : Int) ≤ number ∧ (number : ℚ) < 2 ^ (number.log2 + 1 : Int) := by
  obtain ⟨lower, upper⟩ :=
    (Nat.log2_eq_iff (Nat.pos_iff_ne_zero.1 positive)).1 (Eq.refl number.log2)
  exact ⟨by exact_mod_cast lower, by exact_mod_cast upper⟩

/-- The leading bits of its parts tell the leading bit of a quotient, up to one. -/
theorem div_log2_bounds {numerator denominator : Nat} (positive : 0 < numerator)
    (nonzero : 0 < denominator) :
    (2 : ℚ) ^ (numerator.log2 - denominator.log2 - 1 : Int) ≤ numerator / denominator ∧
      (numerator / denominator : ℚ) < 2 ^ (numerator.log2 - denominator.log2 + 1 : Int) := by
  obtain ⟨lower, upper⟩ := log2_bounds positive
  obtain ⟨lowerBelow, upperBelow⟩ := log2_bounds nonzero
  have some : (0 : ℚ) < denominator := by exact_mod_cast nonzero
  generalize (numerator.log2 : Int) = above at *
  generalize (denominator.log2 : Int) = below at *
  constructor
  · rw [le_div_iff₀ some]
    calc (2 : ℚ) ^ (above - below - 1) * denominator
        ≤ 2 ^ (above - below - 1) * 2 ^ (below + 1) := by gcongr
      _ = 2 ^ above := by
        rw [← zpow_add₀ two_ne_zero]
        congr 1
        ring
      _ ≤ numerator := lower
  · rw [div_lt_iff₀ some]
    calc (numerator : ℚ) < 2 ^ (above + 1) := upper
      _ = 2 ^ (above - below + 1) * 2 ^ below := by
        rw [← zpow_add₀ two_ne_zero]
        congr 1
        ring
      _ ≤ 2 ^ (above - below + 1) * denominator := by gcongr

/-- The exponent of the leading bit of a quotient, and the place at which it is rounded. -/
theorem lastPlace_spec {numerator denominator : Nat} (positive : 0 < numerator)
    (nonzero : 0 < denominator) :
    ∃ top : Int, lastPlace numerator denominator = max (top - 52) (-1074) ∧
      (2 : ℚ) ^ top ≤ numerator / denominator ∧ (numerator / denominator : ℚ) < 2 ^ (top + 1) := by
  obtain ⟨least, most⟩ := div_log2_bounds positive nonzero
  have scaled := scaled_div numerator denominator (numerator.log2 - denominator.log2 : Int)
  unfold lastPlace
  simp only
  generalize (numerator.log2 - denominator.log2 : Int) = guess at *
  have power : (0 : ℚ) < 2 ^ guess := by positivity
  have some : (0 : ℚ) < (denominator * Nat.pow 2 guess.toNat : Nat) := by
    exact_mod_cast Nat.mul_pos nonzero (Nat.pow_pos (by decide))
  split
  · rename_i smaller
    refine ⟨guess - 1, rfl, least, ?_⟩
    have less : (numerator / denominator : ℚ) / 2 ^ guess < 1 := by
      rw [← scaled, div_lt_one some]
      exact_mod_cast smaller
    rw [div_lt_one power] at less
    rwa [sub_add_cancel]
  · rename_i notSmaller
    refine ⟨guess, rfl, ?_, most⟩
    have enough : 1 ≤ (numerator / denominator : ℚ) / 2 ^ guess := by
      rw [← scaled, one_le_div some]
      exact_mod_cast not_lt.1 notSmaller
    rwa [one_le_div power] at enough

/-- What rounds to the double with this significand and exponent: no more than half a gap away on
either side, and no further than that to an odd significand. -/
structure Near (significand : Nat) (exponent : Int) (narrowBelow : Bool) (number : ℚ) : Prop where
  low : (significand - if narrowBelow then 1 / 4 else 1 / 2) * 2 ^ exponent ≤ number
  high : number ≤ (significand + 1 / 2) * 2 ^ exponent
  odd : significand % 2 = 1 →
    (significand - if narrowBelow then 1 / 4 else 1 / 2) * 2 ^ exponent < number ∧
      number < (significand + 1 / 2) * 2 ^ exponent

/-- The parts that a finite double above zero has. -/
structure Canonical (significand : Nat) (exponent : Int) (narrowBelow : Bool) : Prop where
  positive : 0 < significand
  short : significand < 2 ^ 53
  least : -1074 ≤ exponent
  normal : significand < 2 ^ 52 → exponent = -1074
  narrow : significand = 2 ^ 52 → -1074 < exponent → narrowBelow = true

variable {significand numerator denominator : Nat} {exponent : Int} {narrowBelow : Bool}

/-- A quotient rounds at a place to the number that it is near to there. -/
theorem roundQuotient_scaled {number : Nat} {place : Int} (nonzero : 0 < denominator)
    (low : (number - 1 / 2) * 2 ^ place ≤ (numerator / denominator : ℚ))
    (high : (numerator / denominator : ℚ) ≤ (number + 1 / 2) * 2 ^ place)
    (odd : number % 2 = 1 → (number - 1 / 2) * 2 ^ place < (numerator / denominator : ℚ) ∧
      (numerator / denominator : ℚ) < (number + 1 / 2) * 2 ^ place) :
    roundQuotient (numerator * Nat.pow 2 (-place).toNat) (denominator * Nat.pow 2 place.toNat) =
      number := by
  have power : (0 : ℚ) < 2 ^ place := by positivity
  have positive : 0 < denominator * Nat.pow 2 place.toNat :=
    Nat.mul_pos nonzero (Nat.pow_pos (by decide))
  have scaled := scaled_div numerator denominator place
  generalize numerator * Nat.pow 2 (-place).toNat = above at scaled ⊢
  generalize denominator * Nat.pow 2 place.toNat = below at scaled positive ⊢
  have some : (0 : ℚ) < below := by exact_mod_cast positive
  rw [div_eq_iff some.ne'] at scaled
  rw [← le_div_iff₀ power] at low
  rw [← div_le_iff₀ power] at high
  rw [← lt_div_iff₀ power, ← div_lt_iff₀ power] at odd
  generalize (numerator / denominator : ℚ) / 2 ^ place = ratio at low high odd scaled
  refine roundQuotient_eq ?_ ?_ (fun isOdd => ⟨?_, ?_⟩) positive
  · have least := mul_le_mul_of_nonneg_right low some.le
    have cast : (2 * (number * below) : ℚ) ≤ 2 * above + below := by linarith
    exact_mod_cast cast
  · have most := mul_le_mul_of_nonneg_right high some.le
    have cast : (2 * above : ℚ) ≤ 2 * (number * below) + below := by linarith
    exact_mod_cast cast
  · have least := mul_lt_mul_of_pos_right (odd isOdd).1 some
    have cast : (2 * (number * below) : ℚ) < 2 * above + below := by linarith
    exact_mod_cast cast
  · have most := mul_lt_mul_of_pos_right (odd isOdd).2 some
    have cast : (2 * above : ℚ) < 2 * (number * below) + below := by linarith
    exact_mod_cast cast

/-- A power of two times another. -/
theorem two_zpow_mul (power : Nat) (exponent : Int) :
    (2 : ℚ) ^ power * 2 ^ exponent = 2 ^ (exponent + power) := by
  rw [add_comm, zpow_add₀ two_ne_zero, zpow_natCast]

/-- What is near to a double is at most half a gap below it. -/
theorem Near.half_below {number : ℚ} (near : Near significand exponent narrowBelow number) :
    ((significand : ℚ) - 1 / 2) * 2 ^ exponent ≤ number ∧
      (significand % 2 = 1 → ((significand : ℚ) - 1 / 2) * 2 ^ exponent < number) := by
  have power : (0 : ℚ) < 2 ^ exponent := by positivity
  have gap : ((significand : ℚ) - 1 / 2) * 2 ^ exponent ≤
      (significand - if narrowBelow then 1 / 4 else 1 / 2) * 2 ^ exponent := by
    refine mul_le_mul_of_nonneg_right ?_ power.le
    split <;> linarith
  exact ⟨gap.trans near.low, fun isOdd => gap.trans_lt (near.odd isOdd).1⟩

/-- What is near to a double has no leading bit above the 53 bits of it. -/
theorem Near.top_le (parts : Canonical significand exponent narrowBelow) {number : ℚ}
    (near : Near significand exponent narrowBelow number) {top : Int}
    (low : (2 : ℚ) ^ top ≤ number) : top ≤ exponent + 52 := by
  have power : (0 : ℚ) < 2 ^ exponent := by positivity
  have short : (significand : ℚ) + 1 ≤ 2 ^ 53 := by exact_mod_cast parts.short
  by_contra above
  have large : (2 : ℚ) ^ 53 * 2 ^ exponent ≤ number := by
    rw [two_zpow_mul]
    exact (zpow_le_zpow_right₀ (by norm_num) (by push_cast; omega)).trans low
  have small := large.trans near.high
  rw [mul_le_mul_iff_left₀ power] at small
  linarith

/-- What is near to a double is rounded at the place of its last bit, or at the one below it where
the double is a power of two and the gap below is narrow. -/
theorem Near.place (parts : Canonical significand exponent narrowBelow) {number : ℚ}
    (near : Near significand exponent narrowBelow number) {top : Int} (low : (2 : ℚ) ^ top ≤ number)
    (high : number < 2 ^ (top + 1)) :
    max (top - 52) (-1074) = exponent ∨ max (top - 52) (-1074) = exponent - 1 ∧
      significand = 2 ^ 52 ∧ narrowBelow = true ∧ number < 2 ^ 53 * 2 ^ (exponent - 1) := by
  have least := parts.least
  have power : (0 : ℚ) < 2 ^ exponent := by positivity
  have lowest := near.half_below.1
  have notAbove := near.top_le parts low
  rcases (show max (top - 52) (-1074) ≤ exponent by omega).eq_or_lt with same | lower
  · exact .inl same
  · -- Only the narrow gap below a power of two lies below the place of the last bit.
    right
    have bounded : number < 2 ^ 52 * 2 ^ exponent := by
      rw [two_zpow_mul]
      exact high.trans_le (zpow_le_zpow_right₀ (by norm_num) (by push_cast; omega))
    have normal : 2 ^ 52 ≤ significand := by
      by_contra short
      have := parts.normal (not_le.1 short)
      omega
    have atMost : significand < 2 ^ 52 + 1 := by
      have less := lowest.trans_lt bounded
      rw [mul_lt_mul_iff_left₀ power] at less
      have cast : (significand : ℚ) < 2 ^ 52 + 1 := by linarith
      exact_mod_cast cast
    have leading : significand = 2 ^ 52 := by omega
    have narrow := parts.narrow leading (by omega)
    have notBelow : exponent + 51 ≤ top := by
      by_contra below
      have small : number < 2 ^ 51 * 2 ^ exponent := by
        rw [two_zpow_mul]
        exact high.trans_le (zpow_le_zpow_right₀ (by norm_num) (by push_cast; omega))
      have large := near.low.trans_lt small
      rw [mul_lt_mul_iff_left₀ power, leading, narrow] at large
      norm_num at large
    refine ⟨by omega, leading, narrow, ?_⟩
    rw [two_zpow_mul] at bounded ⊢
    convert bounded using 2
    push_cast
    ring

/-- What is near to a double above zero is above zero, and not much. -/
theorem Near.pos (parts : Canonical significand exponent narrowBelow) {number : ℚ}
    (near : Near significand exponent narrowBelow number) : 2 ^ (exponent - 1) ≤ number := by
  have power : (0 : ℚ) < 2 ^ exponent := by positivity
  have above : (1 : ℚ) ≤ significand := by exact_mod_cast parts.positive
  calc (2 : ℚ) ^ (exponent - 1) = 1 / 2 * 2 ^ exponent := by
        rw [zpow_sub_one₀ two_ne_zero]
        ring
    _ ≤ (significand - 1 / 2) * 2 ^ exponent := by
        refine mul_le_mul_of_nonneg_right ?_ power.le
        linarith
    _ ≤ number := near.half_below.1

/-- What is near to a double is not far above it. -/
theorem Near.le (parts : Canonical significand exponent narrowBelow) {number : ℚ}
    (near : Near significand exponent narrowBelow number) : number ≤ 2 ^ (exponent + 53) := by
  have power : (0 : ℚ) < 2 ^ exponent := by positivity
  have short : (significand : ℚ) + 1 ≤ 2 ^ 53 := by exact_mod_cast parts.short
  calc number ≤ (significand + 1 / 2) * 2 ^ exponent := near.high
    _ ≤ 2 ^ 53 * 2 ^ exponent := by
        refine mul_le_mul_of_nonneg_right ?_ power.le
        linarith
    _ = 2 ^ (exponent + 53) := two_zpow_mul 53 exponent

/-- A quotient that is near to a finite double has its bits. -/
theorem nearestBits_eq (parts : Canonical significand exponent narrowBelow)
    (nonzero : 0 < denominator)
    (near : Near significand exponent narrowBelow (numerator / denominator))
    (finite : (exponent + 1074).toNat * 2 ^ 52 + significand ≤ 2047 * 2 ^ 52) :
    nearestBits numerator denominator = (exponent + 1074).toNat * 2 ^ 52 + significand := by
  have least := parts.least
  obtain ⟨lowest, lower⟩ := near.half_below
  have positive : 0 < numerator := by
    rcases Nat.eq_zero_or_pos numerator with rfl | positive
    · have above := near.pos parts
      have power : (0 : ℚ) < 2 ^ (exponent - 1) := by positivity
      simp only [Nat.cast_zero, zero_div] at above
      linarith
    · exact positive
  obtain ⟨top, place, low, high⟩ := lastPlace_spec positive nonzero
  unfold nearestBits
  rw [if_neg (by omega)]
  simp only [place]
  rcases near.place parts low high with same | ⟨below, leading, narrow, bounded⟩
  · have rounds : roundQuotient (numerator * Nat.pow 2 (-exponent).toNat)
        (denominator * Nat.pow 2 exponent.toNat) = significand :=
      roundQuotient_scaled nonzero lowest near.high fun isOdd => ⟨lower isOdd, (near.odd isOdd).2⟩
    rw [same, rounds]
    exact Nat.min_eq_left finite
  · -- The double is a power of two, and the quotient is rounded up to it on the finer grid below.
    have twice : (2 : ℚ) ^ exponent = 2 * 2 ^ (exponent - 1) := by
      rw [← zpow_one_add₀ two_ne_zero, add_sub_cancel]
    have power : (0 : ℚ) < 2 ^ (exponent - 1) := by positivity
    have rounds : roundQuotient (numerator * Nat.pow 2 (-(exponent - 1)).toNat)
        (denominator * Nat.pow 2 (exponent - 1).toNat) = 2 ^ 53 := by
      have nearby := near.low
      rw [leading, narrow, if_pos rfl, twice] at nearby
      push_cast at nearby
      refine roundQuotient_scaled nonzero ?_ ?_ (by norm_num)
      · push_cast
        linarith
      · push_cast
        linarith
    have carried : (exponent - 1 + 1074).toNat * Nat.pow 2 52 + 2 ^ 53 =
        (exponent + 1074).toNat * 2 ^ 52 + significand := by
      rw [leading]
      change _ * 2 ^ 52 + 2 ^ 53 = _
      omega
    rw [below, rounds, carried]
    exact Nat.min_eq_left finite

/-- A decimal number. -/
def Scaled.value (number : Scaled) : ℚ := number.digits * 10 ^ number.exponent

/-- A decimal number as a quotient. -/
theorem Scaled.value_eq_div (number : Scaled) :
    number.value = (number.digits * Nat.pow 10 number.exponent.toNat : Nat) /
      (Nat.pow 10 (-number.exponent).toNat : Nat) := by
  have power := @zpow_eq_div 10 (by decide) number.exponent
  rw [Nat.cast_ofNat] at power
  rw [value, power, Nat.cast_mul, mul_div_assoc]

/-- Powers of ten are beyond the powers of eight. -/
theorem eight_zpow_le {exponent : Int} (nonneg : 0 ≤ exponent) :
    (2 : ℚ) ^ (3 * exponent) ≤ 10 ^ exponent := by
  obtain ⟨power, rfl⟩ := Int.eq_ofNat_of_zero_le nonneg
  rw [zpow_mul, zpow_natCast, zpow_natCast]
  exact pow_le_pow_left₀ (by norm_num) (by norm_num) power

theorem ten_zpow_le {exponent : Int} (negative : exponent < 0) :
    (10 : ℚ) ^ exponent ≤ 2 ^ (3 * exponent) := by
  have inverse := @eight_zpow_le (-exponent) (by omega)
  rw [mul_neg, zpow_neg, zpow_neg, inv_le_inv₀ (by positivity) (by positivity)] at inverse
  exact inverse

/-- The digits and the exponent of a decimal number tell roughly how large it is. -/
theorem Scaled.lt_of_value_lt {number : Scaled} {bound : Int} (positive : 0 < number.digits)
    (nonneg : 0 ≤ number.exponent) (small : number.value < 2 ^ bound) :
    (number.digits.log2 : Int) + 3 * number.exponent < bound := by
  have digits : (2 : ℚ) ^ (number.digits.log2 : Int) ≤ number.digits := (log2_bounds positive).1
  have less : (2 : ℚ) ^ ((number.digits.log2 : Int) + 3 * number.exponent) < 2 ^ bound := by
    rw [zpow_add₀ two_ne_zero]
    exact (mul_le_mul digits (eight_zpow_le nonneg) (by positivity) (by positivity)).trans_lt small
  exact (zpow_lt_zpow_iff_right₀ (by norm_num)).1 less

theorem Scaled.lt_of_le_value {number : Scaled} {bound : Int} (positive : 0 < number.digits)
    (negative : number.exponent < 0) (large : 2 ^ bound ≤ number.value) :
    bound < (number.digits.log2 : Int) + 1 + 3 * number.exponent := by
  have digits : (number.digits : ℚ) < 2 ^ (number.digits.log2 + 1 : Int) := (log2_bounds positive).2
  have less : (2 : ℚ) ^ bound < 2 ^ ((number.digits.log2 : Int) + 1 + 3 * number.exponent) := by
    rw [zpow_add₀ two_ne_zero]
    exact large.trans_lt (mul_lt_mul digits (ten_zpow_le negative) (by positivity) (by positivity))
  exact (zpow_lt_zpow_iff_right₀ (by norm_num)).1 less

/-- A decimal number that is near to a double above zero has digits. -/
theorem Near.digits_pos (parts : Canonical significand exponent narrowBelow) {number : Scaled}
    (near : Near significand exponent narrowBelow number.value) : 0 < number.digits := by
  have low := near.pos parts
  have power : (0 : ℚ) < 2 ^ (exponent - 1) := by positivity
  refine Nat.pos_of_ne_zero fun none => ?_
  simp only [Scaled.value, none, Nat.cast_zero, zero_mul] at low
  linarith

/-- A decimal number that is near to a finite double above zero is read as that double. -/
theorem nearestDecimal_eq (parts : Canonical significand exponent narrowBelow) {number : Scaled}
    (near : Near significand exponent narrowBelow number.value)
    (finite : (exponent + 1074).toNat * 2 ^ 52 + significand ≤ 2047 * 2 ^ 52) :
    nearestDecimal false number.digits number.exponent =
      Float.ofBits (UInt64.ofNat ((exponent + 1074).toNat * 2 ^ 52 + significand)) := by
  have least := parts.least
  have low := near.pos parts
  have high := near.le parts
  have positive := near.digits_pos parts
  have notLarge : ¬(1100 < (number.digits.log2 : Int) + 3 * number.exponent ∧
      0 ≤ number.exponent) := by
    rintro ⟨large, nonneg⟩
    have small : number.value < 2 ^ (1100 : Int) :=
      high.trans_lt (zpow_lt_zpow_right₀ (by norm_num) (by omega))
    have := Scaled.lt_of_value_lt positive nonneg small
    omega
  have notSmall : ¬((number.digits.log2 : Int) + 3 * number.exponent < -1200 ∧
      number.exponent < 0) := by
    rintro ⟨small, negative⟩
    have large : 2 ^ (-1100 : Int) ≤ number.value :=
      (zpow_le_zpow_right₀ (by norm_num) (by omega)).trans low
    have := Scaled.lt_of_le_value positive negative large
    omega
  unfold nearestDecimal
  simp only
  rw [if_neg positive.ne', if_neg notLarge, if_neg notSmall, nearest]
  rw [Scaled.value_eq_div] at near
  have some : 0 < Nat.pow 10 (-number.exponent).toNat := Nat.pow_pos (by decide)
  rw [nearestBits_eq parts some near finite, if_neg (by decide), Nat.zero_add]

end ThreadHost.Decimal
