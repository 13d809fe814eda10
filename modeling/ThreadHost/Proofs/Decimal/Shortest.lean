import ThreadHost.Proofs.Decimal.Binary
import ThreadHost.Proofs.Decimal.Nearest
/-!
# The shortest digits read back

Whatever digits are chosen for a double lie within the interval of numbers that round to it.
-/

namespace ThreadHost.Decimal

namespace Shortest

variable {significand : Nat} {exponent power : Int} {narrowBelow : Bool} {number : Scaled}

/-- A comparison with a scaled power of two is one of the values. -/
theorem compareScaled_iff (number : Scaled) (significand : Nat) (power : Int) :
    (compareScaled number significand power = .lt ↔ number.value < significand * 2 ^ power) ∧
    (compareScaled number significand power = .eq ↔ number.value = significand * 2 ^ power) ∧
    (compareScaled number significand power = .gt ↔ significand * 2 ^ power < number.value) := by
  have scaled := @zpow_eq_div 2 (by decide) power
  rw [Nat.cast_ofNat] at scaled
  have ten := @pow_cast_pos 10 (by decide) (-number.exponent).toNat
  have two := @pow_cast_pos 2 (by decide) (-power).toNat
  rw [Scaled.value_eq_div, scaled, ← mul_div_assoc, div_lt_div_iff₀ ten two,
    div_eq_div_iff ten.ne' two.ne', div_lt_div_iff₀ two ten]
  unfold compareScaled
  rw [Nat.compare_eq_lt, Nat.compare_eq_eq, Nat.compare_eq_gt]
  exact ⟨by norm_cast, by norm_cast, by norm_cast⟩

/-- The ends of what reads back are those of what is near. -/
theorem near_of_readsBack (positive : 0 < significand)
    (reads : readsBack significand exponent narrowBelow number = true) :
    Near significand exponent narrowBelow number.value := by
  have quarter : (2 : ℚ) ^ exponent = 4 * 2 ^ (exponent - 2) := by
    rw [zpow_sub₀ two_ne_zero]
    ring
  have low : ((if narrowBelow then 4 * significand - 1 else 4 * significand - 2 : Nat) : ℚ) *
      2 ^ (exponent - 2) =
        (significand - if narrowBelow then 1 / 4 else 1 / 2) * 2 ^ exponent := by
    rw [quarter]
    split
    · rw [Nat.cast_sub (by omega)]
      push_cast
      ring
    · rw [Nat.cast_sub (by omega)]
      push_cast
      ring
  have high : ((4 * significand + 2 : Nat) : ℚ) * 2 ^ (exponent - 2) =
      (significand + 1 / 2) * 2 ^ exponent := by
    rw [quarter]
    push_cast
    ring
  simp only [readsBack, Bool.and_eq_true, Bool.or_eq_true, decide_eq_true_eq,
    (compareScaled_iff number _ _).1, (compareScaled_iff number _ _).2.1,
    (compareScaled_iff number _ _).2.2, low, high] at reads
  obtain ⟨above, below⟩ := reads
  exact {
    low := above.elim le_of_lt fun closed => closed.2.ge
    high := below.elim le_of_lt fun closed => closed.2.le
    odd := fun isOdd => ⟨above.resolve_right (by omega), below.resolve_right (by omega)⟩ }

/-- A candidate reads back. -/
theorem readsBack_of_candidate {place : Int}
    (found : candidate? significand exponent narrowBelow place = some number) :
    readsBack significand exponent narrowBelow number = true := by
  unfold candidate? at found
  simp only at found
  split at found
  · cases found
  · cases found
    assumption
  · cases found
    assumption
  · cases found
    have either : ∀ numerator denominator,
        roundQuotient numerator denominator = numerator / denominator ∨
          roundQuotient numerator denominator = numerator / denominator + 1 := by
      intro numerator denominator
      unfold roundQuotient
      grind
    rename_i lowHit highHit
    rcases either _ _ with low | high
    · rw [low]
      exact lowHit
    · rw [high]
      exact highHit

/-- The exact decimal of a double is its value. -/
theorem value_exactDecimal (significand : Nat) (exponent : Int) :
    (exactDecimal significand exponent).value = significand * 2 ^ exponent := by
  unfold exactDecimal Scaled.value
  simp only [Nat.pow_eq, Nat.cast_mul, Nat.cast_pow, Nat.cast_ofNat]
  rcases le_total 0 exponent with nonneg | negative
  · obtain ⟨power, rfl⟩ := Int.eq_ofNat_of_zero_le nonneg
    simp
  · have down : exponent = -((-exponent).toNat : Int) := by omega
    have none : exponent.toNat = 0 := by omega
    rw [min_eq_left negative, none]
    conv_lhs => rw [down]
    conv_rhs => rw [down]
    simp only [neg_neg, Int.toNat_natCast, zpow_neg, zpow_natCast, pow_zero, mul_one]
    rw [show (10 : ℚ) = 2 * 5 by norm_num, mul_pow]
    field_simp

/-- The exact decimal of a double is near to it. -/
theorem near_exactDecimal (significand : Nat) (exponent : Int) (narrowBelow : Bool) :
    Near significand exponent narrowBelow (exactDecimal significand exponent).value := by
  have power : (0 : ℚ) < 2 ^ exponent := by positivity
  have gap : (0 : ℚ) < if narrowBelow then 1 / 4 else 1 / 2 := by split <;> norm_num
  have low : ((significand : ℚ) - if narrowBelow then 1 / 4 else 1 / 2) * 2 ^ exponent <
      significand * 2 ^ exponent := mul_lt_mul_of_pos_right (by linarith) power
  have high : (significand : ℚ) * 2 ^ exponent < (significand + 1 / 2) * 2 ^ exponent :=
    mul_lt_mul_of_pos_right (by linarith) power
  rw [value_exactDecimal]
  exact ⟨low.le, high.le, fun _ => ⟨low, high⟩⟩

/-- Zeros at the end of the digits count as much in the exponent. -/
theorem value_stripZeros (bound : Nat) (number : Scaled) :
    (stripZeros bound number).value = number.value := by
  induction bound generalizing number with
  | zero => rfl
  | succ bound inductionHypothesis =>
    obtain ⟨digits, exponent⟩ := number
    unfold stripZeros
    split
    · rename_i zero
      obtain ⟨rest, rfl⟩ := Nat.dvd_of_mod_eq_zero zero
      rw [inductionHypothesis, Nat.mul_div_cancel_left _ (by decide)]
      unfold Scaled.value
      rw [zpow_add_one₀ (by norm_num)]
      push_cast
      ring
    · rfl

/-- The digits that are chosen for a double read back as it. -/
theorem near_select (positive : 0 < significand) (exponent : Int) (narrowBelow : Bool) :
    Near significand exponent narrowBelow (select significand exponent narrowBelow).value := by
  unfold select
  simp only
  rw [value_stripZeros]
  cases found : (List.range 17).findSome? _ with
  | none => exact near_exactDecimal significand exponent narrowBelow
  | some number =>
    obtain ⟨count, -, candidate⟩ := List.exists_of_findSome?_eq_some found
    exact near_of_readsBack positive (readsBack_of_candidate candidate)

end Shortest

/-- A double above zero is infinite, or has the parts of a finite one. -/
theorem ofFloat_of_pos {value : Float} (positive : 0 < value) :
    (Binary.ofFloat value = .infinite false ∧ value.toBits.toNat = 2047 * 2 ^ 52) ∨
      ∃ significand exponent narrowBelow,
        Binary.ofFloat value = .finite false significand exponent narrowBelow ∧
        Canonical significand exponent narrowBelow ∧
        (exponent + 1074).toNat * 2 ^ 52 + significand = value.toBits.toNat := by
  obtain ⟨nonzero, most⟩ := toBits_of_pos positive
  have sign : decide (value.toBits.toNat / Nat.pow 2 63 % 2 = 1) = false := by
    refine decide_eq_false ?_
    change ¬value.toBits.toNat / 2 ^ 63 % 2 = 1
    omega
  have power : value.toBits.toNat / 2 ^ 52 % Nat.pow 2 11 = value.toBits.toNat / 2 ^ 52 := by
    change value.toBits.toNat / 2 ^ 52 % 2 ^ 11 = _
    omega
  have leading : Nat.pow 2 52 = 2 ^ 52 := rfl
  simp only [Binary.ofFloat, Binary.ofBits, sign, power, leading]
  split
  · rename_i last
    have none : value.toBits.toNat % 2 ^ 52 = 0 := by omega
    rw [if_pos none]
    exact .inl ⟨rfl, by omega⟩
  · right
    split
    · refine ⟨_, _, _, rfl, ?_, by omega⟩
      exact {
        positive := by omega
        short := by omega
        least := le_rfl
        normal := fun _ => rfl
        narrow := fun _ less => absurd less (lt_irrefl _) }
    · refine ⟨_, _, _, rfl, ?_, by omega⟩
      exact {
        positive := by omega
        short := by omega
        least := by omega
        normal := fun _ => by omega
        narrow := fun _ _ => by simp; omega }

/-- Infinity is what a number far above all doubles is read as. -/
theorem nearest_infinite :
    nearest false (Nat.pow 2 2000) 1 = Float.ofBits (UInt64.ofNat (2047 * 2 ^ 52)) := by
  decide +kernel

/-- A double above zero is written as infinity, or by digits. Every decimal of the same value is
read as the double. -/
theorem text_of_pos {value : Float} (positive : 0 < value) :
    (text value = "inf" ∧ nearest false (Nat.pow 2 2000) 1 = value) ∨
      ∃ number : Scaled, 0 < number.digits ∧ text value = String.ofList (plain.layOut number) ∧
        ∀ read : Scaled, read.value = number.value →
          nearestDecimal false read.digits read.exponent = value := by
  have whole : Float.ofBits (UInt64.ofNat value.toBits.toNat) = value := by
    rw [UInt64.ofNat_toNat, Float.ofBits_toBits]
  rcases ofFloat_of_pos positive with ⟨infinite, bits⟩ |
    ⟨significand, exponent, narrowBelow, finite, parts, bits⟩
  · left
    constructor
    · simp only [text, Layout.write, infinite]
      rfl
    · rw [nearest_infinite, ← bits, whole]
  · right
    have near := Shortest.near_select parts.positive exponent narrowBelow
    refine ⟨Shortest.select significand exponent narrowBelow, near.digits_pos parts, ?_, ?_⟩
    · simp only [text, Layout.write, finite, if_neg parts.positive.ne', Bool.false_eq_true,
        if_false]
    · intro read same
      have most := (toBits_of_pos positive).2
      rw [nearestDecimal_eq parts (same ▸ near) (bits ▸ most), bits, whole]

end ThreadHost.Decimal
