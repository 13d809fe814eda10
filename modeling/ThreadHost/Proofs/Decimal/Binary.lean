import Mathlib
import ThreadHost.Decimal.Binary
/-!
# Doubles above zero

The bits of a double above zero lie above those of zero, and not above those of infinity.
-/

namespace ThreadHost.Decimal

open Float.Model Float.Model.UnpackedFloat

theorem toNat_unpackSign (bits : BitVec 64) :
    (@unpackSign .binary64 bits).toNat = bits.toNat / 2 ^ 63 % 2 := by
  simp [unpackSign, Nat.shiftRight_eq_div_pow]

theorem toNat_unpackExponent (bits : BitVec 64) :
    (@unpackExponent .binary64 bits).toNat = bits.toNat / 2 ^ 52 % 2 ^ 11 := by
  simp [unpackExponent, Nat.shiftRight_eq_div_pow]

theorem toNat_unpackMantissa (bits : BitVec 64) :
    (@unpackMantissa .binary64 bits).toNat = bits.toNat % 2 ^ 52 := by
  simp [unpackMantissa]

theorem unpack_zero : (0 : Float).toModel.unpack = .zero .positive := by rfl

/-- What is compared with zero. -/
theorem zero_lt_iff (value : Float) : 0 < value ↔
    value.toModel.unpack = .infinity .positive ∨
      ∃ mantissa exponent positive,
        value.toModel.unpack = .finite .positive mantissa exponent positive := by
  have compared : 0 < value ↔
      ((0 : Float).toModel.unpack.compare value.toModel.unpack == some .lt) = true := by
    change decide ((0 : Float).toModel < value.toModel) = true ↔ _
    exact decide_eq_true_iff
  rw [compared, unpack_zero]
  rcases value.toModel.unpack with (_ | _) | _ | (_ | _) | ⟨_ | _, mantissa, exponent, positive⟩ <;>
    simp [UnpackedFloat.compare]
  exact positive

/-- A sign that is not negative is a bit that is not set. -/
theorem eq_zero_of_ofBitVec {bit : BitVec 1} (sign : Sign.ofBitVec bit = .positive) :
    bit.toNat = 0 := by
  unfold Sign.ofBitVec at sign
  split at sign
  · rename_i zero
    rw [zero]
    rfl
  · cases sign

/-- The bits of a double above zero are those up to the bits of infinity. -/
theorem toBits_of_pos {value : Float} (positive : 0 < value) :
    0 < value.toBits.toNat ∧ value.toBits.toNat ≤ 2047 * 2 ^ 52 := by
  have apart := (zero_lt_iff value).1 positive
  have bits : value.toBits.toNat = value.toModel.toBits.toBitVec.toNat := rfl
  have small : value.toModel.toBits.toBitVec.toNat < 2 ^ 64 := BitVec.isLt _
  rw [bits]
  unfold Float.Model.unpack at apart
  generalize value.toModel.toBits.toBitVec = word at apart small
  have sign := toNat_unpackSign word
  have power := toNat_unpackExponent word
  have fraction := toNat_unpackMantissa word
  unfold UnpackedFloat.unpack at apart
  simp only at apart
  split at apart
  case isTrue allOnes =>
    have last : (@unpackExponent .binary64 word).toNat = 2047 := congrArg BitVec.toNat allOnes
    split at apart
    case isTrue noFraction =>
      have none : (@unpackMantissa .binary64 word).toNat = 0 := congrArg BitVec.toNat noFraction
      rcases apart with infinite | ⟨_, _, _, ⟨⟩⟩
      have clear := eq_zero_of_ofBitVec (UnpackedFloat.infinity.inj infinite)
      omega
    case isFalse => simp at apart
  case isFalse notAllOnes =>
    have notLast : (@unpackExponent .binary64 word).toNat ≠ 2047 := fun last =>
      notAllOnes (BitVec.eq_of_toNat_eq last)
    split at apart
    case isTrue zero =>
      split at apart
      case isTrue => simp at apart
      case isFalse someFraction =>
        have nonzero : (@unpackMantissa .binary64 word).toNat ≠ 0 := fun none =>
          someFraction (BitVec.eq_of_toNat_eq none)
        obtain ⟨_, _, _, same⟩ := apart.resolve_left (by simp)
        have clear := eq_zero_of_ofBitVec (UnpackedFloat.finite.inj same).1
        omega
    case isFalse normal =>
      have nonzero : (@unpackExponent .binary64 word).toNat ≠ 0 := fun zero =>
        normal (BitVec.eq_of_toNat_eq zero)
      obtain ⟨_, _, _, same⟩ := apart.resolve_left (by simp)
      have clear := eq_zero_of_ofBitVec (UnpackedFloat.finite.inj same).1
      omega

end ThreadHost.Decimal
