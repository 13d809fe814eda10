import ThreadHost.Text.Hex
/-!
# Hexadecimal text there and back

Text that was written from bytes is read as these bytes, and reading does not look at the case of
letters.
-/

namespace ThreadHost.Text.Hex

/-- A digit is no blank, belongs to ASCII, and stands for its value. -/
theorem digit_of_lt {value : Nat} (small : value < 16) :
    isBlank (digit value) = false ∧ (digit value).toNat < 128 ∧
      value? (digit value) = some value := by
  have all : ∀ value : Fin 16, isBlank (digit value) = false ∧ (digit value).toNat < 128 ∧
      value? (digit value) = some value.val := by decide
  exact all ⟨value, small⟩

/-- The two digits of a byte are read as the byte. -/
theorem decodeFrom_pair_append (byte : UInt8) (position : Nat) (rest : List Char) :
    decodeFrom position (pair byte ++ rest) =
      (decodeFrom (position + 2) rest).map (byte :: ·) := by
  have bound := byte.toNat_lt
  obtain ⟨highIsDigit, -, highValue⟩ := digit_of_lt (show byte.toNat / 16 < 16 by omega)
  obtain ⟨-, -, lowValue⟩ := digit_of_lt (show byte.toNat % 16 < 16 by omega)
  have whole : UInt8.ofNat (byte.toNat / 16 * 16 + byte.toNat % 16) = byte := by
    rw [Nat.div_add_mod', UInt8.ofNat_toNat]
  rw [pair, List.cons_append, decodeFrom, highIsDigit, highValue]
  simp [lowValue, whole]

/-- The digits of some bytes are read as these bytes. -/
theorem decodeFrom_pairs (bytes : List UInt8) (position : Nat) :
    decodeFrom position (bytes.flatMap pair) = .ok bytes := by
  induction bytes generalizing position with
  | nil => rfl
  | cons byte bytes inductionHypothesis =>
    rw [List.flatMap_cons, decodeFrom_pair_append, inductionHypothesis]
    rfl

/-- Text written from bytes consists of digits. -/
theorem exists_digit_of_mem_pairs {bytes : List UInt8} {character : Char}
    (member : character ∈ bytes.flatMap pair) : ∃ value < 16, character = digit value := by
  obtain ⟨byte, -, inPair⟩ := List.mem_flatMap.1 member
  have bound := byte.toNat_lt
  simp only [pair, List.mem_cons, List.not_mem_nil, or_false] at inPair
  rcases inPair with rfl | rfl
  · exact ⟨byte.toNat / 16, by omega, rfl⟩
  · exact ⟨byte.toNat % 16, by omega, rfl⟩

/-- Text written from bytes has no character outside ASCII. -/
theorem toNat_lt_of_mem_pairs {bytes : List UInt8} {character : Char}
    (member : character ∈ bytes.flatMap pair) : character.toNat < 128 := by
  obtain ⟨value, small, rfl⟩ := exists_digit_of_mem_pairs member
  exact (digit_of_lt small).2.1

/-- Text written from bytes has no blanks. -/
theorem isBlank_of_mem_pairs {bytes : List UInt8} {character : Char}
    (member : character ∈ bytes.flatMap pair) : isBlank character = false := by
  obtain ⟨value, small, rfl⟩ := exists_digit_of_mem_pairs member
  exact (digit_of_lt small).1

/-- Text written from bytes is read as these bytes. -/
theorem decode_encode (bytes : List UInt8) : decode (encode bytes) = .ok bytes := by
  have ascii : (bytes.flatMap pair).findIdx? (fun c => 128 ≤ c.toNat) = none := by
    rw [List.findIdx?_eq_none_iff]
    intro character member
    have small := toNat_lt_of_mem_pairs member
    simp only [decide_eq_false_iff_not]
    omega
  rw [decode, encode, String.toList_ofList, ascii]
  exact decodeFrom_pairs bytes 0

/-- The code of a character whose case is lowered. -/
theorem toNat_toLower (character : Char) :
    character.toLower.toNat =
      if 65 ≤ character.toNat ∧ character.toNat ≤ 90 then character.toNat + 32
      else character.toNat := by
  unfold Char.toLower
  by_cases upper : character.val ≥ 'A'.val ∧ character.val ≤ 'Z'.val
  · have code : 65 ≤ character.toNat ∧ character.toNat ≤ 90 := upper
    have difference : ('a'.val - 'A'.val).toNat = 32 := by decide
    have small : character.val.toNat ≤ 90 := code.2
    rw [dif_pos upper, if_pos code]
    change (character.val + ('a'.val - 'A'.val)).toNat = character.val.toNat + 32
    rw [UInt32.toNat_add, difference, Nat.mod_eq_of_lt (by omega)]
  · have code : ¬(65 ≤ character.toNat ∧ character.toNat ≤ 90) := upper
    rw [dif_neg upper, if_neg code]

/-- The case of a letter does not change its value as a digit. -/
theorem value?_toLower (character : Char) : value? character.toLower = value? character := by
  simp only [value?, toNat_toLower]
  generalize character.toNat = code
  by_cases upper : 65 ≤ code ∧ code ≤ 90
  · rw [if_pos upper]
    grind
  · rw [if_neg upper]

/-- The case of a letter does not make it a blank. -/
theorem isBlank_toLower (character : Char) : isBlank character.toLower = isBlank character := by
  have space : ∀ other : Char, other = ' ' ↔ other.toNat = 32 := by
    intro other
    rw [← Char.toNat_inj]
    rfl
  simp only [isBlank, space, toNat_toLower]
  by_cases upper : 65 ≤ character.toNat ∧ character.toNat ≤ 90
  · rw [if_pos upper]
    grind
  · rw [if_neg upper]

/-- Pairs are read without regard to the case of their letters. -/
theorem decodeFrom_toLower (position : Nat) (characters : List Char) :
    decodeFrom position (characters.map Char.toLower) = decodeFrom position characters := by
  fun_induction decodeFrom position characters with
  | case1 => rfl
  | case2 position character rest blank inductionHypothesis =>
    rw [List.map_cons, decodeFrom, isBlank_toLower, if_pos blank, inductionHypothesis]
  | case3 position character rest noBlank noDigit =>
    rw [List.map_cons, decodeFrom, isBlank_toLower, if_neg noBlank, value?_toLower, noDigit]
  | case4 position character noBlank high isDigit =>
    rw [List.map_cons, decodeFrom, isBlank_toLower, if_neg noBlank, value?_toLower, isDigit]
    rfl
  | case5 position character noBlank high isDigit second tail noDigit =>
    rw [List.map_cons, decodeFrom, isBlank_toLower, if_neg noBlank, value?_toLower, isDigit]
    simp only [List.map_cons, value?_toLower, noDigit]
  | case6 position character noBlank high isDigit second tail low isLow inductionHypothesis =>
    rw [List.map_cons, decodeFrom, isBlank_toLower, if_neg noBlank, value?_toLower, isDigit]
    simp only [List.map_cons, value?_toLower, isLow, inductionHypothesis]

/-- A hexadecimal text is read without regard to the case of its letters. -/
theorem decode_congr_toLower {one other : String}
    (same : one.toList.map Char.toLower = other.toList.map Char.toLower) :
    decode one = decode other := by
  have ascii : ∀ character : Char, 128 ≤ character.toLower.toNat ↔ 128 ≤ character.toNat := by
    intro character
    rw [toNat_toLower]
    split <;> omega
  have foreign : ∀ text : String, text.toList.findIdx? (fun c => 128 ≤ c.toNat) =
      (text.toList.map Char.toLower).findIdx? (fun c => 128 ≤ c.toNat) := by
    intro text
    simp only [List.findIdx?_map, Function.comp_def, ascii]
  rw [decode, decode, foreign, foreign, ← decodeFrom_toLower 0 one.toList,
    ← decodeFrom_toLower 0 other.toList, same]

end ThreadHost.Text.Hex
