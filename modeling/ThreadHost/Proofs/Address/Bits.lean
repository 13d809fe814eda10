import Mathlib.Data.List.Induction
import Mathlib.Data.Nat.Bitwise
import ThreadHost.Dataset.Fields
import ThreadHost.Proofs.Text.Readers
/-!
# Numbers and addresses bit by bit

A number on a fixed width is a row of bits, the highest first. An address that was read from a text
has 128 of them (`Ipv6.parse_fits`), so the tests that divide its value are tests of the bits it
begins with: it is link-local if the first ten are those of `fe80::/10`, and it belongs to the
network of eight bytes if it begins with their bits.
-/

namespace ThreadHost.Address

/-- The bits of a number on a fixed width, the highest first. -/
def bits (width value : Nat) : List Bool :=
  (List.range width).map fun index => value.testBit (width - 1 - index)

@[simp] theorem length_bits (width value : Nat) : (bits width value).length = width := by
  simp [bits]

@[simp] theorem getElem_bits {width value index : Nat} (inside : index < (bits width value).length) :
    (bits width value)[index] = value.testBit (width - 1 - index) := by
  simp [bits]

/-- A number that fits the width is known by its bits. -/
theorem bits_eq_iff {width one other : Nat} (fits : one < Nat.pow 2 width)
    (otherFits : other < Nat.pow 2 width) : bits width one = bits width other ↔ one = other := by
  refine ⟨fun same => Nat.eq_of_testBit_eq fun place => ?_, fun same => same ▸ rfl⟩
  by_cases inside : place < width
  · have bit (value : Nat) : (bits width value)[width - 1 - place]? = some (value.testBit place) := by
      rw [bits, List.getElem?_map, List.getElem?_range (by omega), Option.map_some]
      congr 2
      omega
    exact Option.some.inj (by rw [← bit one, ← bit other, same])
  · have small := Nat.pow_le_pow_right (n := 2) (by decide) (not_lt.1 inside)
    rw [Nat.testBit_lt_two_pow (lt_of_lt_of_le fits small),
      Nat.testBit_lt_two_pow (lt_of_lt_of_le otherFits small)]

/-- The bits that a number begins with are those of the number without the others. -/
theorem take_bits {width count : Nat} (inside : count ≤ width) (value : Nat) :
    (bits width value).take count = bits count (value / Nat.pow 2 (width - count)) := by
  apply List.ext_getElem
  · simp [inside]
  · intro index first second
    have position : index < count := by simpa using second
    have place : width - 1 - index = count - 1 - index + (width - count) := by omega
    simp only [List.getElem_take, getElem_bits, place]
    exact (Nat.testBit_div_two_pow value _).symm

/-- The bits of a number put together from two parts are the bits of these. -/
theorem bits_append (high : Nat) {low width : Nat} (more : Nat) (fits : low < Nat.pow 2 width) :
    bits (more + width) (high * Nat.pow 2 width + low) = bits more high ++ bits width low := by
  apply List.ext_getElem
  · simp
  · intro index first second
    have inside : index < more + width := by simpa using first
    have product : high * Nat.pow 2 width + low = 2 ^ width * high + low := by
      rw [Nat.mul_comm]
      rfl
    rw [getElem_bits, product, Nat.testBit_two_pow_mul_add _ fits]
    by_cases upper : index < more
    · have place : more + width - 1 - index - width = more - 1 - index := by omega
      rw [if_neg (by omega), List.getElem_append_left (by simpa using upper), getElem_bits, place]
    · have place : more + width - 1 - index = width - 1 - (index - more) := by omega
      rw [if_pos (by omega), List.getElem_append_right (by simpa using upper)]
      simp [place]

end ThreadHost.Address

namespace ThreadHost.Bytes

open Address (bits bits_append)

/-- The bits of bytes, one byte after another. -/
def bits (bytes : Bytes) : List Bool := bytes.flatMap fun byte => Address.bits 8 byte.toNat

theorem toNumber_append (bytes : Bytes) (last : UInt8) :
    toNumber (bytes ++ [last]) = toNumber bytes * 256 + last.toNat := by
  simp [toNumber]

/-- Bytes are the bits of the number they stand for, by induction from the last byte on. -/
theorem bits_eq (bytes : Bytes) : bits bytes = Address.bits (8 * bytes.length) (toNumber bytes) := by
  induction bytes using List.reverseRecOn with
  | nil => rfl
  | append_singleton bytes last inductionHypothesis =>
    have fits : last.toNat < Nat.pow 2 8 := last.toNat_lt
    rw [toNumber_append, List.length_append, Nat.mul_add]
    calc bits (bytes ++ [last])
        = bits bytes ++ Address.bits 8 last.toNat := by simp [bits]
      _ = Address.bits (8 * bytes.length) (toNumber bytes) ++ Address.bits 8 last.toNat := by
        rw [inductionHypothesis]
      _ = _ := (bits_append (toNumber bytes) (8 * bytes.length) fits).symm

theorem toNumber_lt (bytes : Bytes) : toNumber bytes < Nat.pow 256 bytes.length := by
  induction bytes using List.reverseRecOn with
  | nil => decide
  | append_singleton bytes last inductionHypothesis =>
    have fits : last.toNat < 256 := last.toNat_lt
    rw [toNumber_append, List.length_append]
    change _ < Nat.pow 256 bytes.length * 256
    omega

/-- The bytes of a number are those of what is above its low byte, and the low byte. -/
theorem ofNumber_succ (width value : Nat) :
    ofNumber (width + 1) value = ofNumber width (value / 256) ++ [UInt8.ofNat value] := by
  unfold ofNumber
  rw [List.range_succ, List.map_append, List.map_singleton]
  congr 1
  · apply List.map_congr_left
    intro index member
    have inside := List.mem_range.1 member
    have place : width + 1 - 1 - index = width - 1 - index + 1 := by omega
    have power : Nat.pow 256 (width - 1 - index + 1) = 256 * Nat.pow 256 (width - 1 - index) :=
      Nat.mul_comm _ _
    rw [place, power, Nat.div_div_eq_div_mul]
  · simp

/-- The bytes of a number stand for the number, as far as the width reaches. -/
theorem toNumber_ofNumber (width value : Nat) :
    toNumber (ofNumber width value) = value % Nat.pow 256 width := by
  induction width generalizing value with
  | zero => simp [ofNumber, toNumber, Nat.mod_one]
  | succ width inductionHypothesis =>
    have power : Nat.pow 256 (width + 1) = 256 * Nat.pow 256 width := Nat.mul_comm _ _
    have low : (UInt8.ofNat value).toNat = value % 256 := UInt8.toNat_ofNat'
    rw [ofNumber_succ, toNumber_append, inductionHypothesis, low, power, Nat.mod_mul]
    omega

end ThreadHost.Bytes

namespace ThreadHost.Address.Ipv6

variable {address : Ipv6}

/-- The 128 bits of an address. -/
def bits (address : Ipv6) : List Bool := Address.bits 128 address.value

/-- An address of 128 bits. -/
def Fits (address : Ipv6) : Prop := address.value < Nat.pow 2 128

/-- A digit is a number below sixteen. -/
theorem value?_lt {character : Char} {value : Nat}
    (read : Text.Hex.value? character = some value) : value < 16 := by
  unfold Text.Hex.value? at read
  grind

/-- A group is a number of at most four hexadecimal digits. -/
theorem group_lt {shown text : List Char} {value : Nat} (read : group shown text = .ok value) :
    value < 65536 := by
  unfold group at read
  split at read
  case h_1 => cases read
  case h_2 digits known =>
    split at read
    case isTrue => cases read
    case isFalse short =>
      cases read
      have each := Text.mapM_eq_some_iff.1 known
      have below := Text.foldl_digits_lt (Text.forall_of_forall₂ each fun _ _ => value?_lt) 0
      have few : Nat.pow 16 digits.length ≤ Nat.pow 16 4 :=
        Nat.pow_le_pow_right (by decide) (each.length_eq ▸ not_lt.1 short)
      have limit : Nat.pow 16 4 = 65536 := rfl
      omega

/-- Groups that were read one after another. -/
theorem groups_lt {shown : List Char} {texts : List (List Char)} {values : List Nat}
    (read : texts.mapM (group shown) = .ok values) :
    values.length = texts.length ∧ ∀ value ∈ values, value < 65536 :=
  have each := Text.mapM_eq_ok_iff.1 read
  ⟨each.length_eq.symm, Text.forall_of_forall₂ each fun _ _ => group_lt⟩

/-- The groups that are there and those that are left out are eight. -/
theorem length_layOut {shown : List Char} {parts high low : List (List Char)} {skipped : Nat}
    (laidOut : layOut shown parts = .ok (high, skipped, low)) :
    high.length + skipped + low.length = 8 := by
  unfold layOut at laidOut
  simp only at laidOut
  generalize (if parts.headD [] = [] then _ else _ : List (List Char)) = before at laidOut
  generalize (if parts.getLastD [] = [] then _ else _ : List (List Char)) = behind at laidOut
  split at laidOut
  · split at laidOut
    · cases laidOut
    · rename_i eight
      split at laidOut
      · cases laidOut
      · split at laidOut
        · cases laidOut
        · cases laidOut
          exact not_not.1 eight
  · split at laidOut
    · cases laidOut
    · split at laidOut
      · cases laidOut
      · split at laidOut
        · cases laidOut
        · split at laidOut
          · cases laidOut
          · cases laidOut
            omega

/-- A value put together from eight groups at most: some of them ahead of those that are left out,
the others behind them. -/
inductive Composed : Nat → Prop where
  | groups {high low : List Nat} {skipped : Nat} (eight : high.length + skipped + low.length = 8)
      (highSmall : ∀ group ∈ high, group < 65536) (lowSmall : ∀ group ∈ low, group < 65536) :
      Composed (low.foldl (fun value group => value * 65536 + group)
        (high.foldl (fun value group => value * 65536 + group) 0 * Nat.pow 65536 skipped))

/-- What is laid out and read group by group is put together from eight groups. -/
theorem composed_of_layOut {shown : List Char} {parts : List (List Char)} {value : Nat}
    (read : (do
      let laidOut ← layOut shown parts
      let high ← laidOut.1.mapM (group shown)
      let low ← laidOut.2.2.mapM (group shown)
      pure (low.foldl (fun value group => value * 65536 + group)
        (high.foldl (fun value group => value * 65536 + group) 0 *
          Nat.pow 65536 laidOut.2.1))) = Except.ok value) : Composed value := by
  obtain ⟨⟨high, skipped, low⟩, places, read⟩ := Text.bind_eq_ok_iff.1 read
  obtain ⟨highs, upper, read⟩ := Text.bind_eq_ok_iff.1 read
  obtain ⟨lows, lower, read⟩ := Text.bind_eq_ok_iff.1 read
  obtain ⟨highCount, highSmall⟩ := groups_lt upper
  obtain ⟨lowCount, lowSmall⟩ := groups_lt lower
  have eight : highs.length + skipped + lows.length = 8 := by
    rw [highCount, lowCount, length_layOut places]
  cases read
  exact .groups eight highSmall lowSmall

theorem valueOf_composed {text : List Char} {value : Nat} (read : valueOf text = .ok value) :
    Composed value := by
  unfold valueOf at read
  simp only at read
  split at read
  case isTrue => cases read
  case isFalse =>
    split at read
    case isTrue => cases read
    case isFalse =>
      split at read
      case isTrue =>
        obtain ⟨quads, -, read⟩ := Text.bind_eq_ok_iff.1 read
        obtain ⟨parts, -, read⟩ := Text.bind_eq_ok_iff.1 read
        split at read
        · cases read
        · exact composed_of_layOut read
      case isFalse =>
        obtain ⟨parts, -, read⟩ := Text.bind_eq_ok_iff.1 read
        split at read
        · cases read
        · exact composed_of_layOut read

/-- Eight groups of 16 bits are 128 bits. -/
theorem Composed.lt {value : Nat} (composed : Composed value) : value < Nat.pow 2 128 := by
  obtain @⟨high, low, skipped, eight, highSmall, lowSmall⟩ := composed
  generalize ahead : high.foldl (fun value group => value * 65536 + group) 0 = above
  have above_lt : above < Nat.pow 65536 high.length := by
    simpa [ahead] using Text.foldl_digits_lt highSmall 0
  have shifted : above * Nat.pow 65536 skipped + 1 ≤ Nat.pow 65536 (high.length + skipped) := by
    have room : 1 ≤ Nat.pow 65536 skipped := Nat.pow_pos (by decide)
    calc above * Nat.pow 65536 skipped + 1 ≤ (above + 1) * Nat.pow 65536 skipped := by
          rw [Nat.succ_mul]
          omega
      _ ≤ Nat.pow 65536 high.length * Nat.pow 65536 skipped := Nat.mul_le_mul_right _ above_lt
      _ = Nat.pow 65536 (high.length + skipped) := (Nat.pow_add ..).symm
  calc low.foldl (fun value group => value * 65536 + group) (above * Nat.pow 65536 skipped)
      < (above * Nat.pow 65536 skipped + 1) * Nat.pow 65536 low.length :=
        Text.foldl_digits_lt lowSmall _
    _ ≤ Nat.pow 65536 (high.length + skipped) * Nat.pow 65536 low.length :=
        Nat.mul_le_mul_right _ shifted
    _ = Nat.pow 65536 8 := by
        rw [← eight]
        exact (Nat.pow_add ..).symm
    _ = Nat.pow 2 128 := by decide

/-- An address that was read has 128 bits, whether it names a scope or not. -/
theorem parse_fits {text : String} {address : Ipv6} (read : parse text = .ok address) :
    address.Fits := by
  have fits {characters : List Char} {scope : Option String}
      (read : (valueOf characters).map (⟨·, scope⟩) = Except.ok address) : address.Fits := by
    cases known : valueOf characters with
    | error fault =>
      rw [known] at read
      cases read
    | ok value =>
      rw [known] at read
      cases read
      exact (valueOf_composed known).lt
  unfold parse at read
  split at read
  · cases read
  · split at read
    · exact fits read
    · split at read
      · cases read
      · exact fits read

/-- The ten bits that link-local addresses begin with. -/
def linkLocalBits : List Bool :=
  [true, true, true, true, true, true, true, false, true, false]

/-- An address is link-local if it begins with the ten bits of link-local addresses. -/
theorem isLinkLocal_iff (fits : address.Fits) :
    address.isLinkLocal = true ↔ address.bits.take 10 = linkLocalBits := by
  have known : linkLocalBits = Address.bits 10 0b1111111010 := by decide
  have upper : address.value / Nat.pow 2 118 < Nat.pow 2 10 :=
    Nat.div_lt_of_lt_mul fits
  rw [bits, take_bits (by decide), known, bits_eq_iff upper (by decide), isLinkLocal]
  exact decide_eq_true_iff

/-- An address belongs to the network of eight bytes if it begins with their bits. -/
theorem contains_iff (fits : address.Fits) {value : Bytes} (eight : value.length = 8) :
    Network.contains ⟨⟨Bytes.toNumber value * Nat.pow 2 64, none⟩, 64⟩ address = true ↔
      address.bits.take 64 = value.bits := by
  have upper : address.value / Nat.pow 2 64 < Nat.pow 2 64 := Nat.div_lt_of_lt_mul fits
  have lower : Bytes.toNumber value < Nat.pow 2 64 := by
    simpa [eight] using Bytes.toNumber_lt value
  rw [bits, take_bits (by decide), Bytes.bits_eq, eight, bits_eq_iff upper lower, Network.contains]
  simp

end ThreadHost.Address.Ipv6

namespace ThreadHost.Address.Network

/-- A network that was read has an address of 128 bits. -/
theorem parse_fits {text : String} {network : Network}
    (parsed : parse text = .ok network) : network.address.Fits := by
  have fits {address : Ipv6} {shown : String} {length : Nat} (read : Ipv6.parse shown = .ok address)
      (made : make address length = .ok network) : network.address.Fits := by
    unfold make at made
    split at made
    case isTrue =>
      cases made
      exact Ipv6.parse_fits read
    case isFalse => cases made
  unfold parse at parsed
  split at parsed
  case h_1 =>
    obtain ⟨_, read, made⟩ := Text.bind_eq_ok_iff.1 parsed
    exact fits read made
  case h_2 =>
    obtain ⟨_, read, parsed⟩ := Text.bind_eq_ok_iff.1 parsed
    obtain ⟨_, -, made⟩ := Text.bind_eq_ok_iff.1 parsed
    exact fits read made
  case h_3 => cases parsed

end ThreadHost.Address.Network
