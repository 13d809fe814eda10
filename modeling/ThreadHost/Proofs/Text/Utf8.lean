import ThreadHost.Text.Utf8
/-!
# Well-formed text survives decoding

The reader takes the bytes of a character one after another. `scan_two`, `scan_three` and
`scan_four` follow it through the longer forms, each under exactly the bounds that the reader
sets; the bytes of every character meet them, so `decodeLossy_encode` gives back any text.
-/

namespace ThreadHost.Text.Utf8

/-- A byte that can stand behind the first byte of a character. -/
abbrev IsTail (byte : UInt8) : Prop := 0x80 ≤ byte ∧ byte ≤ 0xBF

/-- The byte that completes a character. -/
theorem scan_pending_last {bits : Nat} {low high byte : UInt8}
    (inRange : low ≤ byte ∧ byte ≤ high) (rest : List UInt8) :
    scan (.pending bits 1 low high) (byte :: rest) =
      some (Char.ofNat (bits * 64 + (byte.toNat - 0x80))) :: scan .ready rest := by
  simp [scan, step, inRange]

/-- A byte inside a character. -/
theorem scan_pending_more {bits missing : Nat} {low high byte : UInt8}
    (inRange : low ≤ byte ∧ byte ≤ high) (rest : List UInt8) :
    scan (.pending bits (missing + 2) low high) (byte :: rest) =
      scan (.pending (bits * 64 + (byte.toNat - 0x80)) (missing + 1) 0x80 0xBF) rest := by
  simp [scan, step, inRange]

/-- A byte that begins a longer character. -/
theorem scan_lead {byte : UInt8} {state : State} (lead : first byte = ([], state))
    (rest : List UInt8) : scan .ready (byte :: rest) = scan state rest := by
  simp [scan, step, lead]

/-- The first of two bytes. -/
theorem first_of_two {byte : UInt8} (lower : 0xC2 ≤ byte.toNat) (upper : byte.toNat < 0xE0) :
    first byte = ([], .pending (byte.toNat - 0xC0) 1 0x80 0xBF) := by
  unfold first
  rw [if_neg (by omega), if_neg (by omega), if_pos upper]

/-- The first of three bytes; the range of the second is narrower behind two of them. -/
theorem first_of_three {byte : UInt8} (lower : 0xE0 ≤ byte.toNat) (upper : byte.toNat < 0xF0) :
    first byte = ([], .pending (byte.toNat - 0xE0) 2
      (if byte.toNat = 0xE0 then 0xA0 else 0x80) (if byte.toNat = 0xED then 0x9F else 0xBF)) := by
  unfold first
  rw [if_neg (by omega), if_neg (by omega), if_neg (by omega)]
  by_cases least : byte.toNat = 0xE0
  · simp [least]
  · by_cases surrogates : byte.toNat = 0xED
    · simp [surrogates]
    · simp [least, surrogates, upper]

/-- The first of four bytes; the range of the second is narrower behind two of them. -/
theorem first_of_four {byte : UInt8} (lower : 0xF0 ≤ byte.toNat) (upper : byte.toNat < 0xF5) :
    first byte = ([], .pending (byte.toNat - 0xF0) 3
      (if byte.toNat = 0xF0 then 0x90 else 0x80) (if byte.toNat = 0xF4 then 0x8F else 0xBF)) := by
  unfold first
  rw [if_neg (by omega), if_neg (by omega), if_neg (by omega), if_neg (by omega),
    if_neg (by omega), if_neg (by omega)]
  by_cases least : byte.toNat = 0xF0
  · simp [least]
  · by_cases last : byte.toNat = 0xF4
    · simp [last]
    · have middle : byte.toNat < 0xF4 := by omega
      simp [least, last, middle]

/-- A character of one byte. -/
theorem scan_one {byte : UInt8} (ascii : byte.toNat < 0x80) (rest : List UInt8) :
    scan .ready (byte :: rest) = some (Char.ofNat byte.toNat) :: scan .ready rest := by
  have head : first byte = ([some (Char.ofNat byte.toNat)], .ready) := by
    rw [first, if_pos ascii]
  simp [scan, step, head]

/-- A character of two bytes. -/
theorem scan_two {lead second : UInt8} (lower : 0xC2 ≤ lead.toNat) (upper : lead.toNat < 0xE0)
    (last : IsTail second) (rest : List UInt8) :
    scan .ready (lead :: second :: rest) =
      some (Char.ofNat ((lead.toNat - 0xC0) * 64 + (second.toNat - 0x80))) ::
        scan .ready rest := by
  rw [scan_lead (first_of_two lower upper), scan_pending_last last]

/-- A character of three bytes that is neither too long nor a surrogate. -/
theorem scan_three {lead second third : UInt8} (lower : 0xE0 ≤ lead.toNat)
    (upper : lead.toNat < 0xF0) (tail : IsTail second)
    (shortest : lead.toNat = 0xE0 → 0xA0 ≤ second)
    (noSurrogate : lead.toNat = 0xED → second ≤ 0x9F) (last : IsTail third)
    (rest : List UInt8) :
    scan .ready (lead :: second :: third :: rest) =
      some (Char.ofNat (((lead.toNat - 0xE0) * 64 + (second.toNat - 0x80)) * 64 +
        (third.toNat - 0x80))) :: scan .ready rest := by
  have low : (if lead.toNat = 0xE0 then 0xA0 else 0x80) ≤ second := by
    split
    · exact shortest (by assumption)
    · exact tail.1
  have high : second ≤ if lead.toNat = 0xED then 0x9F else 0xBF := by
    split
    · exact noSurrogate (by assumption)
    · exact tail.2
  rw [scan_lead (first_of_three lower upper), scan_pending_more ⟨low, high⟩,
    scan_pending_last last]

/-- A character of four bytes that is neither too long nor past the last code point. -/
theorem scan_four {lead second third fourth : UInt8} (lower : 0xF0 ≤ lead.toNat)
    (upper : lead.toNat < 0xF5) (tail : IsTail second)
    (shortest : lead.toNat = 0xF0 → 0x90 ≤ second)
    (inUnicode : lead.toNat = 0xF4 → second ≤ 0x8F) (middle : IsTail third)
    (last : IsTail fourth) (rest : List UInt8) :
    scan .ready (lead :: second :: third :: fourth :: rest) =
      some (Char.ofNat ((((lead.toNat - 0xF0) * 64 + (second.toNat - 0x80)) * 64 +
        (third.toNat - 0x80)) * 64 + (fourth.toNat - 0x80))) :: scan .ready rest := by
  have low : (if lead.toNat = 0xF0 then 0x90 else 0x80) ≤ second := by
    split
    · exact shortest (by assumption)
    · exact tail.1
  have high : second ≤ if lead.toNat = 0xF4 then 0x8F else 0xBF := by
    split
    · exact inUnicode (by assumption)
    · exact tail.2
  rw [scan_lead (first_of_four lower upper), scan_pending_more ⟨low, high⟩,
    scan_pending_more middle, scan_pending_last last]

/-- A byte keeps a number that it can hold. -/
theorem toNat_ofNat_of_lt {value : Nat} (small : value < 256) :
    (UInt8.ofNat value).toNat = value := by
  rw [UInt8.toNat_ofNat']
  omega

/-- The value of a byte that carries six bits. -/
theorem toNat_tail (payload : Nat) :
    (UInt8.ofNat (payload % 0x40 + 0x80)).toNat = payload % 0x40 + 0x80 :=
  toNat_ofNat_of_lt (by omega)

/-- A byte that carries six bits can stand inside a character. -/
theorem isTail_tail (payload : Nat) : IsTail (UInt8.ofNat (payload % 0x40 + 0x80)) := by
  simp only [IsTail, UInt8.le_iff_toNat_le, toNat_tail, UInt8.reduceToNat]
  omega

/-- The bytes of a character are read as that character, whatever follows. -/
theorem scan_encodeChar (character : Char) (rest : List UInt8) :
    scan .ready (String.utf8EncodeChar character ++ rest) =
      some character :: scan .ready rest := by
  have valid : character.val.toNat < 0xD800 ∨
      0xDFFF < character.val.toNat ∧ character.val.toNat < 0x110000 := character.valid
  have number : Char.ofNat character.val.toNat = character := Char.ofNat_toNat character
  unfold String.utf8EncodeChar
  generalize character.val.toNat = value at valid number
  simp only
  split
  · have byte : (UInt8.ofNat value).toNat = value := toNat_ofNat_of_lt (by omega)
    rw [List.singleton_append, scan_one (by omega), byte, number]
  · simp only [apply_ite (· ++ rest), List.cons_append, List.nil_append]
    split
    · have lead : (UInt8.ofNat (value / 64 % 0x20 + 0xc0)).toNat = value / 64 % 0x20 + 0xc0 :=
        toNat_ofNat_of_lt (by omega)
      have bits : (value / 64 % 0x20 + 0xc0 - 0xC0) * 64 + (value % 0x40 + 0x80 - 0x80) =
          value := by omega
      rw [scan_two (by omega) (by omega) (isTail_tail _), lead, toNat_tail, bits, number]
    · split
      · have lead : (UInt8.ofNat (value / 4096 % 0x10 + 0xe0)).toNat =
            value / 4096 % 0x10 + 0xe0 := toNat_ofNat_of_lt (by omega)
        have bits : ((value / 4096 % 0x10 + 0xe0 - 0xE0) * 64 +
            (value / 64 % 0x40 + 0x80 - 0x80)) * 64 + (value % 0x40 + 0x80 - 0x80) = value := by
          omega
        rw [scan_three (by omega) (by omega) (isTail_tail _)
          (by simp only [UInt8.le_iff_toNat_le, lead, toNat_tail, UInt8.reduceToNat]; omega)
          (by simp only [UInt8.le_iff_toNat_le, lead, toNat_tail, UInt8.reduceToNat]; omega)
          (isTail_tail _), lead, toNat_tail, toNat_tail, bits, number]
      · have lead : (UInt8.ofNat (value / 262144 % 0x08 + 0xf0)).toNat =
            value / 262144 % 0x08 + 0xf0 := toNat_ofNat_of_lt (by omega)
        have bits : (((value / 262144 % 0x08 + 0xf0 - 0xF0) * 64 +
            (value / 4096 % 0x40 + 0x80 - 0x80)) * 64 + (value / 64 % 0x40 + 0x80 - 0x80)) * 64 +
            (value % 0x40 + 0x80 - 0x80) = value := by
          omega
        rw [scan_four (by omega) (by omega) (isTail_tail _)
          (by simp only [UInt8.le_iff_toNat_le, lead, toNat_tail, UInt8.reduceToNat]; omega)
          (by simp only [UInt8.le_iff_toNat_le, lead, toNat_tail, UInt8.reduceToNat]; omega)
          (isTail_tail _) (isTail_tail _), lead, toNat_tail, toNat_tail, toNat_tail, bits,
          number]

/-- The bytes of a text are read as its characters, whatever follows. -/
theorem scan_encode (characters : List Char) (rest : List UInt8) :
    scan .ready (encode characters ++ rest) = characters.map some ++ scan .ready rest := by
  induction characters with
  | nil => rfl
  | cons character characters inductionHypothesis =>
    have bytes : encode (character :: characters) ++ rest =
        String.utf8EncodeChar character ++ (encode characters ++ rest) := by
      simp [encode]
    rw [bytes, scan_encodeChar, inductionHypothesis]
    rfl

/-- Encoded text is decoded as it was. -/
theorem decodeLossy_encode (characters : List Char) :
    decodeLossy (encode characters) = characters := by
  have units := scan_encode characters []
  rw [List.append_nil] at units
  simp [decodeLossy, units, scan, finish, Function.comp_def]

theorem decode?_encode (characters : List Char) :
    decode? (encode characters) = some characters := by
  have units := scan_encode characters []
  rw [List.append_nil] at units
  simp only [decode?, units, scan, finish, List.append_nil, List.mapM_map]
  exact List.mapM_pure.trans (congrArg some (List.map_id _))

/-- The bytes of two texts follow each other as the texts do. -/
theorem encode_append (left right : List Char) :
    encode (left ++ right) = encode left ++ encode right := by
  simp [encode]

/-- A byte below the lead bytes belongs to the character of the same number only. -/
theorem eq_of_mem_encodeChar {character : Char} {byte : UInt8} (ascii : byte.toNat < 0x80)
    (member : byte ∈ String.utf8EncodeChar character) : character.toNat = byte.toNat := by
  unfold String.utf8EncodeChar at member
  change character.val.toNat = byte.toNat
  generalize character.val.toNat = value at member
  simp only at member
  split at member
  · rw [List.mem_singleton.1 member, toNat_ofNat_of_lt (by omega)]
  · exfalso
    -- Every byte of the longer forms has its highest bit set.
    split at member
    · simp only [List.mem_cons, List.not_mem_nil, or_false] at member
      rcases member with rfl | rfl <;> rw [toNat_ofNat_of_lt (by omega)] at ascii <;> omega
    · split at member
      · simp only [List.mem_cons, List.not_mem_nil, or_false] at member
        rcases member with rfl | rfl | rfl <;>
          rw [toNat_ofNat_of_lt (by omega)] at ascii <;> omega
      · simp only [List.mem_cons, List.not_mem_nil, or_false] at member
        rcases member with rfl | rfl | rfl | rfl <;>
          rw [toNat_ofNat_of_lt (by omega)] at ascii <;> omega

/-- Only a character of that number puts a byte below the lead bytes into a text. -/
theorem mem_of_mem_encode {characters : List Char} {byte : UInt8} (ascii : byte.toNat < 0x80)
    (member : byte ∈ encode characters) : ∃ character ∈ characters,
      character.toNat = byte.toNat := by
  obtain ⟨character, inText, inBytes⟩ := List.mem_flatMap.1 member
  exact ⟨character, inText, eq_of_mem_encodeChar ascii inBytes⟩

end ThreadHost.Text.Utf8
