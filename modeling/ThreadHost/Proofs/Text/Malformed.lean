import ThreadHost.Proofs.Text.Utf8
/-!
# Malformed pieces

What a sequence of arbitrary bytes says as text, without a reader: it is divided from its front into
the bytes of characters and, where no character stands, into malformed pieces, each as long as it
can be the beginning of a character. `Decodes` is this division. There is one text for every
sequence, and the reader finds it (`decodes_iff`), although it never looks ahead.
-/

namespace ThreadHost.Text.Utf8

/-- The beginning of a character, up to all of its bytes. -/
def Begins (piece : List UInt8) : Prop :=
  ∃ character : Char, piece <+: String.utf8EncodeChar character

/-- The malformed piece at the front of some bytes, their maximal subpart. No character stands
there. The piece is a single byte or the beginning of a character, and nothing longer that stands
there begins one. -/
structure Malformed (piece rest : List UInt8) : Prop where
  nonempty : piece ≠ []
  noCharacter : ∀ character, ¬String.utf8EncodeChar character <+: piece ++ rest
  begins : piece.length = 1 ∨ Begins piece
  longest : ∀ longer, longer <+: piece ++ rest → piece.length < longer.length → ¬Begins longer

/-- The text of some bytes: each character for its bytes, and one replacement character for each
malformed piece. -/
inductive Decodes : List UInt8 → List Char → Prop where
  | nil : Decodes [] []
  | character (character : Char) {rest : List UInt8} {text : List Char}
      (behind : Decodes rest text) :
      Decodes (String.utf8EncodeChar character ++ rest) (character :: text)
  | malformed {piece rest : List UInt8} {text : List Char} (front : Malformed piece rest)
      (behind : Decodes rest text) : Decodes (piece ++ rest) ('\uFFFD' :: text)

variable {bytes held piece rest line longer : List UInt8} {text : List Char} {units : List Unit}
  {state : State} {bits missing : Nat} {low high byte lead second third fourth : UInt8}
  {one other : Char}

/-- A character has at least one byte. -/
theorem encodeChar_ne_nil (character : Char) : String.utf8EncodeChar character ≠ [] := by
  unfold String.utf8EncodeChar
  simp only
  split
  · simp
  · split
    · simp
    · split <;> simp

/-- The bytes of two characters at the same front are those of one character. -/
theorem eq_of_encodeChar_append {left : List UInt8}
    (same : String.utf8EncodeChar one ++ rest = String.utf8EncodeChar other ++ left) :
    one = other ∧ rest = left := by
  have units := scan_encodeChar one rest
  rw [same, scan_encodeChar] at units
  obtain rfl : other = one := Option.some.inj (List.cons.inj units).1
  exact ⟨rfl, (List.append_cancel_left same)⟩

/-- Where two malformed pieces stand, neither is the longer one. -/
theorem Malformed.length_le {otherPiece otherRest : List UInt8} (front : Malformed piece rest)
    (also : Malformed otherPiece otherRest) (same : piece ++ rest = otherPiece ++ otherRest) :
    otherPiece.length ≤ piece.length := by
  refine Nat.le_of_not_lt fun longer => ?_
  have length := List.length_pos_iff.2 front.nonempty
  have there : otherPiece <+: piece ++ rest := same ▸ List.prefix_append _ _
  rcases also.begins with single | begins
  · omega
  · exact front.longest otherPiece there longer begins

/-- The same bytes have the same text. -/
theorem Decodes.eq_of_eq {otherBytes : List UInt8} {otherText : List Char}
    (decodes : Decodes bytes text) (also : Decodes otherBytes otherText)
    (same : bytes = otherBytes) : text = otherText := by
  induction decodes generalizing otherBytes otherText with
  | nil =>
    cases also with
    | nil => rfl
    | character other behind =>
      exact absurd (List.append_eq_nil_iff.1 same.symm).1 (encodeChar_ne_nil other)
    | malformed front behind =>
      exact absurd (List.append_eq_nil_iff.1 same.symm).1 front.nonempty
  | character one behind inductionHypothesis =>
    cases also with
    | nil => exact absurd (List.append_eq_nil_iff.1 same).1 (encodeChar_ne_nil one)
    | character other alsoBehind =>
      obtain ⟨rfl, sameRest⟩ := eq_of_encodeChar_append same
      rw [inductionHypothesis alsoBehind sameRest]
    | malformed front alsoBehind =>
      exact absurd (same ▸ List.prefix_append _ _) (front.noCharacter one)
  | malformed front behind inductionHypothesis =>
    cases also with
    | nil => exact absurd (List.append_eq_nil_iff.1 same).1 front.nonempty
    | character other alsoBehind =>
      exact absurd (same ▸ List.prefix_append _ _) (front.noCharacter other)
    | malformed alsoFront alsoBehind =>
      have lengths := Nat.le_antisymm (alsoFront.length_le front same.symm)
        (front.length_le alsoFront same)
      rw [inductionHypothesis alsoBehind (List.append_inj same lengths).2]

/-! ## Characters and their beginnings -/

/-- The number of the character of a number. -/
theorem toNat_val_ofNat {value : Nat} (valid : value.isValidChar) :
    (Char.ofNat value).val.toNat = value := by
  rw [Char.ofNat, dif_pos valid]
  rfl

/-- A byte with this value. -/
theorem ofNat_eq_of_toNat (byte : UInt8) {value : Nat} (same : byte.toNat = value) :
    UInt8.ofNat value = byte := by
  rw [← same, UInt8.ofNat_toNat]

/-- The bytes of a character of one byte. -/
theorem encodeChar_one (ascii : byte.toNat < 0x80) :
    String.utf8EncodeChar (Char.ofNat byte.toNat) = [byte] := by
  rw [String.utf8EncodeChar, toNat_val_ofNat (.inl (by omega))]
  rw [if_pos (by omega), UInt8.ofNat_toNat]

/-- The bytes of a character of two bytes. -/
theorem encodeChar_two (lower : 0xC2 ≤ lead.toNat) (upper : lead.toNat < 0xE0)
    (last : IsTail second) :
    String.utf8EncodeChar (Char.ofNat ((lead.toNat - 0xC0) * 64 + (second.toNat - 0x80))) =
      [lead, second] := by
  simp only [IsTail, UInt8.le_iff_toNat_le, UInt8.reduceToNat] at last
  rw [String.utf8EncodeChar, toNat_val_ofNat (.inl (by omega))]
  rw [if_neg (by omega), if_pos (by omega), ofNat_eq_of_toNat lead (by omega),
    ofNat_eq_of_toNat second (by omega)]

/-- The bytes of a character of three bytes. -/
theorem encodeChar_three (lower : 0xE0 ≤ lead.toNat) (upper : lead.toNat < 0xF0)
    (tail : IsTail second) (shortest : lead.toNat = 0xE0 → 0xA0 ≤ second)
    (noSurrogate : lead.toNat = 0xED → second ≤ 0x9F) (last : IsTail third) :
    String.utf8EncodeChar (Char.ofNat (((lead.toNat - 0xE0) * 64 + (second.toNat - 0x80)) * 64 +
      (third.toNat - 0x80))) = [lead, second, third] := by
  simp only [IsTail, UInt8.le_iff_toNat_le, UInt8.reduceToNat] at tail shortest noSurrogate last
  rw [String.utf8EncodeChar, toNat_val_ofNat (by simp only [Nat.isValidChar]; omega)]
  rw [if_neg (by omega), if_neg (by omega), if_pos (by omega),
    ofNat_eq_of_toNat lead (by omega), ofNat_eq_of_toNat second (by omega),
    ofNat_eq_of_toNat third (by omega)]

/-- The bytes of a character of four bytes. -/
theorem encodeChar_four (lower : 0xF0 ≤ lead.toNat) (upper : lead.toNat < 0xF5)
    (tail : IsTail second) (shortest : lead.toNat = 0xF0 → 0x90 ≤ second)
    (inUnicode : lead.toNat = 0xF4 → second ≤ 0x8F) (middle : IsTail third)
    (last : IsTail fourth) :
    String.utf8EncodeChar (Char.ofNat ((((lead.toNat - 0xF0) * 64 + (second.toNat - 0x80)) * 64 +
      (third.toNat - 0x80)) * 64 + (fourth.toNat - 0x80))) = [lead, second, third, fourth] := by
  simp only [IsTail, UInt8.le_iff_toNat_le, UInt8.reduceToNat] at tail middle last
  simp only [UInt8.le_iff_toNat_le, UInt8.reduceToNat] at shortest inUnicode
  rw [String.utf8EncodeChar, toNat_val_ofNat (by simp only [Nat.isValidChar]; omega)]
  rw [if_neg (by omega), if_neg (by omega), if_neg (by omega),
    ofNat_eq_of_toNat lead (by omega), ofNat_eq_of_toNat second (by omega),
    ofNat_eq_of_toNat third (by omega), ofNat_eq_of_toNat fourth (by omega)]

/-- Bytes that are held, and the state that they have led to. -/
inductive Leads : List UInt8 → State → Prop where
  | two {lead : UInt8} {bits : Nat} (lower : 0xC2 ≤ lead.toNat) (upper : lead.toNat < 0xE0)
      (payload : bits = lead.toNat - 0xC0) : Leads [lead] (.pending bits 1 0x80 0xBF)
  | three {lead : UInt8} {bits : Nat} (lower : 0xE0 ≤ lead.toNat) (upper : lead.toNat < 0xF0)
      (payload : bits = lead.toNat - 0xE0) :
      Leads [lead] (.pending bits 2 (if lead.toNat = 0xE0 then 0xA0 else 0x80)
        (if lead.toNat = 0xED then 0x9F else 0xBF))
  | four {lead : UInt8} {bits : Nat} (lower : 0xF0 ≤ lead.toNat) (upper : lead.toNat < 0xF5)
      (payload : bits = lead.toNat - 0xF0) :
      Leads [lead] (.pending bits 3 (if lead.toNat = 0xF0 then 0x90 else 0x80)
        (if lead.toNat = 0xF4 then 0x8F else 0xBF))
  | more {held : List UInt8} {bits next missing : Nat} {low high byte : UInt8}
      (before : Leads held (.pending bits (missing + 2) low high))
      (inRange : low ≤ byte ∧ byte ≤ high) (payload : next = bits * 64 + (byte.toNat - 0x80)) :
      Leads (held ++ [byte]) (.pending next (missing + 1) 0x80 0xBF)

/-- A first byte is a character, begins a longer one, or neither. -/
theorem first_cases (byte : UInt8) :
    (byte.toNat < 0x80 ∧ first byte = ([some (Char.ofNat byte.toNat)], .ready)) ∨
      first byte = ([none], .ready) ∨ ∃ state, first byte = ([], state) ∧ Leads [byte] state := by
  by_cases ascii : byte.toNat < 0x80
  · exact .inl ⟨ascii, by rw [first, if_pos ascii]⟩
  right
  by_cases two : byte.toNat < 0xC2
  · exact .inl (by rw [first, if_neg ascii, if_pos two])
  by_cases three : byte.toNat < 0xE0
  · exact .inr ⟨_, first_of_two (by omega) three, .two (by omega) three rfl⟩
  by_cases four : byte.toNat < 0xF0
  · exact .inr ⟨_, first_of_three (by omega) four, .three (by omega) four rfl⟩
  by_cases five : byte.toNat < 0xF5
  · exact .inr ⟨_, first_of_four (by omega) five, .four (by omega) five rfl⟩
  left
  unfold first
  rw [if_neg ascii, if_neg two, if_neg three, if_neg (by omega), if_neg (by omega), if_neg four,
    if_neg (by omega), if_neg (by omega), if_neg (by omega)]

/-- The range of the next byte is never empty, and within that of the bytes that can stand behind a
first one. -/
theorem Leads.range (leads : Leads held (.pending bits missing low high)) :
    0x80 ≤ low ∧ low ≤ high ∧ high ≤ 0xBF := by
  cases leads with
  | two => decide
  | three => split <;> split <;> first | decide | omega
  | four => split <;> split <;> first | decide | omega
  | more => decide

/-- One to three bytes are missing. -/
theorem Leads.missing_bounds (leads : Leads held (.pending bits missing low high)) :
    1 ≤ missing ∧ missing ≤ 3 := by
  generalize pending : State.pending bits missing low high = state at leads
  induction leads generalizing bits missing low high with
  | two => cases pending; decide
  | three => cases pending; decide
  | four => cases pending; decide
  | more before inRange payload inductionHypothesis =>
    cases pending
    have bounds := inductionHypothesis rfl
    omega

/-- What was held is read without a unit. -/
theorem Leads.scan_append (leads : Leads held state) (rest : List UInt8) :
    scan .ready (held ++ rest) = scan state rest := by
  induction leads generalizing rest with
  | two lower upper payload =>
    rw [payload]
    exact scan_lead (first_of_two lower upper) rest
  | three lower upper payload =>
    rw [payload]
    exact scan_lead (first_of_three lower upper) rest
  | four lower upper payload =>
    rw [payload]
    exact scan_lead (first_of_four lower upper) rest
  | more before inRange payload inductionHypothesis =>
    rw [List.append_assoc, inductionHypothesis, payload]
    exact scan_pending_more inRange rest

/-- A byte in a range that is narrowed under some conditions. -/
theorem isTail_of_narrowed {low? high? : Prop} [Decidable low?] [Decidable high?]
    (lowest : 0x80 ≤ low) (highest : high ≤ 0xBF)
    (inRange : (if low? then low else 0x80) ≤ byte ∧ byte ≤ if high? then high else 0xBF) :
    IsTail byte ∧ (low? → low ≤ byte) ∧ (high? → byte ≤ high) := by
  obtain ⟨above, below⟩ := inRange
  refine ⟨⟨?_, ?_⟩, fun narrow => ?_, fun narrow => ?_⟩
  · split at above
    · exact UInt8.le_trans lowest above
    · exact above
  · split at below
    · exact UInt8.le_trans below highest
    · exact below
  · rwa [if_pos narrow] at above
  · rwa [if_pos narrow] at below

/-- The last byte that is missing completes the bytes of the character. -/
theorem Leads.encodeChar_last (leads : Leads held (.pending bits 1 low high))
    (inRange : low ≤ byte ∧ byte ≤ high) :
    String.utf8EncodeChar (Char.ofNat (bits * 64 + (byte.toNat - 0x80))) = held ++ [byte] := by
  cases leads with
  | two lower upper payload =>
    rw [payload]
    exact encodeChar_two lower upper inRange
  | more second inSecond payload =>
    rw [payload]
    cases second with
    | three lower upper payload =>
      obtain ⟨tail, shortest, noSurrogate⟩ := isTail_of_narrowed (by decide) (by decide) inSecond
      rw [payload]
      exact encodeChar_three lower upper tail shortest noSurrogate inRange
    | more third inThird payload =>
      rw [payload]
      cases third with
      | four lower upper payload =>
        obtain ⟨tail, shortest, inUnicode⟩ := isTail_of_narrowed (by decide) (by decide) inThird
        rw [payload]
        exact encodeChar_four lower upper tail shortest inUnicode inSecond inRange
      | more fourth =>
        have bounds := fourth.missing_bounds
        omega

/-- What is held begins a character: the lowest bytes that may follow complete it. -/
theorem Leads.begins (leads : Leads held (.pending bits missing low high)) : Begins held := by
  induction missing generalizing held bits low high with
  | zero =>
    have bounds := leads.missing_bounds
    omega
  | succ missing inductionHypothesis =>
    have inRange : low ≤ low ∧ low ≤ high := ⟨UInt8.le_refl low, leads.range.2.1⟩
    cases missing with
    | zero => exact ⟨_, leads.encodeChar_last inRange ▸ List.prefix_append held [low]⟩
    | succ missing =>
      obtain ⟨character, begins⟩ := inductionHypothesis (leads.more inRange rfl)
      exact ⟨character, (List.prefix_append held [low]).trans begins⟩

/-! ## The reader finds the division -/

/-- Where the reader gives a malformed unit first, no character stands. -/
theorem not_encodeChar_prefix (scanned : scan .ready bytes = none :: units) (character : Char) :
    ¬String.utf8EncodeChar character <+: bytes := by
  rintro ⟨rest, rfl⟩
  rw [scan_encodeChar] at scanned
  cases scanned

/-- A piece is malformed if the reader says so whatever follows the byte behind it. -/
theorem malformed_of_scan (nonempty : piece ≠ []) (begins : piece.length = 1 ∨ Begins piece)
    (scanned : ∀ more : List UInt8, more.head? = rest.head? →
      ∃ units, scan .ready (piece ++ more) = none :: units) : Malformed piece rest where
  nonempty := nonempty
  noCharacter := by
    obtain ⟨units, first⟩ := scanned rest rfl
    exact not_encodeChar_prefix first
  begins := begins
  longest := by
    rintro longer there more ⟨character, behind, whole⟩
    obtain ⟨next, rfl⟩ :=
      List.prefix_of_prefix_length_le (List.prefix_append piece rest) there (Nat.le_of_lt more)
    obtain ⟨last, rfl⟩ := (List.prefix_append_right_inj piece).1 there
    cases next with
    | nil => simp at more
    | cons byte next =>
      obtain ⟨units, first⟩ := scanned (byte :: next ++ behind) rfl
      rw [← List.append_assoc, whole] at first
      exact not_encodeChar_prefix first character List.prefix_rfl

/-- A byte that does not go on with what is held closes it as malformed. -/
theorem scan_pending_stop (outside : ¬(low ≤ byte ∧ byte ≤ high)) (rest : List UInt8) :
    scan (.pending bits missing low high) (byte :: rest) = none :: scan .ready (byte :: rest) := by
  simp [scan, step, outside]

/-- A byte that begins no character is malformed. -/
theorem scan_neither (neither : first byte = ([none], .ready)) (rest : List UInt8) :
    scan .ready (byte :: rest) = none :: scan .ready rest := by
  simp [scan, step, neither]

/-- What is held is a malformed piece where the next byte, if there is one, does not go on with
it. -/
theorem Leads.malformed (leads : Leads held (.pending bits missing low high))
    (stops : ∀ byte ∈ rest.head?, ¬(low ≤ byte ∧ byte ≤ high)) : Malformed held rest := by
  have nonempty : held ≠ [] := by cases leads <;> simp
  refine malformed_of_scan nonempty (.inr leads.begins) fun more same => ?_
  rw [leads.scan_append]
  cases more with
  | nil => exact ⟨[], rfl⟩
  | cons byte more => exact ⟨_, scan_pending_stop (stops byte same.symm) more⟩

/-- A byte that begins no character is a malformed piece. -/
theorem malformed_of_first (neither : first byte = ([none], .ready)) (rest : List UInt8) :
    Malformed [byte] rest :=
  malformed_of_scan (List.cons_ne_nil _ _) (.inl rfl) fun more _ => ⟨_, scan_neither neither more⟩

/-- What the reader makes of some bytes in a state. -/
def readFrom (state : State) (bytes : List UInt8) : List Char :=
  (scan state bytes).map (·.getD '\uFFFD')

/-- The reader finds the text of some bytes, and with what is held in front of them. -/
structure Found (rest : List UInt8) : Prop where
  ready : Decodes rest (readFrom .ready rest)
  pending : ∀ held state, Leads held state → Decodes (held ++ rest) (readFrom state rest)

/-- At the end nothing is left, or what is held is malformed. -/
theorem found_nil : Found [] where
  ready := .nil
  pending held state leads := by
    cases state with
    | ready => cases leads
    | pending bits missing low high => exact .malformed (leads.malformed (by simp)) .nil

/-- A first byte is a character, malformed, or held. -/
theorem Found.first (found : Found rest) (byte : UInt8) :
    Decodes (byte :: rest) (readFrom .ready (byte :: rest)) := by
  unfold readFrom
  rcases first_cases byte with ⟨ascii, -⟩ | neither | ⟨state, begins, leads⟩
  · have decoded := Decodes.character (Char.ofNat byte.toNat) found.ready
    rw [encodeChar_one ascii] at decoded
    rw [scan_one ascii]
    exact decoded
  · rw [scan_neither neither]
    exact .malformed (malformed_of_first neither rest) found.ready
  · rw [scan_lead begins]
    exact found.pending [byte] state leads

/-- A byte behind what is held completes a character, is held as well, or closes what is held, and
then is read as a first one. -/
theorem Found.next (found : Found rest) (byte : UInt8)
    (leads : Leads held (.pending bits missing low high)) :
    Decodes (held ++ byte :: rest) (readFrom (.pending bits missing low high) (byte :: rest)) := by
  unfold readFrom
  by_cases inRange : low ≤ byte ∧ byte ≤ high
  · match missing, leads.missing_bounds with
    | 1, _ =>
      have decoded := Decodes.character (Char.ofNat (bits * 64 + (byte.toNat - 0x80))) found.ready
      rw [leads.encodeChar_last inRange, List.append_assoc] at decoded
      rw [scan_pending_last inRange, List.map_cons, Option.getD_some]
      exact decoded
    | missing + 2, _ =>
      have decoded := found.pending _ _ (leads.more inRange rfl)
      rw [List.append_assoc] at decoded
      rw [scan_pending_more inRange]
      exact decoded
  · rw [scan_pending_stop inRange]
    refine .malformed (leads.malformed ?_) (found.first byte)
    rintro _ ⟨⟩
    exact inRange

/-- The reader finds the text of all bytes, by induction over them. -/
theorem found_all (rest : List UInt8) : Found rest := by
  induction rest with
  | nil => exact found_nil
  | cons byte rest inductionHypothesis =>
    refine ⟨inductionHypothesis.first byte, fun held state leads => ?_⟩
    cases state with
    | ready => cases leads
    | pending bits missing low high => exact inductionHypothesis.next byte leads

/-- Every byte sequence has one text, which the reader finds. -/
theorem decodes_iff : Decodes bytes text ↔ decodeLossy bytes = text := by
  have found : Decodes bytes (decodeLossy bytes) := (found_all bytes).ready
  constructor
  · exact fun decodes => found.eq_of_eq decodes rfl
  · rintro rfl
    exact found

/-! ## Bytes that stand for themselves -/

/-- What stands at the front of some bytes with a certain byte in between stands before that byte,
or holds it. -/
theorem prefix_or_mem {more : List UInt8} (there : longer <+: line ++ byte :: more) :
    longer <+: line ∨ byte ∈ longer := by
  have upTo : line ++ [byte] <+: line ++ byte :: more := ⟨more, by simp⟩
  rcases List.prefix_or_prefix_of_prefix there upTo with within | beyond
  · rcases List.prefix_concat_iff.1 within with rfl | before
    · exact .inr (by simp)
    · exact .inl before
  · exact .inr (beyond.subset (by simp))

/-- A character that has a byte below the lead bytes is that byte. -/
theorem encodeChar_of_mem (ascii : byte.toNat < 0x80)
    (member : byte ∈ String.utf8EncodeChar one) : String.utf8EncodeChar one = [byte] := by
  rw [← Char.ofNat_toNat one, eq_of_mem_encodeChar ascii member, encodeChar_one ascii]

/-- A malformed piece is no shorter where a byte below the lead bytes comes later. -/
theorem Malformed.append {more : List UInt8} (front : Malformed piece rest)
    (ascii : byte.toNat < 0x80) : Malformed piece (rest ++ byte :: more) := by
  have length := List.length_pos_iff.2 front.nonempty
  -- A character that holds the byte is the byte alone, so none reaches it from the front.
  refine ⟨front.nonempty, fun character there => ?_, front.begins, fun longer there more => ?_⟩
  · rw [← List.append_assoc] at there
    rcases prefix_or_mem there with before | member
    · exact front.noCharacter character before
    · refine front.noCharacter character (List.prefix_of_prefix_length_le there ?_ ?_)
      · exact List.prefix_append _ _
      · rw [encodeChar_of_mem ascii member, List.length_append, List.length_singleton]
        omega
  · rintro ⟨character, begins⟩
    rw [← List.append_assoc] at there
    rcases prefix_or_mem there with before | member
    · exact front.longest longer before more ⟨character, begins⟩
    · rw [encodeChar_of_mem ascii (begins.subset member)] at begins
      have short := begins.length_le
      rw [List.length_singleton] at short
      omega

/-- A byte below the lead bytes stands for itself wherever it comes: what is in front of it is
decoded as if nothing followed, and what follows as if nothing came before. -/
theorem Decodes.append {more : List UInt8} {behind : List Char} (decodes : Decodes line text)
    (ascii : byte.toNat < 0x80) (after : Decodes more behind) :
    Decodes (line ++ byte :: more) (text ++ Char.ofNat byte.toNat :: behind) := by
  induction decodes with
  | nil =>
    have decoded := Decodes.character (Char.ofNat byte.toNat) after
    rw [encodeChar_one ascii] at decoded
    exact decoded
  | character character _ inductionHypothesis =>
    rw [List.append_assoc]
    exact .character character inductionHypothesis
  | malformed front _ inductionHypothesis =>
    rw [List.append_assoc]
    exact .malformed (front.append ascii) inductionHypothesis

/-- The same of the reader. -/
theorem decodeLossy_append (ascii : byte.toNat < 0x80) (line more : List UInt8) :
    decodeLossy (line ++ byte :: more) =
      decodeLossy line ++ Char.ofNat byte.toNat :: decodeLossy more :=
  decodes_iff.1 ((decodes_iff.2 rfl).append ascii (decodes_iff.2 rfl))

/-- A character below the lead bytes comes from the byte of its number. -/
theorem mem_of_mem_decodeLossy (ascii : byte.toNat < 0x80)
    (member : Char.ofNat byte.toNat ∈ decodeLossy bytes) : byte ∈ bytes := by
  have decodes : Decodes bytes (decodeLossy bytes) := decodes_iff.2 rfl
  generalize decodeLossy bytes = text at member decodes
  induction decodes with
  | nil => cases member
  | character character _ inductionHypothesis =>
    rcases List.mem_cons.1 member with same | later
    · rw [← same, encodeChar_one ascii]
      exact List.mem_cons_self
    · exact List.mem_append_right _ (inductionHypothesis later)
  | malformed _ _ inductionHypothesis =>
    rcases List.mem_cons.1 member with same | later
    · have number := toNat_val_ofNat (.inl (by omega) : byte.toNat.isValidChar)
      have replacement : '\uFFFD'.val.toNat = 0xFFFD := rfl
      rw [same, replacement] at number
      omega
    · exact List.mem_append_right _ (inductionHypothesis later)

/-- No bytes but none decode to nothing. -/
theorem decodeLossy_eq_nil_iff : decodeLossy bytes = [] ↔ bytes = [] := by
  constructor
  · intro empty
    cases decodes_iff.2 empty
    rfl
  · rintro rfl
    rfl

end ThreadHost.Text.Utf8
