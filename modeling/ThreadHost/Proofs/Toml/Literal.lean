import ThreadHost.Proofs.Toml.Number
import ThreadHost.Toml.Document
import ThreadHost.Toml.Written
/-!
# Values are read back

Texts, whole numbers and doubles above zero are read back from what is written of them, up to the
end of their line.
-/

namespace ThreadHost.Toml

variable {text rest : List Char}

/-! ## Strings -/

theorem codePoint_hexDigits {code : Nat} (ascii : code < 128) (rest : List Char) :
    codePoint 4 (Text.Quoted.hexDigits 4 code ++ rest) = some (Char.ofNat code, rest) := by
  have four : ∀ code < 128, (Text.Quoted.hexDigits 4 code).length = 4 := by decide +kernel
  have values : ∀ code < 128, ((Text.Quoted.hexDigits 4 code).mapM Text.Hex.value?).map
      (fun values => values.foldl (fun sum digit => sum * 16 + digit) 0) = some code := by
    decide +kernel
  obtain ⟨digits, known, total⟩ := Option.map_eq_some_iff.1 (values code ascii)
  have cut := four code ascii
  simp only [codePoint, List.take_left' cut, List.drop_left' cut, known, cut, Option.bind_eq_bind,
    Option.bind_some, total]
  simp only [guard, if_pos, show code < 0xD800 by omega, true_or]
  rfl

/-- What an escape stands for is part of the string. -/
theorem basicString_escape {tail : List Char} {character : Char} (steps : Nat)
    (read : escape tail = some (character, text)) :
    basicString (steps + 1) ('\\' :: tail) =
      (basicString steps text).map fun (more, rest) => (character :: more, rest) := by
  simp only [basicString, read, Option.bind_eq_bind, Option.bind_some]
  cases basicString steps text <;> rfl

/-- A character is read back from what is written of it. -/
theorem basicString_writeCharacter (character : Char) (steps : Nat) (text : List Char) :
    basicString (steps + 1) (writeCharacter character ++ text) =
      (basicString steps text).map fun (more, rest) => (character :: more, rest) := by
  unfold writeCharacter
  split
  case h_7 noQuote noBackslash _ _ _ _ =>
    split
    case isTrue control =>
      have ascii : character.toNat < 128 := by
        simp only [Bool.or_eq_true, Bool.and_eq_true, decide_eq_true_eq] at control
        omega
      refine basicString_escape steps ((codePoint_hexDigits ascii text).trans ?_)
      rw [Char.ofNat_toNat]
    case isFalse free =>
      rw [List.singleton_append, basicString]
      · exact if_neg free
      · exact noQuote
      · exact noBackslash
  all_goals exact basicString_escape steps rfl

/-- A text is read back up to its closing quote. -/
theorem basicString_flatMap (characters : List Char) {steps : Nat}
    (enough : characters.length < steps) :
    basicString steps (characters.flatMap writeCharacter ++ '"' :: rest) =
      some (characters, rest) := by
  induction characters generalizing steps with
  | nil =>
    obtain ⟨steps, rfl⟩ := Nat.exists_eq_add_one.2 enough
    rfl
  | cons character characters inductionHypothesis =>
    obtain ⟨steps, rfl⟩ := Nat.exists_eq_add_one.2 (Nat.zero_lt_of_lt enough)
    rw [List.flatMap_cons, List.append_assoc, basicString_writeCharacter,
      inductionHypothesis (Nat.lt_of_succ_lt_succ enough)]
    rfl

/-- What is written of a character begins with no quote, and never returns the carriage. -/
theorem writeCharacter_shape (character : Char) : (∃ first more,
    writeCharacter character = first :: more ∧ first ≠ '"') ∧ '\r' ∉ writeCharacter character := by
  unfold writeCharacter
  split
  case h_7 noQuote _ _ _ _ noReturn =>
    split
    case isTrue control =>
      have ascii : character.toNat < 128 := by
        simp only [Bool.or_eq_true, Bool.and_eq_true, decide_eq_true_eq] at control
        omega
      have digits : ∀ code < 128, '\r' ∉ Text.Quoted.hexDigits 4 code := by decide +kernel
      exact ⟨⟨_, _, rfl, by decide⟩, by simp [digits _ ascii]⟩
    case isFalse =>
      exact ⟨⟨_, _, rfl, noQuote⟩, fun among => noReturn (List.mem_singleton.1 among).symm⟩
  all_goals exact ⟨⟨_, _, rfl, by decide⟩, by decide⟩

theorem length_le_flatMap (characters : List Char) :
    characters.length ≤ (characters.flatMap writeCharacter).length := by
  induction characters with
  | nil => exact Nat.zero_le _
  | cons character characters inductionHypothesis =>
    obtain ⟨⟨first, more, shape, -⟩, -⟩ := writeCharacter_shape character
    rw [List.flatMap_cons, shape, List.length_append, List.length_cons, List.length_cons]
    omega

theorem toList_writeString (text : String) :
    (writeString text).toList = '"' :: (text.toList.flatMap writeCharacter ++ ['"']) :=
  String.toList_ofList

/-- A text in quotes is read back. Two quotes alone are an empty text, for no third one follows. -/
theorem string_writeString (text : String) (rest : List Char) :
    string ((writeString text).toList ++ '\n' :: rest) = some (text, '\n' :: rest) := by
  have enough : text.toList.length <
      ('"' :: (text.toList.flatMap writeCharacter ++ '"' :: '\n' :: rest)).length + 1 := by
    have least := length_le_flatMap text.toList
    rw [List.length_cons, List.length_append]
    omega
  have read := @basicString_flatMap ('\n' :: rest) text.toList _ enough
  have short : ∀ more, '"' :: (text.toList.flatMap writeCharacter ++ '"' :: '\n' :: rest) ≠
      '"' :: '"' :: '"' :: more := by
    rcases text.toList with _ | ⟨character, characters⟩
    · simp
    · obtain ⟨⟨first, more, shape, noQuote⟩, -⟩ := writeCharacter_shape character
      simp [shape, noQuote]
  rw [toList_writeString, List.cons_append, List.append_assoc, List.singleton_append]
  unfold string
  simp only
  split
  case h_1 same => exact absurd same (short _)
  case h_2 same =>
    cases same
    rw [read]
    simp
  case h_3 same => cases same
  case h_4 same => cases same
  case h_5 other _ _ => exact (other _ rfl).elim

/-! ## Values -/

/-- A text that stands for a value on its line. -/
structure StandsFor (text : List Char) (datum : Datum) : Prop where
  read : ∀ bound rest, value (bound + 1) 0 (text ++ '\n' :: rest) = .ok (datum, '\n' :: rest)
  dense : ∀ character ∈ text.head?, isBlank character = false
  straight : '\r' ∉ text

theorem standsFor_writeString (text : String) :
    StandsFor (writeString text).toList (.text text) where
  read bound rest := by
    have read := string_writeString text rest
    rw [toList_writeString, List.cons_append] at read ⊢
    rw [value, if_neg (by decide)]
    simp only [read, required]
    rfl
  dense := by
    rw [toList_writeString]
    rintro _ ⟨⟩
    rfl
  straight := by
    rw [toList_writeString]
    simp only [List.mem_cons, List.mem_append, List.mem_flatMap, List.not_mem_nil, or_false, not_or,
      not_exists, not_and]
    exact ⟨by decide, fun character _ => (writeCharacter_shape character).2, by decide⟩

/-- What begins like no other value is a number. -/
theorem value_of_head {first : Char} {more : List Char}
    (plain : first ∉ ['"', '\'', '[', '\x7b', 't', 'f']) (noMoment : moment (first :: more) = none)
    (bound : Nat) : value (bound + 1) 0 (first :: more) = anyNumber (first :: more) := by
  simp only [List.mem_cons, List.not_mem_nil, or_false, not_or] at plain
  obtain ⟨noQuote, noApostrophe, noBracket, noBrace, notTrue, notFalse⟩ := plain
  have noTruth : expect "true".toList (first :: more) = none := by
    simp [expect, List.isPrefixOf, Ne.symm notTrue]
  have noFalsehood : expect "false".toList (first :: more) = none := by
    simp [expect, List.isPrefixOf, Ne.symm notFalse]
  rw [value, if_neg (by decide)]
  · simp only [noTruth, noFalsehood, noMoment]
  · exact fun _ same => noQuote (List.cons.inj same).1
  · exact fun _ same => noApostrophe (List.cons.inj same).1
  · exact fun _ same => noBracket (List.cons.inj same).1
  · exact fun _ same => noBrace (List.cons.inj same).1

theorem value_decimal {first : Char} {more : List Char} {datum : Datum}
    (plain : first ∉ ['"', '\'', '[', '\x7b', 't', 'f']) (noMoment : moment (first :: more) = none)
    (noBase : based (first :: more) = none) (bound : Nat)
    (read : decimal (first :: more) = some (.ok datum, rest)) :
    value (bound + 1) 0 (first :: more) = .ok (datum, rest) := by
  rw [value_of_head plain noMoment]
  simp only [anyNumber, noBase, read]
  rfl

theorem not_mem_of_isDigit {digit : Char} (isDigit : digit.isDigit = true) :
    digit ∉ ['"', '\'', '[', '\x7b', 't', 'f'] := by
  simp only [List.mem_cons, List.not_mem_nil, or_false, not_or]
  refine ⟨?_, ?_, ?_, ?_, ?_, ?_⟩ <;> · rintro rfl; cases isDigit

/-- A numeral is read as the decimal that it begins with. -/
theorem Numeral.value_eq (numeral : Numeral text) {datum : Datum} (bound : Nat)
    (read : decimal text = some (.ok datum, rest)) :
    value (bound + 1) 0 text = .ok (datum, rest) := by
  obtain ⟨noMoment, noBase⟩ := numeral.decimalOnly
  obtain ⟨whole, next, behind, rfl, some, all, -⟩ := numeral
  obtain ⟨digit, whole, rfl⟩ := List.exists_cons_of_ne_nil some
  exact value_decimal (not_mem_of_isDigit (all digit List.mem_cons_self)) noMoment noBase bound read

/-- A whole number that is not longer than what is read. -/
def Printable (value : Int) : Prop :=
  (Nat.toDigits 10 value.natAbs).length ≤ Text.WholeNumber.mostDigits

instance {value : Int} : Decidable (Printable value) := inferInstanceAs (Decidable (_ ≤ _))

theorem toList_toString (value : Int) : (toString value).toList =
    if 0 ≤ value then Nat.toDigits 10 value.natAbs else '-' :: Nat.toDigits 10 value.natAbs := by
  rw [Int.toString_eq_repr, Int.repr_eq_if]
  split
  · rw [Nat.toList_repr, show value.toNat = value.natAbs by omega]
  · rw [String.toList_append, Nat.toList_repr, show (-value).toNat = value.natAbs by omega]
    rfl

theorem wholeOf_toDigits {number : Nat} (negative : Bool)
    (short : (Nat.toDigits 10 number).length ≤ Text.WholeNumber.mostDigits) :
    wholeOf negative (digitsOf (Nat.toDigits 10 number)) =
      .ok (.whole (if negative then -(number : Int) else number)) := by
  have count : (digitsOf (Nat.toDigits 10 number)).length = (Nat.toDigits 10 number).length :=
    List.length_map _
  rw [wholeOf, if_neg (by omega), number_digitsOf, ofDigitChars_toDigits]

theorem AllDigits.dense (all : AllDigits text) :
    ∀ character ∈ text.head?, isBlank character = false := by
  intro character first
  have isDigit := all character (List.mem_of_mem_head? first)
  simp only [isBlank, Bool.or_eq_false_iff, decide_eq_false_iff_not]
  constructor <;> · rintro rfl; cases isDigit

theorem AllDigits.straight (all : AllDigits text) : '\r' ∉ text := fun among =>
  Bool.false_ne_true (all _ among)

/-- A whole number is read back. -/
theorem standsFor_toString {value : Int} (printable : Printable value) :
    StandsFor (toString value).toList (.whole value) := by
  have leading := leading_toDigits value.natAbs
  rw [toList_toString]
  split
  case isTrue nonneg =>
    refine ⟨fun bound rest => ?_, leading.all.dense, leading.all.straight⟩
    have numeral : Numeral (Nat.toDigits 10 value.natAbs ++ '\n' :: rest) :=
      ⟨_, '\n', rest, rfl, leading.some, leading.all, .inr (.inr rfl)⟩
    refine numeral.value_eq bound ((decimal_whole leading).trans ?_)
    rw [wholeOf_toDigits false printable, if_neg Bool.false_ne_true, Int.natAbs_of_nonneg nonneg]
  case isFalse negative =>
    refine ⟨fun bound rest => ?_, by rintro _ ⟨⟩; rfl, ?_⟩
    · refine value_decimal (by decide) (moment_of_head rfl) rfl bound
        ((decimal_minus leading).trans ?_)
      rw [wholeOf_toDigits true printable, if_pos rfl, Int.ofNat_natAbs_of_nonpos (by omega),
        neg_neg]
    · simp [leading.all.straight]

/-- No number returns the carriage. -/
theorem not_mem_layOut (layout : Decimal.Layout) (number : Decimal.Scaled) :
    '\r' ∉ layout.layOut number := by
  have straight : ∀ value, '\r' ∉ Nat.toDigits 10 value := fun value =>
    (allDigits_toDigits value).straight
  have front : ∀ value count, '\r' ∉ (Nat.toDigits 10 value).take count := fun value count among =>
    straight value (List.mem_of_mem_take among)
  have behind : ∀ value count, '\r' ∉ (Nat.toDigits 10 value).drop count := fun value count among =>
    straight value (List.mem_of_mem_drop among)
  have pointed : '\r' ∉ Decimal.Layout.pointed (Nat.toDigits 10 number.digits) := by
    have all := straight number.digits
    rcases digits : Nat.toDigits 10 number.digits with _ | ⟨lead, _ | ⟨next, more⟩⟩
    · exact List.not_mem_nil
    · rwa [digits] at all
    · rw [digits] at all
      simp only [Decimal.Layout.pointed, List.mem_cons, not_or] at all ⊢
      exact ⟨all.1, by decide, all.2⟩
  have exponent : ∀ power, '\r' ∉ layout.exponentText power := by
    intro power
    unfold Decimal.Layout.exponentText
    split <;> simp [straight]
  unfold Decimal.Layout.layOut
  simp only
  split
  · split
    · simp [straight]
    · split <;> simp [straight, front, behind]
  · simp [pointed, exponent]

/-- A numeral begins with a digit. -/
theorem Numeral.dense (numeral : Numeral (text ++ '\n' :: rest)) :
    ∀ character ∈ text.head?, isBlank character = false := by
  intro character first
  obtain ⟨whole, next, behind, same, some, all, -⟩ := numeral
  have head := congrArg List.head? same
  rw [List.head?_append_of_ne_nil _ some, List.head?_append, first] at head
  exact all.dense character head.symm

/-- A double above zero is read back. -/
theorem standsFor_text {value : Float} (positive : 0 < value) :
    StandsFor (Decimal.text value).toList (.real value) := by
  rcases Decimal.text_of_pos positive with ⟨infinite, same⟩ | ⟨number, digits, written, reads⟩
  · rw [infinite]
    refine ⟨fun bound rest => ?_, by rintro _ ⟨⟩; rfl, by decide⟩
    have read : special ("inf".toList ++ '\n' :: rest) = some (.real value, '\n' :: rest) := by
      rw [← same]
      rfl
    have noDecimal : decimal ("inf".toList ++ '\n' :: rest) = none := rfl
    refine (value_of_head (by decide) (moment_of_head rfl) bound).trans ?_
    have number : anyNumber ("inf".toList ++ '\n' :: rest) =
        required (special ("inf".toList ++ '\n' :: rest)) := rfl
    exact number.trans (congrArg required read)
  · obtain ⟨read, same, readsReal⟩ := readsReal_layOut Decimal.plain digits
    rw [written, String.toList_ofList]
    refine ⟨fun bound rest => ?_, (readsReal.numeral []).dense, not_mem_layOut _ _⟩
    have back := readsReal.read rest
    rw [reads read same] at back
    exact (readsReal.numeral rest).value_eq bound back

/-- The values that a table of settings holds: texts, whole numbers that can be printed, and doubles
above zero. -/
def Legible : Datum → Prop
  | .text _ => True
  | .whole value => Printable value
  | .real value => 0 < value
  | _ => False

/-- What is written of a legible value stands for it. -/
theorem standsFor_literal {datum : Datum} (legible : Legible datum) :
    ∃ written, literal 0 datum = .ok written ∧ StandsFor written.toList datum := by
  cases datum with
  | text value => exact ⟨_, by rw [literal], standsFor_writeString value⟩
  | whole value => exact ⟨_, by rw [literal], standsFor_toString legible⟩
  | real value => exact ⟨_, by rw [literal], standsFor_text legible⟩
  | nothing | truth | moment | list | table => exact legible.elim

end ThreadHost.Toml
