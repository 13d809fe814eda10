import ThreadHost.Proofs.Decimal.Shortest
import ThreadHost.Proofs.Text.Readers
import ThreadHost.Toml.Lexeme
/-!
# Numbers are read back

A run of digits is read as far as it goes. Behind it the point, the exponent or the end of the line
tell what kind of number it is; it is never taken for a date or a time of day, which need a dash or
a colon behind their first digits.
-/

namespace ThreadHost.Toml

/-! ## Runs of digits -/

/-- The values of the digits of a text. -/
def digitsOf (text : List Char) : List Nat := text.map fun digit => digit.toNat - '0'.toNat

/-- A text of decimal digits. -/
def AllDigits (text : List Char) : Prop := ∀ character ∈ text, character.isDigit = true

/-- What a run of digits does not go on in. -/
def EndsDigits (rest : List Char) : Prop :=
  ∀ character ∈ rest.head?, character.isDigit = false ∧ character ≠ '_'

variable {text whole part power rest : List Char} {next : Char}

theorem digitBelow_of_isDigit {digit : Char} (isDigit : digit.isDigit = true) :
    digitBelow 10 digit = some (digit.toNat - '0'.toNat) := by
  have range : 48 ≤ digit.toNat ∧ digit.toNat ≤ 57 := by
    simpa [Char.isDigit, UInt32.le_iff_toNat_le] using isDigit
  have value : '0'.toNat = 48 := rfl
  simp only [digitBelow, Text.DecimalDigit.ascii?, if_pos range, value]
  rw [Option.filter_some, if_pos (by simp; omega)]

theorem digitBelow_of_not_isDigit {digit : Char} (other : digit.isDigit = false) :
    digitBelow 10 digit = none := by
  have range : ¬(48 ≤ digit.toNat ∧ digit.toNat ≤ 57) := by
    simpa [Char.isDigit, UInt32.le_iff_toNat_le] using other
  simp only [digitBelow, Text.DecimalDigit.ascii?, if_neg range]
  rfl

/-- The number of some digits, most significant first. -/
theorem number_digitsOf (text : List Char) :
    number 10 (digitsOf text) = Nat.ofDigitChars 10 text 0 := by
  simp only [number, digitsOf, Nat.ofDigitChars_eq_foldl, List.foldl_map, Nat.mul_comm 10]

theorem moreDigits_append (all : AllDigits text) (ends : EndsDigits rest) :
    moreDigits (digitBelow 10) (text ++ rest) = (digitsOf text, rest) := by
  induction text with
  | nil =>
    rcases rest with _ | ⟨next, more⟩
    · rfl
    · obtain ⟨other, noBar⟩ := ends next rfl
      unfold moreDigits
      simp only [List.nil_append]
      split
      · contradiction
      · rename_i same
        exact absurd (List.cons.inj same).1.symm (Ne.symm noBar)
      · rename_i same
        obtain ⟨rfl, rfl⟩ := List.cons.inj same
        rw [digitBelow_of_not_isDigit other]
        rfl
  | cons digit text inductionHypothesis =>
    have isDigit := all digit List.mem_cons_self
    have noBar : digit ≠ '_' := by
      rintro rfl
      cases isDigit
    rw [List.cons_append, moreDigits]
    · rw [digitBelow_of_isDigit isDigit,
        inductionHypothesis fun other among => all other (List.mem_cons_of_mem _ among)]
      rfl
    · exact fun _ _ same => absurd same noBar

/-- A run of digits is read to its end. -/
theorem digits_append (some : text ≠ []) (all : AllDigits text) (ends : EndsDigits rest) :
    digits (digitBelow 10) (text ++ rest) = .some (digitsOf text, rest) := by
  rcases text with _ | ⟨digit, text⟩
  · exact absurd rfl some
  · simp only [List.cons_append, digits, digitBelow_of_isDigit (all digit List.mem_cons_self),
      moreDigits_append (fun other among => all other (List.mem_cons_of_mem _ among)) ends]
    rfl

/-- The digits of a number do not begin with a zero, unless it is zero. -/
theorem head_toDigits {value : Nat} (positive : 0 < value) :
    (Nat.toDigits 10 value).head? ≠ some '0' := by
  induction value using Nat.strong_induction_on with
  | _ value inductionHypothesis =>
    rw [Nat.toDigits_eq_if (by decide)]
    split
    · rename_i single
      intro zero
      have code := Nat.toNat_digitChar_of_lt_ten single
      rw [Option.some.inj zero] at code
      change 48 = 48 + value at code
      omega
    · rw [List.head?_append_of_ne_nil _ Nat.toDigits_ne_nil]
      exact inductionHypothesis (value / 10) (by omega) (by omega)

theorem allDigits_toDigits (value : Nat) : AllDigits (Nat.toDigits 10 value) := fun _ among =>
  Nat.isDigit_of_mem_toDigits (by decide) (by decide) among

theorem AllDigits.append (first : AllDigits whole) (second : AllDigits part) :
    AllDigits (whole ++ part) := fun character among =>
  (List.mem_append.1 among).elim (first character) (second character)

theorem allDigits_zeros (count : Nat) : AllDigits (List.replicate count '0') := fun _ among =>
  List.eq_of_mem_replicate among ▸ rfl

/-! ## Parts of a number -/

/-- The digits before a point do not begin with a zero, unless that is all there is. -/
structure Leading (text : List Char) : Prop where
  some : text ≠ []
  all : AllDigits text
  lead : text = ['0'] ∨ text.head? ≠ .some '0'

theorem leading_toDigits (value : Nat) : Leading (Nat.toDigits 10 value) where
  some := Nat.toDigits_ne_nil
  all := allDigits_toDigits value
  lead := by
    rcases Nat.eq_zero_or_pos value with rfl | positive
    · exact .inl (by decide)
    · exact .inr (head_toDigits positive)

/-- The leading digits are read up to the point, the exponent or the end of the line. -/
theorem leadingDigits_append (leading : Leading text) (ends : EndsDigits rest) :
    leadingDigits (text ++ rest) = .some (digitsOf text, rest) := by
  rcases leading.lead with rfl | notZero
  · rfl
  · obtain ⟨digit, text, rfl⟩ := List.exists_cons_of_ne_nil leading.some
    rw [List.cons_append, leadingDigits]
    · exact digits_append leading.some leading.all ends
    · exact fun _ same => notZero (congrArg Option.some (List.cons.inj same).1)

/-- Digits do not begin with a sign. -/
theorem sign_append (some : text ≠ []) (all : AllDigits text) :
    sign (text ++ rest) = (false, text ++ rest) := by
  obtain ⟨digit, text, rfl⟩ := List.exists_cons_of_ne_nil some
  have isDigit := all digit List.mem_cons_self
  rw [List.cons_append, sign]
  · rintro _ ⟨⟩
    cases isDigit
  · rintro _ ⟨⟩
    cases isDigit

/-- The text of an exponent: its mark, its sign and its digits. -/
def exponentOf (negative : Bool) (power : List Char) : List Char :=
  'e' :: (if negative then '-' else '+') :: power

/-- The number that the text of an exponent stands for. -/
def powerOf (negative : Bool) (power : List Char) : Int :=
  if negative then -(Nat.ofDigitChars 10 power 0 : Nat) else (Nat.ofDigitChars 10 power 0 : Nat)

theorem exponent_append (negative : Bool) (some : power ≠ []) (all : AllDigits power)
    (ends : EndsDigits rest) :
    exponent (exponentOf negative power ++ rest) = .some (powerOf negative power, rest) := by
  cases negative <;>
    simp [exponentOf, exponent, powerOf, sign, digits_append some all ends, number_digitsOf]

theorem endsDigits_feed : EndsDigits ('\n' :: rest) := by
  rintro _ ⟨⟩
  exact ⟨rfl, by decide⟩

theorem endsDigits_point : EndsDigits ('.' :: rest) := by
  rintro _ ⟨⟩
  exact ⟨rfl, by decide⟩

theorem endsDigits_exponentOf {negative : Bool} :
    EndsDigits (exponentOf negative power ++ rest) := by
  rintro _ ⟨⟩
  exact ⟨rfl, by decide⟩

/-! ## Whole numbers -/

theorem fraction_feed : fraction ('\n' :: rest) = none := rfl

theorem exponent_feed : exponent ('\n' :: rest) = none := rfl

/-- Digits alone are a whole number. -/
theorem decimal_whole (leading : Leading whole) :
    decimal (whole ++ '\n' :: rest) = .some (wholeOf false (digitsOf whole), '\n' :: rest) := by
  simp [decimal, sign_append leading.some leading.all, leadingDigits_append leading endsDigits_feed,
    fraction_feed, exponent_feed]

theorem decimal_minus (leading : Leading whole) :
    decimal ('-' :: (whole ++ '\n' :: rest)) =
      .some (wholeOf true (digitsOf whole), '\n' :: rest) := by
  simp [decimal, sign, leadingDigits_append leading endsDigits_feed, fraction_feed, exponent_feed]

/-! ## Fractions and exponents -/

theorem decimal_fraction (leading : Leading whole) (some : part ≠ []) (all : AllDigits part) :
    decimal (whole ++ '.' :: (part ++ '\n' :: rest)) =
      .some (.ok (.real (Decimal.nearestDecimal false (Nat.ofDigitChars 10 (whole ++ part) 0)
        (-part.length))), '\n' :: rest) := by
  have joined : digitsOf whole ++ digitsOf part = digitsOf (whole ++ part) := List.map_append.symm
  have count : (digitsOf part).length = part.length := List.length_map _
  simp [decimal, sign_append leading.some leading.all,
    leadingDigits_append leading endsDigits_point, fraction, digits_append some all endsDigits_feed,
    exponent_feed, joined, number_digitsOf, count]

theorem decimal_exponent (leading : Leading whole) (negative : Bool) (some : power ≠ [])
    (all : AllDigits power) :
    decimal (whole ++ (exponentOf negative power ++ '\n' :: rest)) =
      .some (.ok (.real (Decimal.nearestDecimal false (Nat.ofDigitChars 10 whole 0)
        (powerOf negative power))), '\n' :: rest) := by
  have noPoint : fraction (exponentOf negative power ++ '\n' :: rest) = none := rfl
  simp [decimal, sign_append leading.some leading.all,
    leadingDigits_append leading endsDigits_exponentOf, noPoint,
    exponent_append negative some all endsDigits_feed, number_digitsOf]

theorem decimal_both (leading : Leading whole) (some : part ≠ []) (all : AllDigits part)
    (negative : Bool) (somePower : power ≠ []) (allPower : AllDigits power) :
    decimal (whole ++ '.' :: (part ++ (exponentOf negative power ++ '\n' :: rest))) =
      .some (.ok (.real (Decimal.nearestDecimal false (Nat.ofDigitChars 10 (whole ++ part) 0)
        (powerOf negative power - part.length))), '\n' :: rest) := by
  have joined : digitsOf whole ++ digitsOf part = digitsOf (whole ++ part) := List.map_append.symm
  have count : (digitsOf part).length = part.length := List.length_map _
  simp [decimal, sign_append leading.some leading.all,
    leadingDigits_append leading endsDigits_point, fraction,
    digits_append some all endsDigits_exponentOf,
    exponent_append negative somePower allPower endsDigits_feed, joined, number_digitsOf, count]

/-- Zeros in front of the digits do not count. -/
theorem ofDigitChars_zeros (count : Nat) (text : List Char) :
    Nat.ofDigitChars 10 (List.replicate count '0' ++ text) 0 = Nat.ofDigitChars 10 text 0 := by
  induction count with
  | zero => rfl
  | succ count inductionHypothesis =>
    rw [List.replicate_succ, List.cons_append, Nat.ofDigitChars_cons]
    exact inductionHypothesis

/-- Zeros behind the digits are factors of ten. -/
theorem ofDigitChars_append_zeros (text : List Char) (count : Nat) :
    Nat.ofDigitChars 10 (text ++ List.replicate count '0') 0 =
      Nat.ofDigitChars 10 text 0 * 10 ^ count := by
  induction count with
  | zero => simp
  | succ count inductionHypothesis =>
    rw [List.replicate_succ', ← List.append_assoc, Nat.ofDigitChars_append, inductionHypothesis,
      Nat.ofDigitChars_cons, Nat.pow_succ]
    change 10 * _ + 0 = _
    ring

theorem ofDigitChars_toDigits (value : Nat) :
    Nat.ofDigitChars 10 (Nat.toDigits 10 value) 0 = value :=
  Nat.ofDigitChars_toDigits (by decide) (by decide)

/-- The text of an exponent stands for it. -/
theorem exponentText_eq (layout : Decimal.Layout) (exponent : Int) :
    ∃ power, power ≠ [] ∧ AllDigits power ∧
      'e' :: layout.exponentText exponent = exponentOf (exponent < 0) power ∧
      powerOf (exponent < 0) power = exponent := by
  have shown := allDigits_toDigits exponent.natAbs
  refine ⟨List.replicate (layout.exponentWidth - (Nat.toDigits 10 exponent.natAbs).length) '0' ++
    Nat.toDigits 10 exponent.natAbs, ?_, (allDigits_zeros _).append shown, ?_, ?_⟩
  · exact List.append_ne_nil_of_right_ne_nil _ Nat.toDigits_ne_nil
  · simp [exponentOf, Decimal.Layout.exponentText]
  · simp only [powerOf, ofDigitChars_zeros, ofDigitChars_toDigits, decide_eq_true_eq]
    split <;> omega

/-! ## The layouts -/

variable {shown : List Char}

/-- A text that begins with digits, and goes on like a number where these end. -/
def Numeral (text : List Char) : Prop :=
  ∃ whole next rest, text = whole ++ next :: rest ∧ whole ≠ [] ∧ AllDigits whole ∧
    (next = '.' ∨ next = 'e' ∨ next = '\n')

/-- A text that is read as a decimal up to the end of its line. -/
structure ReadsReal (text : List Char) (digits : Nat) (exponent : Int) : Prop where
  numeral : ∀ rest, Numeral (text ++ '\n' :: rest)
  read : ∀ rest, decimal (text ++ '\n' :: rest) =
    .some (.ok (.real (Decimal.nearestDecimal false digits exponent)), '\n' :: rest)

theorem readsReal_zeros (leading : Leading shown) (notZero : shown.head? ≠ some '0') (count : Nat) :
    ReadsReal (shown ++ List.replicate count '0' ++ ['.', '0'])
      (Nat.ofDigitChars 10 shown 0 * 10 ^ (count + 1)) (-1) := by
  have whole : Leading (shown ++ List.replicate count '0') := {
    some := List.append_ne_nil_of_left_ne_nil leading.some _
    all := leading.all.append (allDigits_zeros _)
    lead := .inr (by rwa [List.head?_append_of_ne_nil _ leading.some]) }
  refine ⟨fun rest => ⟨_, '.', '0' :: '\n' :: rest, by simp, whole.some, whole.all, .inl rfl⟩,
    fun rest => ?_⟩
  have zeros : shown ++ List.replicate count '0' ++ ['0'] =
      shown ++ List.replicate (count + 1) '0' := by
    rw [List.append_assoc, List.replicate_succ']
  have point := @decimal_fraction _ ['0'] rest whole (by decide) (allDigits_zeros 1)
  rw [zeros, ofDigitChars_append_zeros] at point
  simpa using point

theorem readsReal_inside (leading : Leading shown) (notZero : shown.head? ≠ some '0') {count : Nat}
    (some : 0 < count) (less : count < shown.length) :
    ReadsReal (shown.take count ++ '.' :: shown.drop count) (Nat.ofDigitChars 10 shown 0)
      (-(shown.length - count : Nat)) := by
  have whole : Leading (shown.take count) := {
    some := List.ne_nil_of_length_pos (by rw [List.length_take]; omega)
    all := fun _ among => leading.all _ (List.mem_of_mem_take among)
    lead := .inr (by rwa [List.head?_take, if_neg (by omega)]) }
  refine ⟨fun rest => ⟨_, '.', shown.drop count ++ '\n' :: rest, by simp, whole.some, whole.all,
    .inl rfl⟩, fun rest => ?_⟩
  have point := @decimal_fraction _ (shown.drop count) rest whole
    (List.ne_nil_of_length_pos (by rw [List.length_drop]; omega))
    fun _ among => leading.all _ (List.mem_of_mem_drop among)
  rw [List.take_append_drop, List.length_drop] at point
  simpa using point

theorem readsReal_below (leading : Leading shown) (count : Nat) :
    ReadsReal ('0' :: '.' :: (List.replicate count '0' ++ shown)) (Nat.ofDigitChars 10 shown 0)
      (-(count + shown.length : Nat)) := by
  refine ⟨fun rest => ⟨['0'], '.', _, rfl, by simp, allDigits_zeros 1, .inl rfl⟩, fun rest => ?_⟩
  have point := @decimal_fraction ['0'] (List.replicate count '0' ++ shown) rest
    ⟨by decide, allDigits_zeros 1, .inl rfl⟩ (List.append_ne_nil_of_right_ne_nil _ leading.some)
    ((allDigits_zeros count).append leading.all)
  have zeros : ['0'] ++ (List.replicate count '0' ++ shown) =
    List.replicate (count + 1) '0' ++ shown := rfl
  rw [zeros, ofDigitChars_zeros, List.length_append, List.length_replicate] at point
  simpa using point

theorem readsReal_pointed (leading : Leading shown) (notZero : shown.head? ≠ some '0')
    (layout : Decimal.Layout) (exponent : Int) :
    ReadsReal (Decimal.Layout.pointed shown ++ 'e' :: layout.exponentText exponent)
      (Nat.ofDigitChars 10 shown 0) (exponent - (shown.length - 1 : Nat)) := by
  obtain ⟨power, some, all, written, value⟩ := exponentText_eq layout exponent
  rw [written]
  rcases shown with _ | ⟨lead, _ | ⟨next, more⟩⟩
  · exact absurd rfl leading.some
  · refine ⟨fun rest => ⟨[lead], 'e', _, rfl, by simp, leading.all, .inr (.inl rfl)⟩,
      fun rest => ?_⟩
    have point := @decimal_exponent _ _ rest leading (exponent < 0) some all
    simpa [Decimal.Layout.pointed, value] using point
  · have whole : Leading [lead] := {
      some := by simp
      all := fun _ among => leading.all _ (List.mem_cons.2 (.inl (List.mem_singleton.1 among)))
      lead := .inr notZero }
    refine ⟨fun rest => ⟨[lead], '.', _, rfl, by simp, whole.all, .inl rfl⟩, fun rest => ?_⟩
    have point := @decimal_both _ (next :: more) _ rest whole (by simp)
      (fun _ among => leading.all _ (List.mem_cons_of_mem _ among)) (exponent < 0) some all
    simpa [Decimal.Layout.pointed, value] using point

/-- The digits of a positive decimal are read in each of its layouts, as a decimal of its value. -/
theorem readsReal_layOut (layout : Decimal.Layout) {number : Decimal.Scaled}
    (positive : 0 < number.digits) : ∃ read : Decimal.Scaled, read.value = number.value ∧
      ReadsReal (layout.layOut number) read.digits read.exponent := by
  obtain ⟨digits, exponent⟩ := number
  have leading := leading_toDigits digits
  have notZero := head_toDigits positive
  have total := ofDigitChars_toDigits digits
  have length := List.length_pos_of_ne_nil leading.some
  unfold Decimal.Layout.layOut
  simp only
  generalize Nat.toDigits 10 digits = shown at leading notZero total length
  -- The exponent is the one of the last digit, and that of the leading digit decides the layout.
  split
  · split
    · rename_i nonneg
      refine ⟨⟨digits * 10 ^ (exponent.toNat + 1), -1⟩, ?_,
        total ▸ readsReal_zeros leading notZero _⟩
      obtain ⟨power, rfl⟩ := Int.eq_ofNat_of_zero_le nonneg
      simp only [Decimal.Scaled.value, Int.toNat_natCast, zpow_neg_one, zpow_natCast, pow_succ]
      push_cast
      field_simp
    · split
      · have inside := @readsReal_inside _ leading notZero
          ((exponent + shown.length - 1).toNat + 1) (by omega) (by omega)
        have place : -((shown.length - ((exponent + shown.length - 1).toNat + 1) : Nat) : Int) =
          exponent := by omega
        rw [total, place] at inside
        exact ⟨⟨digits, exponent⟩, rfl, inside⟩
      · have below := readsReal_below leading ((-(exponent + shown.length - 1)).toNat - 1)
        have place : -(((-(exponent + shown.length - 1)).toNat - 1 + shown.length : Nat) : Int) =
          exponent := by omega
        rw [total, place] at below
        exact ⟨⟨digits, exponent⟩, rfl, below⟩
  · have pointed := readsReal_pointed leading notZero layout (exponent + shown.length - 1)
    have place : exponent + shown.length - 1 - ((shown.length - 1 : Nat) : Int) = exponent := by
      omega
    rw [total, place] at pointed
    exact ⟨⟨digits, exponent⟩, rfl, pointed⟩

/-! ## No moments -/

/-- A number of fixed width takes that many digits. -/
theorem of_fixedNumber {width low high value : Nat} {left : List Char}
    (read : fixedNumber width low high text = some (value, left)) :
    left = text.drop width ∧ AllDigits (text.take width) := by
  simp only [fixedNumber, Option.bind_eq_bind, Option.bind_eq_some_iff, Option.pure_def,
    Option.some.injEq, Prod.mk.injEq] at read
  obtain ⟨values, digits, -, -, -, -, -, rfl⟩ := read
  refine ⟨rfl, fun character among => ?_⟩
  obtain ⟨value, known⟩ := Text.exists_of_mapM digits among
  by_contra other
  rw [digitBelow_of_not_isDigit (Bool.not_eq_true _ ▸ other)] at known
  cases known

/-- Behind a number of fixed width the digits go on, or what is behind them follows. -/
theorem mark_of_fixedNumber {width low high value : Nat} {separator : Char} {left : List Char}
    (all : AllDigits text) (other : next.isDigit = false) (differs : separator ≠ next)
    (noDigit : separator.isDigit = false)
    (read : fixedNumber width low high (text ++ next :: rest) = some (value, left)) :
    mark separator left = none := by
  obtain ⟨rfl, digits⟩ := of_fixedNumber read
  have long : width ≤ text.length := by
    by_contra short
    have among : next ∈ (text ++ next :: rest).take width := by
      rw [List.take_append, show width - text.length = width - text.length - 1 + 1 by omega]
      simp
    rw [digits next among] at other
    cases other
  have head : ∀ character ∈ (text.drop width ++ next :: rest).head?, separator ≠ character := by
    intro character first
    rcases goes : text.drop width with _ | ⟨digit, more⟩
    · rw [goes] at first
      cases first
      exact differs
    · rw [goes] at first
      cases first
      rintro rfl
      have isDigit := all separator (List.mem_of_mem_drop (goes ▸ List.mem_cons_self))
      rw [isDigit] at noDigit
      cases noDigit
  rw [List.drop_append_of_le_length long, mark, expect, if_neg]
  rcases shape : text.drop width ++ next :: rest with _ | ⟨character, more⟩
  · exact Bool.false_ne_true
  · rw [shape] at head
    simp [List.isPrefixOf, head character rfl]

/-- What does not begin with a digit is no number of fixed width. -/
theorem fixedNumber_of_head {width low high : Nat} (other : next.isDigit = false) :
    fixedNumber (width + 1) low high (next :: rest) = none := by
  rw [Option.eq_none_iff_forall_ne_some]
  rintro ⟨value, left⟩ read
  have isDigit := (of_fixedNumber read).2 next (by simp)
  rw [isDigit] at other
  cases other

/-- What does not begin with a digit is no moment. -/
theorem moment_of_head (other : next.isDigit = false) : moment (next :: rest) = none := by
  simp [moment, date, timeOfDay, fixedNumber_of_head other]

/-- Digits are no moment, unless a dash or a colon follows them. -/
theorem moment_of_digits (all : AllDigits text) (other : next.isDigit = false)
    (noDash : '-' ≠ next) (noColon : ':' ≠ next) : moment (text ++ next :: rest) = none := by
  have noDate : date (text ++ next :: rest) = none := by
    unfold date
    rcases read : fixedNumber 4 0 9999 (text ++ next :: rest) with _ | ⟨year, left⟩
    · rfl
    · simp [mark_of_fixedNumber all other noDash rfl read]
  have noTime : timeOfDay (text ++ next :: rest) = none := by
    unfold timeOfDay
    rcases read : fixedNumber 2 0 23 (text ++ next :: rest) with _ | ⟨hour, left⟩
    · rfl
    · simp [mark_of_fixedNumber all other noColon rfl read]
  simp [moment, noDate, noTime]

/-- What begins like a decimal number has no mark of another base. -/
theorem based_of_digits (some : text ≠ []) (all : AllDigits text)
    (unmarked : next ≠ 'x' ∧ next ≠ 'b' ∧ next ≠ 'o') : based (text ++ next :: rest) = none := by
  obtain ⟨digit, text, rfl⟩ := List.exists_cons_of_ne_nil some
  have second : ∀ character ∈ (text ++ next :: rest).head?,
      character ≠ 'x' ∧ character ≠ 'b' ∧ character ≠ 'o' := by
    intro character first
    rcases text with _ | ⟨other, text⟩
    · cases first
      exact unmarked
    · cases first
      have isDigit := all character (by simp)
      refine ⟨?_, ?_, ?_⟩ <;> · rintro rfl; cases isDigit
  rw [List.cons_append]
  generalize text ++ next :: rest = behind at second
  unfold based
  split
  · rename_i same
    obtain ⟨-, rfl⟩ := List.cons.inj same
    exact absurd rfl (second _ rfl).1
  · rename_i same
    obtain ⟨-, rfl⟩ := List.cons.inj same
    exact absurd rfl (second _ rfl).2.1
  · rename_i same
    obtain ⟨-, rfl⟩ := List.cons.inj same
    exact absurd rfl (second _ rfl).2.2
  · rfl

/-- A numeral is neither a moment nor a number of another base. -/
theorem Numeral.decimalOnly (numeral : Numeral text) : moment text = none ∧ based text = none := by
  obtain ⟨whole, next, rest, rfl, some, all, follows⟩ := numeral
  rcases follows with rfl | rfl | rfl <;>
    exact ⟨moment_of_digits all rfl (by decide) (by decide), based_of_digits some all (by decide)⟩

end ThreadHost.Toml
