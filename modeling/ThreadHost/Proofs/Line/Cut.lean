import ThreadHost.Line
import ThreadHost.Proofs.Text.Utf8
/-!
# The lines of a byte sequence

`cut` says at once which raw lines reading a sequence line by line gives. It loses nothing
(`flatten_cut`), each read takes the first of its lines (`cut_eq_next`), and a line that was
written with a line feed behind it is cut off again as it was (`cut_line_append`).
-/

namespace ThreadHost.Line

/-- The raw lines of a byte sequence: it is cut behind each line feed, and what is left without
one is a last line. -/
def cut : List UInt8 → List (List UInt8)
  | [] => []
  | byte :: rest =>
    if byte = feed then [byte] :: cut rest
    else match cut rest with
      | [] => [[byte]]
      | line :: lines => (byte :: line) :: lines

/-- Whether a line ends an answer. -/
def closes (line : String) : Bool :=
  match classify line with
  | .done | .error => true
  | .prompt | .content => false

/-- Only `Done` closes a successful answer. -/
theorem classify_eq_done_iff {line : String} : classify line = .done ↔ line = "Done" := by
  unfold classify
  split
  · simp_all
  · split
    · simp_all
    · split <;> simp_all

/-- Only a line that begins like one is an error line. -/
theorem classify_eq_error_iff {line : String} :
    classify line = .error ↔ beginsWith line "Error:" = true := by
  unfold classify
  split
  · rename_i isDone
    subst isDone
    decide
  · split
    · simp_all
    · split <;> simp_all

/-- A line that closes an answer is `Done` or an error line. -/
theorem closes_iff {line : String} :
    closes line = true ↔ line = "Done" ∨ beginsWith line "Error:" = true := by
  rw [← classify_eq_done_iff, ← classify_eq_error_iff, closes]
  cases classify line <;> simp

theorem closes_of_done {line : String} (done : classify line = .done) : closes line = true :=
  closes_iff.2 (.inl (classify_eq_done_iff.1 done))

theorem closes_of_error {line : String} (error : classify line = .error) : closes line = true :=
  closes_iff.2 (.inr (classify_eq_error_iff.1 error))

/-- The raw lines follow each other as the bytes did. -/
@[simp] theorem flatten_cut (bytes : List UInt8) : (cut bytes).flatten = bytes := by
  induction bytes with
  | nil => rfl
  | cons byte rest inductionHypothesis =>
    by_cases ends : byte = feed
    · simp [cut, ends, inductionHypothesis]
    · cases lines : cut rest with
      | nil => simp_all [cut]
      | cons line lines => simp_all [cut]

/-- Nothing is cut into no lines only. -/
theorem cut_eq_nil_iff {bytes : List UInt8} : cut bytes = [] ↔ bytes = [] := by
  constructor
  · intro none
    have whole := flatten_cut bytes
    rw [none] at whole
    exact whole.symm
  · rintro rfl
    rfl

/-- The first raw line is the one that is read next. -/
theorem cut_eq_next {bytes : List UInt8} (more : bytes ≠ []) :
    cut bytes = (next bytes).1 :: cut (next bytes).2 := by
  induction bytes with
  | nil => exact absurd rfl more
  | cons byte rest inductionHypothesis =>
    by_cases ends : byte = feed
    · simp [cut, next, ends]
    · by_cases last : rest = []
      · simp [cut, next, ends, last]
      · simp [cut, next, ends, inductionHypothesis last]

/-- A line that was written with a line feed behind it is cut off as it was. -/
theorem cut_line_append {line : List UInt8} (oneLine : feed ∉ line) (rest : List UInt8) :
    cut (line ++ feed :: rest) = (line ++ [feed]) :: cut rest := by
  induction line with
  | nil => simp [cut]
  | cons byte line inductionHypothesis =>
    have inside : byte ≠ feed := fun equal => oneLine (equal ▸ List.mem_cons_self)
    have others := inductionHypothesis fun member => oneLine (List.mem_cons_of_mem _ member)
    simp [cut, inside, others]

/-- A text without a line feed has none among its bytes. -/
theorem feed_not_mem_encode {characters : List Char} (oneLine : '\n' ∉ characters) :
    feed ∉ Text.Utf8.encode characters := by
  intro member
  obtain ⟨character, inText, number⟩ := Text.Utf8.mem_of_mem_encode (by decide) member
  have feedCharacter : character = '\n' := by
    rw [← Char.ofNat_toNat character, number]
    rfl
  exact oneLine (feedCharacter ▸ inText)

/-- Characters that end a line fall away from the end of a text. -/
theorem dropEndWhile_append {text ends : List Char} (lineEnds : ∀ c ∈ ends, isLineEnd c) :
    Text.Blank.dropEndWhile isLineEnd (text ++ ends) =
      Text.Blank.dropEndWhile isLineEnd text := by
  unfold Text.Blank.dropEndWhile
  rw [List.reverse_append, List.dropWhile_append_of_pos]
  intro character member
  exact lineEnds character (List.mem_reverse.1 member)

/-- A text that does not end in a line end stays whole. -/
theorem dropEndWhile_eq_self {text : List Char}
    (trimmed : ∀ c ∈ text.getLast?, isLineEnd c = false) :
    Text.Blank.dropEndWhile isLineEnd text = text := by
  unfold Text.Blank.dropEndWhile
  rcases List.eq_nil_or_concat text with rfl | ⟨start, last, rfl⟩
  · rfl
  · have kept : isLineEnd last = false := trimmed last (by simp)
    simp [kept]

/-- What stands before the last character that ends no line is kept. -/
theorem dropEndWhile_append_of_trimmed {start : List Char} (rest : List Char)
    (trimmed : ∀ c ∈ start.getLast?, isLineEnd c = false) :
    Text.Blank.dropEndWhile isLineEnd (start ++ rest) =
      start ++ Text.Blank.dropEndWhile isLineEnd rest := by
  have whole : start.reverse.dropWhile isLineEnd = start.reverse := by
    rw [← List.reverse_reverse (start.reverse.dropWhile isLineEnd)]
    exact congrArg List.reverse (dropEndWhile_eq_self trimmed)
  unfold Text.Blank.dropEndWhile
  rw [List.reverse_append, List.dropWhile_append]
  split
  next none =>
    rw [List.isEmpty_iff] at none
    rw [whole, List.reverse_reverse, none, List.reverse_nil, List.append_nil]
  next => rw [List.reverse_append, List.reverse_reverse]

/-- A text that was sent with line ends behind it is decoded without them. -/
theorem decode_encode_append {text ends : List Char} (lineEnds : ∀ c ∈ ends, isLineEnd c) :
    decode (Text.Utf8.encode (text ++ ends)) =
      String.ofList (Text.Blank.dropEndWhile isLineEnd text) := by
  rw [decode, Text.Utf8.decodeLossy_encode, dropEndWhile_append lineEnds]

end ThreadHost.Line
