import ThreadHost.Text.Utf8
import ThreadHost.Text.Blank
/-!
# Response lines

The device answers a command with lines of text. `Done` closes a successful answer and a line
that begins with `Error:` a failed one; a line that begins with the prompt is an echo; every
other line is content.
-/

namespace ThreadHost.Line

/-- What a line means in an answer. -/
inductive Kind where
  | done
  | error
  | prompt
  | content
  deriving Repr, DecidableEq

/-- Whether a text begins with the characters of another. -/
def beginsWith (text start : String) : Bool := start.toList.isPrefixOf text.toList

/-- The meaning of a decoded line. -/
def classify (line : String) : Kind :=
  if line = "Done" then .done
  else if beginsWith line "Error:" then .error
  else if beginsWith line "> " then .prompt
  else .content

/-- The characters that end a line. -/
def isLineEnd (character : Char) : Bool := character = '\r' || character = '\n'

/-- The text of a raw line, without the line ends that close it. -/
def decode (raw : List UInt8) : String :=
  String.ofList (Text.Blank.dropEndWhile isLineEnd (Text.Utf8.decodeLossy raw))

/-- The byte that ends a raw line. -/
def feed : UInt8 := 10

/-- Split a byte sequence behind its first line feed: the first raw line, and the rest. Without a
line feed everything belongs to the line. -/
def next : List UInt8 → List UInt8 × List UInt8
  | [] => ([], [])
  | byte :: rest =>
    if byte = feed then ([byte], rest) else (byte :: (next rest).1, (next rest).2)

/-- A raw line and what follows it are the whole sequence. -/
theorem next_append (bytes : List UInt8) : (next bytes).1 ++ (next bytes).2 = bytes := by
  induction bytes with
  | nil => rfl
  | cons byte rest inductionHypothesis =>
    by_cases ends : byte = feed <;> simp [next, ends, inductionHypothesis]

/-- A sequence that is not used up has a line that is not empty. -/
theorem next_fst_ne_nil {bytes : List UInt8} (more : bytes ≠ []) : (next bytes).1 ≠ [] := by
  cases bytes with
  | nil => exact absurd rfl more
  | cons byte rest => by_cases ends : byte = feed <;> simp [next, ends]

/-- Reading a line leaves less than there was. -/
theorem length_next_snd_lt {bytes : List UInt8} (more : bytes ≠ []) :
    (next bytes).2.length < bytes.length := by
  have parts := congrArg List.length (next_append bytes)
  have line := List.length_pos_iff.2 (next_fst_ne_nil more)
  simp only [List.length_append] at parts
  omega

end ThreadHost.Line
