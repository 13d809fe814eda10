import ThreadHost.Proofs.Line.Cut
import ThreadHost.Proofs.Session.Access
import ThreadHost.Proofs.Text.Malformed
/-!
# Lines and their text

Cutting what a device sends into lines and decoding it can be done in either order
(`map_decode_cut`), whatever the bytes are. The reason is that a line end is no part of a
longer character: it closes whatever incomplete character stands before it, and stands for itself.
`decode_readLines` says the same of a wire that is read line by line.
-/

namespace ThreadHost

namespace Line

variable {α : Type} [DecidableEq α] {last : α} {piece : List α} {bytes ends : List UInt8}

/-- A sequence cut behind each item of one kind. What is left without one is a last piece. -/
def cutBehind (last : α) : List α → List (List α)
  | [] => []
  | item :: rest =>
    if item = last then [item] :: cutBehind last rest
    else match cutBehind last rest with
      | [] => [[item]]
      | piece :: pieces => (item :: piece) :: pieces

/-- A text without the line ends that close it. -/
def trimmed (text : List Char) : String := String.ofList (Text.Blank.dropEndWhile isLineEnd text)

/-- The bytes that end a line. -/
def IsEnd (byte : UInt8) : Prop := byte = 13 ∨ byte = feed

/-- The raw lines are the bytes cut behind each line feed. -/
theorem cut_eq_cutBehind (bytes : List UInt8) : cut bytes = cutBehind feed bytes := by
  induction bytes with
  | nil => rfl
  | cons byte rest inductionHypothesis =>
    rw [cut, cutBehind, inductionHypothesis]
    cases cutBehind feed rest <;> rfl

/-- A piece is cut off together with the item that ends it. -/
theorem cutBehind_append (inside : last ∉ piece) (rest : List α) :
    cutBehind last (piece ++ last :: rest) = (piece ++ [last]) :: cutBehind last rest := by
  induction piece with
  | nil => simp [cutBehind]
  | cons item piece inductionHypothesis =>
    have different : item ≠ last := fun equal => inside (equal ▸ List.mem_cons_self)
    have others := inductionHypothesis fun member => inside (List.mem_cons_of_mem _ member)
    simp [cutBehind, different, others]

/-- Where no item ends a piece, all there is is one piece. -/
theorem cutBehind_of_not_mem (more : piece ≠ []) (inside : last ∉ piece) :
    cutBehind last piece = [piece] := by
  induction piece with
  | nil => exact absurd rfl more
  | cons item piece inductionHypothesis =>
    have different : item ≠ last := fun equal => inside (equal ▸ List.mem_cons_self)
    by_cases single : piece = []
    · simp [cutBehind, different, single]
    · have others :=
        inductionHypothesis single fun member => inside (List.mem_cons_of_mem _ member)
      simp [cutBehind, different, others]

/-- A line end is one byte and one character. -/
theorem IsEnd.ascii {byte : UInt8} (ends : IsEnd byte) : byte.toNat < 0x80 := by
  rcases ends with rfl | rfl <;> decide

/-- A text has a line feed only where the bytes have one. -/
theorem feed_not_mem_decodeLossy (inside : feed ∉ bytes) :
    '\n' ∉ Text.Utf8.decodeLossy bytes :=
  fun member => inside (@Text.Utf8.mem_of_mem_decodeLossy bytes feed (by decide) member)

/-- A line feed is decoded to itself, between what stands before it and what follows. -/
theorem decodeLossy_feed (line rest : List UInt8) :
    Text.Utf8.decodeLossy (line ++ feed :: rest) =
      Text.Utf8.decodeLossy line ++ '\n' :: Text.Utf8.decodeLossy rest :=
  Text.Utf8.decodeLossy_append (by decide) line rest

/-- The texts of the pieces are the pieces of the text. By induction over the lines: there is one
line up to the first line feed, and the rest is shorter. -/
theorem map_decodeLossy_cutBehind (bytes : List UInt8) :
    (cutBehind feed bytes).map Text.Utf8.decodeLossy =
      cutBehind '\n' (Text.Utf8.decodeLossy bytes) := by
  by_cases more : feed ∈ bytes
  · obtain ⟨line, rest, whole, inside⟩ := List.eq_append_cons_of_mem more
    have shorter : rest.length < bytes.length := by
      rw [whole, List.length_append, List.length_cons]
      omega
    have others := map_decodeLossy_cutBehind rest
    have first : Text.Utf8.decodeLossy (line ++ [feed]) = Text.Utf8.decodeLossy line ++ ['\n'] :=
      decodeLossy_feed line []
    rw [whole, cutBehind_append inside, decodeLossy_feed, List.map_cons, first, others,
      cutBehind_append (feed_not_mem_decodeLossy inside)]
  · by_cases empty : bytes = []
    · rw [empty]
      rfl
    · have text := mt Text.Utf8.decodeLossy_eq_nil_iff.1 empty
      rw [cutBehind_of_not_mem empty more, List.map_singleton,
        cutBehind_of_not_mem text (feed_not_mem_decodeLossy more)]
termination_by bytes.length

/-- The texts of the raw lines are the lines of the text. -/
theorem map_decode_cut (bytes : List UInt8) :
    (cut bytes).map decode = (cutBehind '\n' (Text.Utf8.decodeLossy bytes)).map trimmed := by
  have parts : decode = trimmed ∘ Text.Utf8.decodeLossy := rfl
  rw [cut_eq_cutBehind, ← map_decodeLossy_cutBehind, List.map_map, parts]

/-- Bytes that end a line are decoded to characters that do. -/
theorem isLineEnd_of_mem_decodeLossy (lineEnds : ∀ byte ∈ ends, IsEnd byte) :
    ∀ character ∈ Text.Utf8.decodeLossy ends, isLineEnd character := by
  induction ends with
  | nil => exact fun _ member => nomatch member
  | cons byte ends inductionHypothesis =>
    obtain ⟨closing, others⟩ := List.forall_mem_cons.1 lineEnds
    have decoded : Text.Utf8.decodeLossy (byte :: ends) =
        Char.ofNat byte.toNat :: Text.Utf8.decodeLossy ends :=
      Text.Utf8.decodeLossy_append closing.ascii [] ends
    rw [decoded]
    refine List.forall_mem_cons.2 ⟨?_, inductionHypothesis others⟩
    rcases closing with rfl | rfl <;> decide

/-- Line ends behind a raw line say nothing. -/
theorem decode_append_ends (raw : List UInt8) (lineEnds : ∀ byte ∈ ends, IsEnd byte) :
    decode (raw ++ ends) = decode raw := by
  cases ends with
  | nil => rw [List.append_nil]
  | cons byte others =>
    have closing := (List.forall_mem_cons.1 lineEnds).1
    have decoded : Text.Utf8.decodeLossy (raw ++ byte :: others) =
        Text.Utf8.decodeLossy raw ++ Text.Utf8.decodeLossy (byte :: others) := by
      rw [Text.Utf8.decodeLossy_append closing.ascii raw]
      exact congrArg _ (Text.Utf8.decodeLossy_append closing.ascii [] others).symm
    rw [decode, decoded, dropEndWhile_append (isLineEnd_of_mem_decodeLossy lineEnds), decode]

end Line

namespace Streams

/-- Streams whose output is open and whose reads never fail. -/
structure Readable (streams : Streams) : Prop where
  outputOpen : streams.outputClosed = false
  reads : ∀ number, streams.readFailure number = none

end Streams

namespace Wire

/-- Read line by line until nothing is left, at most so many times: the raw lines. -/
def readLines : Nat → Act Wire (List Bytes)
  | 0 => pure []
  | reads + 1 => do
    let raw ← readLine
    if raw = [] then pure [] else (raw :: ·) <$> readLines reads

variable {wire : Wire} {reads : Nat}

/-- A read that does not fail takes the next raw line, and leaves the others to be read. -/
theorem perform_readLine_of_readable (readable : wire.streams.Readable) :
    readLine.perform wire = (.ok (Line.next wire.streams.unread).1, wire.taken) ∧
      wire.taken.streams.Readable ∧
      wire.taken.streams.unread = (Line.next wire.streams.unread).2 := by
  have works : wire.streams.readFault? = none := by
    simp [Streams.readFault?, readable.outputOpen, readable.reads]
  refine ⟨by rw [perform_readLine, works], ⟨?_, ?_⟩, rfl⟩
  · simp [taken, tried, readable.outputOpen]
  · simp [taken, tried, readable.outputOpen, readable.reads]

/-- Reading line by line gives all the raw lines. -/
theorem perform_readLines (readable : wire.streams.Readable)
    (enough : wire.streams.unread.length < reads) :
    ((readLines reads).perform wire).1 = .ok (Line.cut wire.streams.unread) := by
  induction reads generalizing wire with
  | zero => exact absurd enough (Nat.not_lt_zero _)
  | succ reads inductionHypothesis =>
    obtain ⟨read, stillReadable, left⟩ := perform_readLine_of_readable readable
    rw [readLines, Act.perform_bind, read]
    by_cases ended : wire.streams.unread = []
    · simp [ended, Line.next, Line.cut]
    · have shorter := Line.length_next_snd_lt ended
      have others := inductionHypothesis stillReadable (by rw [left]; omega)
      simp only [if_neg (Line.next_fst_ne_nil ended), Act.perform_map, others, left]
      rw [Line.cut_eq_next ended]
      rfl

/-- Reading a stream line by line and decoding each line is the same as decoding the whole stream
and cutting its text into lines, each without the line ends that close it. This is because a line
end stands for itself, whatever stands around it; and line ends behind a raw line say nothing. -/
theorem decode_readLines (readable : wire.streams.Readable)
    (enough : wire.streams.unread.length < reads) :
    (∃ text, Text.Utf8.Decodes wire.streams.unread text ∧
      (∀ other, Text.Utf8.Decodes wire.streams.unread other → other = text) ∧
      ((readLines reads).perform wire).1.map (List.map Line.decode) =
        .ok ((Line.cutBehind '\n' text).map Line.trimmed)) ∧
    (∀ line rest lineText restText byte, Line.IsEnd byte →
      Text.Utf8.Decodes line lineText → Text.Utf8.Decodes rest restText →
      Text.Utf8.Decodes (line ++ byte :: rest)
        (lineText ++ Char.ofNat byte.toNat :: restText)) ∧
    ∀ raw ends : Bytes, (∀ byte ∈ ends, Line.IsEnd byte) →
      Line.decode (raw ++ ends) = Line.decode raw := by
  refine ⟨⟨Text.Utf8.decodeLossy wire.streams.unread, ?_, fun other decodes => ?_, ?_⟩, ?_, ?_⟩
  · exact Text.Utf8.decodes_iff.2 rfl
  · exact (Text.Utf8.decodes_iff.1 decodes).symm
  · rw [perform_readLines readable enough, ← Line.map_decode_cut]
    rfl
  · intro line rest lineText restText byte ends lineDecodes restDecodes
    exact lineDecodes.append ends.ascii restDecodes
  · exact fun raw ends lineEnds => Line.decode_append_ends raw lineEnds

/-- A stream in which two characters are cut off in front of a line end: one of three bytes after
its second byte, one of two bytes after its first. -/
theorem decode_readLines_cutOff :
    ((readLines 9).perform
      { streams := { unread := [0x61, 0xE2, 0x82, 0x0A, 0xC3, 0x0D, 0x0A, 0x62] } }).1.map
        (List.map Line.decode) = .ok ["a\uFFFD", "\uFFFD", "b"] := by
  obtain ⟨⟨text, decodes, -, read⟩, -, -⟩ := @decode_readLines
    { streams := { unread := [0x61, 0xE2, 0x82, 0x0A, 0xC3, 0x0D, 0x0A, 0x62] } } 9 ⟨rfl, fun _ => rfl⟩ (by decide)
  rw [read, ← Text.Utf8.decodes_iff.1 decodes]
  exact congrArg Except.ok (by decide +kernel)

end Wire

end ThreadHost
