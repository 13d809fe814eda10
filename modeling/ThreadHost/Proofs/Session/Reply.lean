import ThreadHost.Proofs.Session.Reference
/-!
# Well-formed replies

A device that keeps to the protocol answers a command with content lines and prompts in any order,
and then with `Done` or an error line. `cut_render_append` cuts what it sends into the lines that
it wrote, and `execute_reply` shows that a command which meets such a reply at the front of
the output gets its outcome and leaves whatever stands behind it.
-/

namespace ThreadHost

/-- How a line ends on the wire. -/
inductive LineEnd where
  | feed
  | returnFeed

/-- The characters of a line end before the line feed. -/
def LineEnd.leading : LineEnd → List Char
  | .feed => []
  | .returnFeed => ['\r']

/-- The bytes of a line of text. -/
def LineEnd.close (text : String) (lineEnd : LineEnd) : Bytes :=
  Text.Utf8.encode (text.toList ++ lineEnd.leading) ++ [Line.feed]

/-- A line that does not close an answer. -/
inductive BodyLine where
  | content (text : String) (oneLine : '\n' ∉ text.toList)
    (trimmed : text.toList.getLast? ≠ some '\r') (notDone : text ≠ "Done")
    (notError : Line.beginsWith text "Error:" = false)
    (notPrompt : Line.beginsWith text "> " = false)
  | prompt (text : String) (oneLine : '\n' ∉ text.toList)
    (isPrompt : Line.beginsWith text "> " = true)

/-- A line that closes an answer. -/
inductive ClosingLine where
  | done
  | error (text : String) (oneLine : '\n' ∉ text.toList)
    (trimmed : text.toList.getLast? ≠ some '\r')
    (isError : Line.beginsWith text "Error:" = true)

/-- A reply to one command. -/
structure Reply where
  body : List (BodyLine × LineEnd)
  closing : ClosingLine
  closingEnd : LineEnd

namespace BodyLine

/-- The text of a line. -/
def text : BodyLine → String
  | .content text .. | .prompt text .. => text

/-- The content of a line; a prompt has none. -/
def content? : BodyLine → Option String
  | .content text .. => some text
  | .prompt .. => none

end BodyLine

/-- The text of a line that closes an answer. -/
def ClosingLine.text : ClosingLine → String
  | .done => "Done"
  | .error text .. => text

namespace Reply

/-- The raw lines of the body. -/
def bodyRaws (reply : Reply) : List Bytes :=
  reply.body.map fun line => line.2.close line.1.text

/-- The raw lines of a reply. -/
def raws (reply : Reply) : List Bytes :=
  reply.bodyRaws ++ [reply.closingEnd.close reply.closing.text]

/-- The bytes of a reply. -/
def render (reply : Reply) : Bytes := reply.raws.flatten

/-- The bytes of replies one after another. -/
def renderAll (replies : List Reply) : Bytes := replies.flatMap render

/-- What a reply answers to a command: its content without the prompts, or its error line. -/
def outcome (reply : Reply) (command : String) : Except Failure (List String) :=
  match reply.closing with
  | .done => .ok (reply.body.filterMap fun line => line.1.content?)
  | .error text .. => .error (.deviceError command (some text) none none)

end Reply

namespace LineEnd

/-- A line of text is decoded without what ends it. -/
theorem decode_close (text : String) (lineEnd : LineEnd) :
    Line.decode (lineEnd.close text) =
      String.ofList (Text.Blank.dropEndWhile Line.isLineEnd text.toList) := by
  have bytes : lineEnd.close text =
      Text.Utf8.encode (text.toList ++ (lineEnd.leading ++ ['\n'])) := by
    rw [close, ← List.append_assoc, Text.Utf8.encode_append (text.toList ++ lineEnd.leading)]
    rfl
  rw [bytes]
  exact Line.decode_encode_append (by cases lineEnd <;> simp [leading, Line.isLineEnd])

/-- A text without a line end behind it is decoded as it was. -/
theorem decode_close_of_trimmed {text : String} (oneLine : '\n' ∉ text.toList)
    (trimmed : text.toList.getLast? ≠ some '\r') (lineEnd : LineEnd) :
    Line.decode (lineEnd.close text) = text := by
  rw [decode_close, Line.dropEndWhile_eq_self, String.ofList_toList]
  intro character last
  have member := List.mem_of_getLast? last
  have noFeed : character ≠ '\n' := fun equal => oneLine (equal ▸ member)
  have noReturn : character ≠ '\r' := fun equal => trimmed (equal ▸ last)
  simp [Line.isLineEnd, noFeed, noReturn]

/-- A text that begins with the prompt is a prompt, whatever follows. -/
theorem classify_of_prompt {line : String} {more : List Char}
    (characters : line.toList = '>' :: ' ' :: more) : Line.classify line = .prompt := by
  have notDone : line ≠ "Done" := by
    rintro rfl
    exact absurd (List.cons.inj characters).1 (by decide)
  simp [Line.classify, notDone, Line.beginsWith, characters]

/-- A prompt is decoded as a prompt, whatever line ends it holds. -/
theorem classify_decode_close_of_prompt {text : String}
    (isPrompt : Line.beginsWith text "> " = true) (lineEnd : LineEnd) :
    Line.classify (Line.decode (lineEnd.close text)) = .prompt := by
  obtain ⟨more, whole⟩ := List.isPrefixOf_iff_prefix.1 isPrompt
  rw [decode_close, ← whole, Line.dropEndWhile_append_of_trimmed more (by simp [Line.isLineEnd])]
  exact classify_of_prompt String.toList_ofList

/-- Lines of text are cut apart as they were written. -/
theorem cut_append (lines : List (String × LineEnd))
    (oneLine : ∀ line ∈ lines, '\n' ∉ line.1.toList) (rest : Bytes) :
    Line.cut ((lines.map fun line => line.2.close line.1).flatten ++ rest) =
      (lines.map fun line => line.2.close line.1) ++ Line.cut rest := by
  induction lines with
  | nil => rfl
  | cons line lines inductionHypothesis =>
    have others := inductionHypothesis fun other member =>
      oneLine other (List.mem_cons_of_mem _ member)
    have oneFeed : Line.feed ∉ Text.Utf8.encode (line.1.toList ++ line.2.leading) := by
      apply Line.feed_not_mem_encode
      have inText := oneLine line List.mem_cons_self
      cases line.2 <;> simpa [leading] using inText
    rw [List.map_cons, List.flatten_cons, close, List.append_assoc, List.append_assoc,
      List.cons_append, List.nil_append, Line.cut_line_append oneFeed, others, List.cons_append]

end LineEnd

namespace BodyLine

/-- A line of an answer is one line. -/
theorem oneLine (line : BodyLine) : '\n' ∉ line.text.toList := by
  cases line <;> assumption

/-- How a line of an answer is read. -/
theorem classify (line : BodyLine) (lineEnd : LineEnd) :
    Line.classify (Line.decode (lineEnd.close line.text)) =
      if line.content?.isSome then .content else .prompt := by
  cases line with
  | content text oneLine trimmed notDone notError notPrompt =>
    have whole : Line.decode (lineEnd.close (content text oneLine trimmed notDone notError
        notPrompt).text) = text := LineEnd.decode_close_of_trimmed oneLine trimmed lineEnd
    rw [whole]
    simp [Line.classify, notDone, notError, notPrompt, content?]
  | prompt text oneLine isPrompt =>
    exact LineEnd.classify_decode_close_of_prompt isPrompt lineEnd

/-- A line of an answer does not close it. -/
theorem opens (line : BodyLine) (lineEnd : LineEnd) :
    Line.closes (Line.decode (lineEnd.close line.text)) = false := by
  rw [Line.closes, classify]
  cases line.content? <;> rfl

/-- A line of an answer adds its content, if it has any. -/
theorem content_close (line : BodyLine) (lineEnd : LineEnd) :
    Session.content [lineEnd.close line.text] = line.content?.toList := by
  rw [Session.content_singleton, line.classify]
  cases line with
  | content text oneLine trimmed =>
    exact congrArg (fun line => [line]) (LineEnd.decode_close_of_trimmed oneLine trimmed lineEnd)
  | prompt => rfl

end BodyLine

namespace ClosingLine

/-- A line that closes an answer is one line. -/
theorem oneLine (line : ClosingLine) : '\n' ∉ line.text.toList := by
  cases line with
  | done => decide
  | error text oneLine trimmed isError => exact oneLine

/-- A line that closes an answer is decoded as it was. -/
theorem decode_close (line : ClosingLine) (lineEnd : LineEnd) :
    Line.decode (lineEnd.close line.text) = line.text := by
  cases line with
  | done => exact LineEnd.decode_close_of_trimmed (by decide) (by decide) lineEnd
  | error text oneLine trimmed isError =>
    exact LineEnd.decode_close_of_trimmed oneLine trimmed lineEnd

/-- What a line that closes an answer means. -/
theorem classify (line : ClosingLine) :
    Line.classify line.text = match line with
      | .done => .done
      | .error .. => .error := by
  cases line with
  | done => rfl
  | error text oneLine trimmed isError =>
    have notDone : text ≠ "Done" := by
      rintro rfl
      exact absurd isError (by decide)
    simp [Line.classify, ClosingLine.text, notDone, isError]

end ClosingLine

namespace Reply

variable (reply : Reply)

/-- The content among the lines of the body. -/
theorem content_bodyRaws :
    Session.content reply.bodyRaws = reply.body.filterMap fun line => line.1.content? := by
  obtain ⟨body, closing, closingEnd⟩ := reply
  unfold bodyRaws
  induction body with
  | nil => rfl
  | cons line body inductionHypothesis =>
    rw [List.map_cons, Session.content_cons, inductionHypothesis, BodyLine.content_close,
      List.filterMap_cons]
    cases line.1.content? <;> rfl

/-- A reply that was sent is cut into its lines, and what follows it into others. -/
theorem cut_render_append (rest : Bytes) :
    Line.cut (reply.render ++ rest) = reply.raws ++ Line.cut rest := by
  have oneLine : ∀ line ∈ reply.body.map (fun line => (line.1.text, line.2)) ++
      [(reply.closing.text, reply.closingEnd)], '\n' ∉ line.1.toList := by
    intro line member
    rcases List.mem_append.1 member with inBody | last
    · obtain ⟨bodyLine, -, rfl⟩ := List.mem_map.1 inBody
      exact bodyLine.1.oneLine
    · rw [List.mem_singleton.1 last]
      exact reply.closing.oneLine
  have lines := LineEnd.cut_append _ oneLine rest
  simpa [render, raws, bodyRaws, Function.comp_def] using lines

/-- A reply is the first answer in front of anything, and gives its outcome. -/
theorem reference_render_append (command : String) (rest : Bytes) :
    Session.firstAnswer (Line.cut (reply.render ++ rest)) = reply.raws ∧
      Session.referenceOutcome command (Line.cut (reply.render ++ rest)) =
        reply.outcome command := by
  have opens : ∀ raw ∈ reply.bodyRaws, Line.closes (Line.decode raw) = false := by
    intro raw member
    obtain ⟨line, -, rfl⟩ := List.mem_map.1 member
    exact line.1.opens line.2
  have decoded := reply.closing.decode_close reply.closingEnd
  have kind := reply.closing.classify
  have closes : Line.closes (Line.decode (reply.closingEnd.close reply.closing.text)) =
      true := by
    rw [decoded, Line.closes, kind]
    cases reply.closing <;> rfl
  have reference := Session.reference_of_closing command opens closes (Line.cut rest)
  rw [cut_render_append, raws, List.append_assoc, List.singleton_append]
  refine ⟨reference.1, reference.2.trans ?_⟩
  rw [decoded, kind, content_bodyRaws, outcome]
  cases reply.closing <;> rfl

end Reply

namespace Session

variable {session : Session}

/-- A command meets the reply at the front of the output: it has its outcome, and what follows
the reply is left for the commands to come. -/
theorem execute_reply (steady : session.streams.Steady) (calm : session.Calm)
    {command : String} (single : Command.isSingleLine command = true) {reply : Reply}
    {rest : Bytes} (front : session.streams.unread = reply.render ++ rest) :
    ∃ after, (execute command).perform session = (reply.outcome command, after) ∧
      after.streams.unread = rest ∧ after.streams.Steady ∧ after.Calm := by
  obtain ⟨after, performed, reading⟩ := execute_reading steady calm single
  have reference := reply.reference_render_append command rest
  rw [← front] at reference
  rw [reference.2] at performed
  rw [reference.1] at reading
  have unread : reply.render ++ rest = reply.render ++ after.streams.unread :=
    front.symm.trans reading.unread
  exact ⟨after, performed, (List.append_cancel_left unread).symm,
    reading.steady (steady_sent steady command), reading.calm (calm.sent command)⟩

end Session

end ThreadHost
