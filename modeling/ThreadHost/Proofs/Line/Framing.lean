import ThreadHost.Proofs.Line.Cut
import ThreadHost.Proofs.Session.Access
/-!
# Commands on the wire

A command of one line is one line for the device, whatever its characters are: its bytes have no
line feed but the one behind them, and are read back as the command (`cut_flatten_commandBytes`,
`decode_commandBytes`). A text of several lines is no command.
-/

namespace ThreadHost.Command

variable {command : String} {commands : List String}

/-- A text is one line if it has neither of the characters that end one. -/
theorem isSingleLine_iff :
    isSingleLine command ↔ '\r' ∉ command.toList ∧ '\n' ∉ command.toList := by
  simp only [isSingleLine, Line.isLineEnd, Bool.not_eq_true', List.any_eq_false, Bool.or_eq_true,
    decide_eq_true_eq]
  constructor
  · intro none
    exact ⟨fun member => none _ member (.inl rfl), fun member => none _ member (.inr rfl)⟩
  · rintro ⟨noReturn, noFeed⟩ character member (rfl | rfl)
    · exact noReturn member
    · exact noFeed member

/-- A text of one line is a command, which goes out with a line feed behind it. -/
theorem encode_of_single (single : isSingleLine command) :
    encode command = .ok (Session.commandBytes command) := if_pos single

/-- A text of several lines is refused. -/
theorem encode_of_several (several : ¬isSingleLine command) :
    encode command = .error (.severalLines command) := if_neg several

/-- Texts of one line are all commands. -/
theorem mapM_encode (single : ∀ command ∈ commands, isSingleLine command) :
    commands.mapM encode = .ok (commands.map Session.commandBytes) := by
  induction commands with
  | nil => rfl
  | cons command commands inductionHypothesis =>
    obtain ⟨first, others⟩ := List.forall_mem_cons.1 single
    rw [List.mapM_cons, encode_of_single first, inductionHypothesis others]
    rfl

/-- What goes out for commands is cut into the bytes of each of them. -/
theorem cut_flatten_commandBytes (single : ∀ command ∈ commands, isSingleLine command) :
    Line.cut (commands.map Session.commandBytes).flatten =
      commands.map Session.commandBytes := by
  induction commands with
  | nil => rfl
  | cons command commands inductionHypothesis =>
    obtain ⟨first, others⟩ := List.forall_mem_cons.1 single
    have inside := Line.feed_not_mem_encode (isSingleLine_iff.1 first).2
    rw [List.map_cons, List.flatten_cons, Session.commandBytes, List.append_assoc,
      List.singleton_append, Line.cut_line_append inside, inductionHypothesis others]

/-- The bytes of a command are read as the command. -/
theorem decode_commandBytes (single : isSingleLine command) :
    Line.decode (Session.commandBytes command) = command := by
  have trimmed : ∀ character ∈ command.toList.getLast?, Line.isLineEnd character = false := by
    simp only [isSingleLine, Bool.not_eq_true', List.any_eq_false, Bool.not_eq_true] at single
    exact fun character last => single character (List.mem_of_getLast? last)
  have bytes : Session.commandBytes command = Text.Utf8.encode (command.toList ++ ['\n']) := by
    rw [Text.Utf8.encode_append]
    rfl
  rw [bytes, Line.decode_encode_append (List.forall_mem_singleton.2 rfl),
    Line.dropEndWhile_eq_self trimmed, String.ofList_toList]

/-- Texts without line ends are accepted as commands. What is sent for them falls into one line for
each, in their order, and is read back as they were. A text with a line end anywhere is rejected. -/
theorem encode_framing :
    (∀ commands : List String,
      (∀ command ∈ commands, '\r' ∉ command.toList ∧ '\n' ∉ command.toList) →
      ∃ frames, commands.mapM encode = .ok frames ∧ Line.cut frames.flatten = frames ∧
        (Line.cut frames.flatten).map Line.decode = commands) ∧
    ∀ command : String, '\r' ∈ command.toList ∨ '\n' ∈ command.toList →
      encode command = .error (.severalLines command) ∧
        (Fault.severalLines command).isRejection := by
  refine ⟨fun commands oneLine => ?_, fun command lineEnd => ⟨?_, rfl⟩⟩
  · have single : ∀ command ∈ commands, isSingleLine command :=
      fun command member => isSingleLine_iff.2 (oneLine command member)
    have whole := cut_flatten_commandBytes single
    refine ⟨_, mapM_encode single, whole, ?_⟩
    rw [whole, List.map_map]
    refine (List.map_congr_left fun command member => ?_).trans (List.map_id _)
    exact decode_commandBytes (single command member)
  · refine encode_of_several fun single => ?_
    obtain ⟨noReturn, noFeed⟩ := isSingleLine_iff.1 single
    exact lineEnd.elim noReturn noFeed

/-- An empty command, and one with other line separators, a control character and a character of
four bytes, are three lines together with `state`; with a line feed inside, it is none. -/
theorem encode_framing_separators :
    (∃ frames, ["state", "a\u2028\u0085\x0b😀", ""].mapM encode = .ok frames ∧
      Line.cut frames.flatten = frames ∧
      (Line.cut frames.flatten).map Line.decode = ["state", "a\u2028\u0085\x0b😀", ""]) ∧
    encode "state\nreset" = .error (.severalLines "state\nreset") :=
  ⟨encode_framing.1 _ (by decide +kernel), (encode_framing.2 _ (by decide +kernel)).1⟩

end ThreadHost.Command
