import ThreadHost.Proofs.Session.Exits
/-!
# Commands that are answered

A device answers a command with some lines that leave the answer open and with one that closes it,
if every access up to that line works (`Streams.Answers`). A round trip then has the outcome that
the last line gives it (`execute_of_answers`); and where a device does not answer, the round trip
fails as a link does or with a rejected value, and never as a device (`execute_unanswered`).
-/

namespace ThreadHost

/-- Streams that take the next command and have an answer to it: the first lines that come out,
the last of which, and no other, closes the answer. -/
structure Streams.Answers (streams : Streams) (body : List Bytes) (closing : Bytes) : Prop where
  inputOpen : streams.inputClosed = false
  writes : streams.writeFailure streams.written.length = none
  flushes : streams.flushFailure (streams.written.length + 1) = none
  outputOpen : streams.outputClosed = false
  reads : ∀ number ≤ body.length, streams.readFailure (streams.reads + number) = none
  lines : body ++ [closing] <+: Line.cut streams.unread
  opens : ∀ raw ∈ body, Line.closes (Line.decode raw) = false
  closes : Line.closes (Line.decode closing) = true

/-- There is one answer at most. -/
theorem Streams.Answers.unique {streams : Streams} {body others : List Bytes}
    {closing other : Bytes} (answers : streams.Answers body closing)
    (again : streams.Answers others other) : body = others ∧ closing = other := by
  obtain ⟨rest, lines⟩ := answers.lines
  obtain ⟨rest', lines'⟩ := again.lines
  rw [List.append_assoc] at lines lines'
  have first := (Session.reference_of_closing "" answers.opens answers.closes rest).1
  have second := (Session.reference_of_closing "" again.opens again.closes rest').1
  have same : body ++ [closing] = others ++ [other] := by
    rw [← first, ← second]
    exact congrArg Session.firstAnswer (lines.trans lines'.symm)
  obtain ⟨sameBody, sameClosing⟩ := List.append_inj' same rfl
  exact ⟨sameBody, List.head_eq_of_cons_eq sameClosing⟩

namespace Session

variable {session middle after : Session} {command : String} {body raws : List Bytes}
  {closing : Bytes}

/-- Every line that passes was read without a failure. -/
theorem readFailure_of_passes (passes : Passes session raws after) :
    ∀ number < raws.length, session.streams.readFailure (session.streams.reads + number) = none := by
  induction passes with
  | none session => simp
  | @line session after raws works more opens heard rest inductionHypothesis =>
    rintro (_ | number) within
    · exact (Streams.readFault?_eq_none_iff.1 works).2
    · have later := inductionHypothesis number (Nat.lt_of_succ_lt_succ within)
      rwa [reads_passed works, (Reading.passed more).alike.readFailure, Nat.add_assoc,
        Nat.add_comm 1] at later

/-- An answer with the line that closes it has not passed as long as none has been closed. -/
theorem Passes.not_prefix (passes : Passes session raws after)
    (closes : Line.closes (Line.decode closing) = true) : ¬body ++ [closing] <+: raws := by
  intro isPrefix
  have opens := passes.opens closing (isPrefix.subset (by simp))
  rw [closes] at opens
  cases opens

/-- A command whose answer was closed was answered. -/
theorem answers_of_passes (passes : Passes (session.sent command) raws middle)
    (writes : session.streams.writeFault? = none)
    (flushes : (session.written (commandBytes command)).streams.flushFault? = none)
    (works : middle.streams.readFault? = none) (more : middle.streams.unread ≠ [])
    (closes : Line.closes middle.nextLine = true) :
    session.streams.Answers raws middle.nextRaw := by
  obtain ⟨inputOpen, writes⟩ := Streams.writeFault?_eq_none_iff.1 writes
  rw [passes.readFault] at works
  obtain ⟨outputOpen, last⟩ := Streams.readFault?_eq_none_iff.1 works
  have cut : Line.cut session.streams.unread = raws ++ Line.cut middle.streams.unread :=
    passes.reading.cut
  exact {
    inputOpen
    writes
    flushes := by simpa [Streams.flushFault?, written, Wire.written] using flushes
    outputOpen
    reads := by
      intro number within
      rcases Nat.lt_or_eq_of_le within with before | rfl
      · exact readFailure_of_passes passes number before
      · exact last
    lines := by
      rw [cut, Line.cut_eq_next more]
      exact ⟨_, List.append_assoc ..⟩
    opens := passes.opens
    closes }

/-- A command of one line that a device answers has the outcome that the last line gives it. -/
theorem execute_of_answers (calm : session.Calm) (single : Command.isSingleLine command = true)
    (answers : session.streams.Answers body closing) :
    ((execute command).perform session).1 =
      if Line.classify (Line.decode closing) = .done then .ok (content body)
      else .error (.deviceError command (some (Line.decode closing)) none none) := by
  have all := executes calm command
  generalize (execute command).perform session = result at all
  cases all with
  | several several =>
    rw [single] at several
    cases several
  | unwritten fault =>
    rw [Streams.writeFault?_eq_none_iff.2 ⟨answers.inputOpen, answers.writes⟩] at fault
    cases fault
  | unflushed fault =>
    simp [Streams.flushFault?, written, Wire.written, answers.flushes] at fault
  | @ended raws middle _ flushes passes ends writes =>
    have cut : Line.cut session.streams.unread = raws ++ Line.cut middle.streams.unread :=
      passes.reading.cut
    have notYet : ¬body ++ [closing] <+: raws := passes.not_prefix answers.closes
    have meets (works : middle.streams.readFault? = none) (more : middle.streams.unread ≠ [])
        (closes : Line.closes middle.nextLine = true) :
        body = raws ∧ closing = middle.nextRaw :=
      answers.unique (answers_of_passes passes writes flushes works more closes)
    cases ends with
    | failed fault =>
      -- What has passed is not longer than the answer, so this read is one of those that work.
      have within : raws.length ≤ body.length := by
        by_contra longer
        exact notYet (List.prefix_of_prefix_length_le answers.lines ⟨_, cut.symm⟩
          (by simp; omega))
      have works : middle.streams.readFault? = none := by
        rw [passes.readFault]
        exact Streams.readFault?_eq_none_iff.2 ⟨answers.outputOpen, answers.reads _ within⟩
      rw [works] at fault
      cases fault
    | truncated works ended =>
      have lines := answers.lines
      rw [cut, Line.cut_eq_nil_iff.2 ended, List.append_nil] at lines
      exact absurd lines notYet
    | done works more closes =>
      obtain ⟨rfl, rfl⟩ := meets works more (Line.closes_of_done closes)
      exact (if_pos closes).symm
    | error works more closes =>
      obtain ⟨rfl, rfl⟩ := meets works more (Line.closes_of_error closes)
      have notDone : Line.classify middle.nextLine ≠ .done := by simp [closes]
      exact (if_neg notDone).symm

/-- Where streams do not answer a command, the round trip fails as a link does or with a rejected
value, if the streams fail as streams do. -/
theorem execute_unanswered (calm : session.Calm) (ordinary : session.streams.Ordinary)
    (unanswered : Command.isSingleLine command = true →
      ∀ body closing, ¬session.streams.Answers body closing) :
    ∃ failure, ((execute command).perform session).1 = .error failure ∧
      (failure.isLink || failure.isRejection) = true := by
  by_cases single : Command.isSingleLine command = true
  · have all := executes calm command
    generalize (execute command).perform session = result at all
    cases all with
    | several several => exact ⟨_, rfl, rfl⟩
    | unwritten fault =>
      obtain ⟨reason, rfl, ofStream⟩ := ordinary.writeFault fault
      simp only [writeFailure, ofStream, if_true]
      exact ⟨_, rfl, rfl⟩
    | unflushed fault =>
      obtain ⟨reason, rfl, ofStream⟩ := ordinary.flushes _ _ fault
      simp only [writeFailure, ofStream, if_true]
      exact ⟨_, rfl, rfl⟩
    | @ended raws middle _ flushes passes ends writes =>
      have sentOrdinary : (session.sent command).streams.Ordinary :=
        ⟨ordinary.writes, ordinary.flushes, ordinary.reads⟩
      have never (works : middle.streams.readFault? = none) (more : middle.streams.unread ≠ []) :
          ¬Line.closes middle.nextLine = true := fun closes =>
        unanswered single _ _ (answers_of_passes passes writes flushes works more closes)
      cases ends with
      | failed fault =>
        obtain ⟨reason, rfl, ofStream⟩ :=
          (sentOrdinary.alike passes.reading.alike).readFault fault
        simp only [readFailure, ofStream, if_true]
        exact ⟨_, rfl, rfl⟩
      | truncated works ended => exact ⟨_, rfl, rfl⟩
      | done works more closes => exact absurd (Line.closes_of_done closes) (never works more)
      | error works more closes => exact absurd (Line.closes_of_error closes) (never works more)
  · rw [execute, Act.perform_bind, perform_send_several (Bool.eq_false_iff.2 single)]
    exact ⟨_, rfl, rfl⟩

end Session

end ThreadHost
