import ThreadHost.Proofs.Line.Cut
import ThreadHost.Proofs.Session.Access
/-!
# Reading an answer

An answer is read line by line. `Passes` says that some lines, none of which closes the answer,
have gone by and were heard by all observers; `Ends` is the access that ends it, whichever way, and
`BreaksOff` the one at which an observer fails. `readAnswer_ends` shows that reading an answer is
a run of such lines and one of the two, and that the number of reads granted never runs out first.
`Reading` is what a run of lines leaves of everything a session keeps; it is preserved line by
line.
-/

namespace ThreadHost

/-- Streams that still behave alike: open or closed, and failing or not at the same accesses. -/
structure Streams.Alike (before after : Streams) : Prop where
  inputClosed : after.inputClosed = before.inputClosed
  outputClosed : after.outputClosed = before.outputClosed
  closedRefusal : after.closedRefusal = before.closedRefusal
  writeFailure : after.writeFailure = before.writeFailure
  flushFailure : after.flushFailure = before.flushFailure
  readFailure : after.readFailure = before.readFailure

theorem Streams.Alike.refl (streams : Streams) : streams.Alike streams :=
  ⟨rfl, rfl, rfl, rfl, rfl, rfl⟩

theorem Streams.Alike.trans {first second third : Streams} (one : first.Alike second)
    (two : second.Alike third) : first.Alike third where
  inputClosed := two.inputClosed.trans one.inputClosed
  outputClosed := two.outputClosed.trans one.outputClosed
  closedRefusal := two.closedRefusal.trans one.closedRefusal
  writeFailure := two.writeFailure.trans one.writeFailure
  flushFailure := two.flushFailure.trans one.flushFailure
  readFailure := two.readFailure.trans one.readFailure

/-- Streams that behave like steady ones are steady. -/
theorem Streams.Steady.alike {before after : Streams} (steady : before.Steady)
    (alike : before.Alike after) : after.Steady where
  inputOpen := alike.inputClosed.trans steady.inputOpen
  outputOpen := alike.outputClosed.trans steady.outputOpen
  writes := by
    rw [alike.writeFailure]
    exact steady.writes
  flushes := by
    rw [alike.flushFailure]
    exact steady.flushes
  reads := by
    rw [alike.readFailure]
    exact steady.reads

/-- The counters after some lines of answers. -/
def Stats.hearing (stats : Stats) (lines : List String) : Stats :=
  { stats with
    linesReceived := stats.linesReceived + lines.length
    promptLines := stats.promptLines + lines.countP (Line.classify · = .prompt)
    deviceErrors := stats.deviceErrors + lines.countP (Line.classify · = .error) }

/-- What comes in with a raw line. -/
def Line.arrival (raw : Bytes) : Event := (.received, Line.decode raw)

namespace Session

variable {before middle after session : Session} {raws : List Bytes}

/-- A session after the next line was heard and counted for what it is. -/
def passed (session : Session) : Session :=
  { session.heard with stats := session.stats.hearing [session.nextLine] }

/-- What some raw lines leave of a session: they are gone from the output and nothing else is,
and counters, traffic and notices have grown by exactly these lines. -/
structure Reading (before after : Session) (raws : List Bytes) : Prop where
  cut : Line.cut before.streams.unread = raws ++ Line.cut after.streams.unread
  consumed : after.streams.consumed = before.streams.consumed + raws.flatten.length
  written : after.streams.written = before.streams.written
  alike : before.streams.Alike after.streams
  stats : after.stats = before.stats.hearing (raws.map Line.decode)
  traffic : after.traffic = before.traffic ++ raws.map Line.arrival
  notices : after.notices.map Notice.delivery = before.notices.map Notice.delivery ++
    before.audience.deliveries (raws.map Line.arrival)
  audience : after.audience = before.audience.toldAll (raws.map Line.arrival)
  activeDataset : after.activeDataset = before.activeDataset

/-- The behaviour of streams does not change by a try to read. -/
theorem alike_tried (session : Session) : session.streams.Alike session.tried.streams := by
  unfold Session.tried Wire.tried
  split <;> constructor <;> rfl

/-- Nor does the platform. -/
theorem platform_tried (session : Session) :
    session.tried.host.platform = session.host.platform := by
  unfold Session.tried Wire.tried
  split <;> rfl

/-- A try to read takes nothing and counts nothing. -/
theorem Reading.tried (session : Session) : Reading session session.tried [] where
  cut := by
    unfold Session.tried Wire.tried
    split <;> rfl
  consumed := by
    unfold Session.tried Wire.tried
    split <;> rfl
  written := by
    unfold Session.tried Wire.tried
    split <;> rfl
  alike := alike_tried session
  stats := rfl
  traffic := by simp [Session.tried]
  notices := by simp [Session.tried, Audience.deliveries]
  audience := rfl
  activeDataset := rfl

/-- No lines leave everything as it is. -/
theorem Reading.refl (session : Session) : Reading session session [] where
  cut := rfl
  consumed := rfl
  written := rfl
  alike := .refl _
  stats := rfl
  traffic := by simp
  notices := by simp [Audience.deliveries]
  audience := rfl
  activeDataset := rfl

/-- A line that passes is taken from the output, counted and told. -/
theorem Reading.passed (more : session.streams.unread ≠ []) :
    Reading session session.passed [session.nextRaw] where
  cut := Line.cut_eq_next more
  consumed := by simp [Session.passed, heard, notified, Wire.taken, nextRaw]
  written := (Reading.tried session).written
  alike := by
    have same := alike_tried session
    exact ⟨same.inputClosed, same.outputClosed, same.closedRefusal, same.writeFailure,
      same.flushFailure, same.readFailure⟩
  stats := rfl
  traffic := rfl
  notices := notices_notified _ _ _
  audience := rfl
  activeDataset := rfl

/-- Lines that are read one run after the other. -/
theorem Reading.trans {first second : List Bytes} (one : Reading before middle first)
    (two : Reading middle after second) : Reading before after (first ++ second) where
  cut := by rw [one.cut, two.cut, List.append_assoc]
  consumed := by
    rw [two.consumed, one.consumed, List.flatten_append, List.length_append, Nat.add_assoc]
  written := two.written.trans one.written
  alike := one.alike.trans two.alike
  stats := by
    rw [two.stats, one.stats]
    simp [Stats.hearing, Nat.add_assoc]
  traffic := by rw [two.traffic, one.traffic, List.map_append, List.append_assoc]
  notices := by
    rw [two.notices, one.notices, one.audience, List.map_append, Audience.deliveries_append,
      List.append_assoc]
  audience := by rw [two.audience, one.audience, List.map_append, Audience.toldAll_append]
  activeDataset := two.activeDataset.trans one.activeDataset

/-- What was unread is what was read and what is unread now. -/
theorem Reading.unread (reading : Reading before after raws) :
    before.streams.unread = raws.flatten ++ after.streams.unread := by
  have whole := congrArg List.flatten reading.cut
  rwa [Line.flatten_cut, List.flatten_append, Line.flatten_cut] at whole

/-- A calm session stays calm while lines are read. -/
theorem Reading.calm (reading : Reading before after raws) (calm : before.Calm) : after.Calm := by
  rw [Calm, reading.audience]
  exact Audience.Calm.toldAll calm _

/-- Steady streams stay steady while lines are read. -/
theorem Reading.steady (reading : Reading before after raws)
    (steady : before.streams.Steady) : after.streams.Steady := steady.alike reading.alike

/-- Some raw lines pass, none of which closes the answer, and all observers hear them. -/
inductive Passes : Session → List Bytes → Session → Prop where
  | none (session : Session) : Passes session [] session
  | line {session after : Session} {raws : List Bytes}
      (works : session.streams.readFault? = .none) (more : session.streams.unread ≠ [])
      (opens : Line.closes session.nextLine = false)
      (heard : session.audience.hears (.received, session.nextLine) = true)
      (rest : Passes session.passed raws after) : Passes session (session.nextRaw :: raws) after

/-- Lines that pass are read. -/
theorem Passes.reading (passes : Passes before raws after) : Reading before after raws := by
  induction passes with
  | none session => exact Reading.refl session
  | line works more opens heard rest inductionHypothesis =>
    exact (Reading.passed more).trans inductionHypothesis

/-- None of the lines that pass closes the answer. -/
theorem Passes.opens (passes : Passes before raws after) :
    ∀ raw ∈ raws, Line.closes (Line.decode raw) = false := by
  induction passes with
  | none session => simp
  | line works more opens heard rest inductionHypothesis =>
    exact List.forall_mem_cons.2 ⟨opens, inductionHypothesis⟩

/-- All observers hear the lines that pass. -/
theorem Passes.hearsAll (passes : Passes before raws after) :
    before.audience.hearsAll (raws.map Line.arrival) = true := by
  induction passes with
  | none session => rfl
  | line works more opens heard rest inductionHypothesis =>
    rw [List.map_cons, Audience.hearsAll, Bool.and_eq_true]
    exact ⟨heard, inductionHypothesis⟩

/-- A prompt counts as one. -/
theorem passed_of_prompt (prompt : Line.classify session.nextLine = .prompt) :
    session.passed = { session.heard with stats := { session.heard.stats with
      promptLines := session.heard.stats.promptLines + 1 } } := by
  simp [passed, Stats.hearing, prompt, heard, notified]

/-- An error line counts as an error. -/
theorem passed_of_error (error : Line.classify session.nextLine = .error) :
    session.passed = { session.heard with stats := { session.heard.stats with
      deviceErrors := session.heard.stats.deviceErrors + 1 } } := by
  simp [passed, Stats.hearing, error, heard, notified]

/-- Other lines only count as lines. -/
theorem passed_of_plain (noPrompt : Line.classify session.nextLine ≠ .prompt)
    (noError : Line.classify session.nextLine ≠ .error) : session.passed = session.heard := by
  simp [passed, Stats.hearing, noPrompt, noError, heard, notified]

/-- The access that ends an answer, behind the content that has come: its outcome and the session
it leaves. -/
inductive Ends (command : String) (content : List String) (session : Session) :
    Except Failure (List String) × Session → Prop where
  | failed {failure : Failure} (fault : session.streams.readFault? = some failure) :
      Ends command content session (.error (readFailure command failure), session.tried)
  | truncated (works : session.streams.readFault? = none) (ended : session.streams.unread = []) :
      Ends command content session (.error (truncatedAnswer command), session.tried)
  | done (works : session.streams.readFault? = none) (more : session.streams.unread ≠ [])
      (closing : Line.classify session.nextLine = .done)
      (heard : session.audience.hears (.received, session.nextLine) = true) :
      Ends command content session (.ok content, session.passed)
  | error (works : session.streams.readFault? = none) (more : session.streams.unread ≠ [])
      (closing : Line.classify session.nextLine = .error) :
      Ends command content session
        (.error (.deviceError command (some session.nextLine) none none), session.passed)

/-- The access at which an observer fails: the next line was read and told, and not all heard
it. -/
inductive BreaksOff (session : Session) : Except Failure (List String) × Session → Prop where
  | unheard {fault : Fault} {notices : List Notice} {observers : List Observer}
      (works : session.streams.readFault? = none) (more : session.streams.unread ≠ [])
      (unheard : session.audience.hears (.received, session.nextLine) = false) :
      BreaksOff session (.error (.plain fault), session.heard.interrupted notices observers)

/-- The content among some lines of an answer. -/
def content (raws : List Bytes) : List String :=
  (raws.map Line.decode).filter (Line.classify · ≠ .prompt)

@[simp] theorem content_nil : content [] = [] := rfl

theorem content_cons (raw : Bytes) (raws : List Bytes) :
    content (raw :: raws) = content [raw] ++ content raws := by
  simp [content, ← List.filter_append]

/-- A line is content unless it is a prompt. -/
theorem content_singleton (raw : Bytes) :
    content [raw] =
      if Line.classify (Line.decode raw) = .prompt then [] else [Line.decode raw] := by
  by_cases kind : Line.classify (Line.decode raw) = .prompt <;> simp [content, kind]

/-- The next line is content unless it is a prompt. -/
theorem content_nextRaw (session : Session) :
    content [session.nextRaw] =
      if Line.classify session.nextLine = .prompt then [] else [session.nextLine] :=
  content_singleton session.nextRaw

/-- Reading an answer lets lines pass up to one access that ends it or breaks it off. Every line
that passes takes a byte, so more reads than there are bytes never run out. -/
theorem readAnswer_ends (command : String) {reads : Nat} {session : Session}
    (enough : session.streams.unread.length < reads) (before : List String) :
    ∃ raws middle, Passes session raws middle ∧
      (Ends command (before ++ content raws) middle
          ((readAnswer command reads before).perform session) ∨
        BreaksOff middle ((readAnswer command reads before).perform session)) := by
  induction reads generalizing session before with
  | zero => omega
  | succ reads inductionHypothesis =>
    unfold readAnswer
    rw [Act.perform_bind]
    cases fault : session.streams.readFault? with
    | some failure =>
      rw [perform_readLine_of_fault command fault]
      exact ⟨[], session, .none session, .inl (.failed fault)⟩
    | none =>
      by_cases ended : session.streams.unread = []
      · rw [perform_readLine_of_end command fault ended]
        exact ⟨[], session, .none session, .inl (.truncated fault ended)⟩
      · cases heard : session.audience.hears (.received, session.nextLine) with
        | false =>
          obtain ⟨_, _, _, failed⟩ := perform_readLine_of_unheard command fault ended heard
          rw [failed]
          exact ⟨[], session, .none session, .inr (.unheard fault ended heard)⟩
        | true =>
          rw [perform_readLine_of_more command fault ended heard]
          have shorter : session.passed.streams.unread.length < reads := by
            have less := Line.length_next_snd_lt ended
            have rest : session.passed.streams.unread = (Line.next session.streams.unread).2 := rfl
            rw [rest]
            omega
          -- A line that stays open hands over to the remaining reads.
          have goesOn : ∀ more, Line.closes session.nextLine = false →
              before ++ content [session.nextRaw] = more →
              ∃ raws middle, Passes session raws middle ∧
                (Ends command (before ++ content raws) middle
                    ((readAnswer command reads more).perform session.passed) ∨
                  BreaksOff middle ((readAnswer command reads more).perform session.passed)) := by
            rintro more opens rfl
            obtain ⟨raws, middle, passes, ends⟩ :=
              inductionHypothesis shorter (before ++ content [session.nextRaw])
            refine ⟨session.nextRaw :: raws, middle, .line fault ended opens heard passes, ?_⟩
            rw [content_cons, ← List.append_assoc]
            exact ends
          cases kind : Line.classify session.nextLine with
          | done =>
            have same : session.passed = session.heard :=
              passed_of_plain (by simp [kind]) (by simp [kind])
            refine ⟨[], session, .none session, .inl ?_⟩
            simp only [kind, Act.perform_pure, content_nil, List.append_nil]
            rw [← same]
            exact .done fault ended kind heard
          | error =>
            refine ⟨[], session, .none session, .inl ?_⟩
            simp only [kind, Act.perform_bind, count, Act.perform_modify, Act.perform_throw]
            rw [← passed_of_error kind]
            exact .error fault ended kind
          | prompt =>
            simp only [kind, Act.perform_bind, count, Act.perform_modify]
            rw [← passed_of_prompt kind]
            exact goesOn before (by simp [Line.closes, kind])
              (by simp [content_nextRaw, kind])
          | content =>
            have same : session.passed = session.heard :=
              passed_of_plain (by simp [kind]) (by simp [kind])
            simp only [kind]
            rw [← same]
            exact goesOn (before ++ [session.nextLine]) (by simp [Line.closes, kind])
              (by simp [content_nextRaw, kind])

end Session

end ThreadHost
