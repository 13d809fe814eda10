import ThreadHost.Proofs.Session.Answer
/-!
# A round trip by whole lines

`executes_or_interrupted` says how far a round trip gets, and `executes` that nobody interrupts it
in a calm session. The reference looks at the output of the device as a list of raw lines and at
nothing else: the first line that closes an answer decides the outcome, and the lines up to it are
the answer. `execute_reading` shows that a round trip on steady streams is this, on any bytes at
all; `execute_eq_reference` adds what it leaves of the counters, the traffic and the notices.
-/

namespace ThreadHost.Session

/-- The place of the first raw line that closes an answer; the number of lines if none does. -/
def closingIndex (raws : List Bytes) : Nat :=
  raws.findIdx fun raw => Line.closes (Line.decode raw)

/-- The raw lines of the first answer: up to and including the one that closes it, or all. -/
def firstAnswer (raws : List Bytes) : List Bytes := raws.take (closingIndex raws + 1)

/-- The outcome that the raw lines of an output give a command. -/
def referenceOutcome (command : String) (raws : List Bytes) : Except Failure (List String) :=
  match raws[closingIndex raws]? with
  | none => .error (truncatedAnswer command)
  | some closing =>
    if Line.classify (Line.decode closing) = .done then
      .ok (content (raws.take (closingIndex raws)))
    else .error (.deviceError command (some (Line.decode closing)) none none)

variable {session after : Session} {command : String}

/-- How far a round trip gets: a command of several lines goes nowhere, a failed write or flush
ends it, and behind a command that went out lines pass and one access ends the answer. -/
inductive Executes (command : String) (session : Session) :
    Except Failure (List String) × Session → Prop where
  | several (several : Command.isSingleLine command = false) :
      Executes command session (.error (.plain (.severalLines command)), session)
  | unwritten {failure : Failure} (fault : session.streams.writeFault? = some failure) :
      Executes command session (.error (writeFailure command failure), session)
  | unflushed {failure : Failure}
      (fault : (session.written (commandBytes command)).streams.flushFault? = some failure) :
      Executes command session
        (.error (writeFailure command failure), session.written (commandBytes command))
  | ended {raws : List Bytes} {middle : Session} {result : Except Failure (List String) × Session}
      (flushes : (session.written (commandBytes command)).streams.flushFault? = none)
      (passes : Passes (session.sent command) raws middle)
      (ends : Ends command (content raws) middle result)
      (writes : session.streams.writeFault? = none)
      (heard : session.audience.hears (.sent, command) = true) : Executes command session result

/-- A round trip that an observer ends: the last line that passed, be it the command or a line of
the answer, was not heard by all. -/
inductive Interrupted (command : String) (session : Session) :
    Except Failure (List String) × Session → Prop where
  | atCommand {fault : Fault} {notices : List Notice} {observers : List Observer}
      (unheard : session.audience.hears (.sent, command) = false) :
      Interrupted command session
        (.error (.plain fault), (session.sent command).interrupted notices observers)
  | atLine {raws : List Bytes} {middle : Session}
      {result : Except Failure (List String) × Session}
      (heard : session.audience.hears (.sent, command) = true)
      (passes : Passes (session.sent command) raws middle) (breaksOff : BreaksOff middle result) :
      Interrupted command session result

/-- Every round trip goes in one of these ways, or an observer ends it. -/
theorem executes_or_interrupted (command : String) (session : Session) :
    Executes command session ((execute command).perform session) ∨
      Interrupted command session ((execute command).perform session) := by
  rw [execute, Act.perform_bind]
  cases single : Command.isSingleLine command with
  | false =>
    rw [perform_send_several single]
    exact .inl (.several single)
  | true =>
    cases heard : session.audience.hears (.sent, command) with
    | false =>
      obtain ⟨fault, notices, observers, sends⟩ := perform_send_of_unheard single heard
      rw [sends]
      cases writes : session.streams.writeFault? with
      | some failure => exact .inl (.unwritten writes)
      | none =>
        cases flushes : (session.written (commandBytes command)).streams.flushFault? with
        | some failure => exact .inl (.unflushed flushes)
        | none => exact .inr (.atCommand heard)
    | true =>
      rw [perform_send single heard]
      cases writes : session.streams.writeFault? with
      | some failure => exact .inl (.unwritten writes)
      | none =>
        cases flushes : (session.written (commandBytes command)).streams.flushFault? with
        | some failure => exact .inl (.unflushed flushes)
        | none =>
          simp only [Act.perform_bind, Act.perform_get]
          obtain ⟨raws, middle, passes, ends | breaksOff⟩ := readAnswer_ends command
            (Nat.lt_succ_self (session.sent command).streams.unread.length) []
          · exact .inl (.ended flushes passes ends writes heard)
          · exact .inr (.atLine heard passes breaksOff)

/-- Nobody interrupts a calm session. -/
theorem Interrupted.not_calm {result : Except Failure (List String) × Session}
    (interrupted : Interrupted command session result) : ¬session.Calm := by
  intro calm
  cases interrupted with
  | atCommand unheard =>
    rw [Audience.Calm.hears calm] at unheard
    cases unheard
  | atLine heard passes breaksOff =>
    have still := passes.reading.calm (calm.sent command)
    cases breaksOff with
    | unheard works more unheard =>
      rw [Audience.Calm.hears still] at unheard
      cases unheard

/-- Every round trip of a calm session goes in one of these ways. -/
theorem executes (calm : session.Calm) (command : String) :
    Executes command session ((execute command).perform session) :=
  (executes_or_interrupted command session).resolve_right
    fun interrupted => interrupted.not_calm calm

/-- A round trip that is answered was not interrupted. -/
theorem executes_of_answered {lines : List String}
    (answered : (execute command).perform session = (.ok lines, after)) :
    Executes command session (.ok lines, after) := by
  have all := executes_or_interrupted command session
  rw [answered] at all
  refine all.resolve_right fun interrupted => ?_
  cases interrupted with
  | atLine heard passes breaksOff => cases breaksOff

/-- Lines that stay open stand before the place where the answer is closed. -/
theorem closingIndex_append {opened rest : List Bytes}
    (opens : ∀ raw ∈ opened, Line.closes (Line.decode raw) = false) :
    closingIndex (opened ++ rest) = opened.length + closingIndex rest := by
  unfold closingIndex
  rw [List.findIdx_append, List.findIdx_eq_length_of_false opens, if_neg (Nat.lt_irrefl _),
    Nat.add_comm]

/-- A line that closes the answer is the first one to do so where it stands first. -/
theorem closingIndex_cons {raw : Bytes} (closes : Line.closes (Line.decode raw) = true)
    (rest : List Bytes) : closingIndex (raw :: rest) = 0 := by
  simp [closingIndex, List.findIdx_cons, closes]

/-- An answer that is never closed is all there is, and cut short. -/
theorem reference_of_open (command : String) {raws : List Bytes}
    (opens : ∀ raw ∈ raws, Line.closes (Line.decode raw) = false) :
    firstAnswer raws = raws ∧ referenceOutcome command raws = .error (truncatedAnswer command) := by
  have index : closingIndex raws = raws.length := List.findIdx_eq_length_of_false opens
  constructor
  · rw [firstAnswer, index]
    exact List.take_of_length_le (Nat.le_succ _)
  · rw [referenceOutcome, index, List.getElem?_eq_none (Nat.le_refl _)]

/-- An answer ends with the line that closes it, and that line gives the outcome. -/
theorem reference_of_closing (command : String) {opened : List Bytes} {closing : Bytes}
    (opens : ∀ raw ∈ opened, Line.closes (Line.decode raw) = false)
    (closes : Line.closes (Line.decode closing) = true) (rest : List Bytes) :
    firstAnswer (opened ++ closing :: rest) = opened ++ [closing] ∧
      referenceOutcome command (opened ++ closing :: rest) =
        if Line.classify (Line.decode closing) = .done then .ok (content opened)
        else .error (.deviceError command (some (Line.decode closing)) none none) := by
  have index : closingIndex (opened ++ closing :: rest) = opened.length := by
    rw [closingIndex_append opens, closingIndex_cons closes, Nat.add_zero]
  constructor
  · rw [firstAnswer, index]
    rw [List.take_length_add_append]
    rfl
  · rw [referenceOutcome, index]
    simp

/-- On steady streams a round trip reads the first answer and gives its outcome. -/
theorem execute_reading (steady : session.streams.Steady) (calm : session.Calm)
    (single : Command.isSingleLine command = true) :
    ∃ after, (execute command).perform session =
        (referenceOutcome command (Line.cut session.streams.unread), after) ∧
      Reading (session.sent command) after (firstAnswer (Line.cut session.streams.unread)) := by
  have all := executes calm command
  generalize (execute command).perform session = result at all
  cases all with
  | several several => simp [single] at several
  | unwritten fault => simp [steady.writeFault?_eq_none] at fault
  | unflushed fault =>
    have flushes : (session.written (commandBytes command)).streams.flushFault? = none :=
      steady.flushes _
    simp [flushes] at fault
  | @ended raws middle _ flushes passes ends =>
    have reading := passes.reading
    have lines : Line.cut session.streams.unread = raws ++ Line.cut middle.streams.unread :=
      reading.cut
    -- The answer is closed by the line that is read next.
    have closed : middle.streams.unread ≠ [] → Line.closes middle.nextLine = true →
        Reading (session.sent command) middle.passed
          (firstAnswer (Line.cut session.streams.unread)) ∧
        referenceOutcome command (Line.cut session.streams.unread) =
          if Line.classify middle.nextLine = .done then .ok (content raws)
          else .error (.deviceError command (some middle.nextLine) none none) := by
      intro more closes
      rw [lines, Line.cut_eq_next more]
      have reference := reference_of_closing command passes.opens closes
        (Line.cut (Line.next middle.streams.unread).2)
      refine ⟨?_, reference.2⟩
      have all := reading.trans (Reading.passed more)
      rwa [← reference.1] at all
    cases ends with
    | failed fault =>
      have middleSteady : middle.streams.Steady := reading.steady (steady_sent steady command)
      simp [middleSteady.readFault?_eq_none] at fault
    | truncated works ended =>
      have reference := reference_of_open command passes.opens
      have all := reading.trans (Reading.tried middle)
      rw [List.append_nil, ← reference.1] at all
      have whole : Line.cut session.streams.unread = raws := by
        rw [lines, ended]
        exact List.append_nil raws
      rw [whole, reference.2]
      exact ⟨_, rfl, all⟩
    | done works more closing =>
      obtain ⟨all, outcome⟩ := closed more (Line.closes_of_done closing)
      rw [outcome, if_pos closing]
      exact ⟨_, rfl, all⟩
    | error works more closing =>
      obtain ⟨all, outcome⟩ := closed more (Line.closes_of_error closing)
      rw [outcome, if_neg (by simp [closing])]
      exact ⟨_, rfl, all⟩

/-- Either no raw line closes an answer, or there is a first one that does. -/
theorem open_or_closing (raws : List Bytes) :
    (∀ raw ∈ raws, Line.closes (Line.decode raw) = false) ∨
      ∃ opened closing rest, raws = opened ++ closing :: rest ∧
        (∀ raw ∈ opened, Line.closes (Line.decode raw) = false) ∧
        Line.closes (Line.decode closing) = true := by
  induction raws with
  | nil => exact .inl (by simp)
  | cons raw raws inductionHypothesis =>
    cases closes : Line.closes (Line.decode raw) with
    | true => exact .inr ⟨[], raw, raws, rfl, by simp, closes⟩
    | false =>
      rcases inductionHypothesis with opens | ⟨opened, closing, rest, rfl, opens, closing⟩
      · exact .inl (List.forall_mem_cons.2 ⟨closes, opens⟩)
      · exact .inr ⟨raw :: opened, _, rest, rfl, List.forall_mem_cons.2 ⟨closes, opens⟩, closing⟩

/-- Whether the first answer is closed by an error line. -/
def answersError (raws : List Bytes) : Bool :=
  raws[closingIndex raws]?.any fun raw => Line.classify (Line.decode raw) = .error

/-- An answer holds one error line if one closes it, and none otherwise. -/
theorem countP_error_firstAnswer (raws : List Bytes) :
    ((firstAnswer raws).map Line.decode).countP (Line.classify · = .error) =
      if answersError raws then 1 else 0 := by
  have noError : ∀ opened : List Bytes,
      (∀ raw ∈ opened, Line.closes (Line.decode raw) = false) →
      (opened.map Line.decode).countP (Line.classify · = .error) = 0 := by
    intro opened opens
    rw [List.countP_eq_zero]
    intro line member
    obtain ⟨raw, inOpened, rfl⟩ := List.mem_map.1 member
    intro error
    exact Bool.false_ne_true
      ((opens raw inOpened).symm.trans (Line.closes_of_error (of_decide_eq_true error)))
  unfold answersError
  rcases open_or_closing raws with opens | ⟨opened, closing, rest, rfl, opens, closes⟩
  · have index : closingIndex raws = raws.length := List.findIdx_eq_length_of_false opens
    rw [(reference_of_open "" opens).1, noError raws opens, index,
      List.getElem?_eq_none (Nat.le_refl _)]
    rfl
  · have index : closingIndex (opened ++ closing :: rest) = opened.length := by
      rw [closingIndex_append opens, closingIndex_cons closes, Nat.add_zero]
    rw [(reference_of_closing "" opens closes rest).1, List.map_append,
      List.countP_append, noError opened opens, index]
    simp [List.countP_cons]

/-- What a round trip leaves of a session, told by the raw lines of the output before it. -/
structure RoundTrip (session : Session) (command : String) (after : Session) : Prop where
  /-- What is left begins behind the line that closed the answer. -/
  unread : after.streams.unread =
    ((Line.cut session.streams.unread).drop
      (closingIndex (Line.cut session.streams.unread) + 1)).flatten
  consumed : after.streams.consumed = session.streams.consumed +
    (firstAnswer (Line.cut session.streams.unread)).flatten.length
  /-- Without such a line nothing is left. -/
  usedUp : (∀ raw ∈ Line.cut session.streams.unread, Line.closes (Line.decode raw) = false) →
    after.streams.unread = []
  written : after.streams.written = session.streams.written ++ [commandBytes command]
  commandsSent : after.stats.commandsSent = session.stats.commandsSent + 1
  linesReceived : after.stats.linesReceived = session.stats.linesReceived +
    (firstAnswer (Line.cut session.streams.unread)).length
  promptLines : after.stats.promptLines = session.stats.promptLines +
    ((firstAnswer (Line.cut session.streams.unread)).map Line.decode).countP
      (Line.classify · = .prompt)
  deviceErrors : after.stats.deviceErrors = session.stats.deviceErrors +
    if answersError (Line.cut session.streams.unread) then 1 else 0
  traffic : after.traffic = session.traffic ++
    (.sent, command) :: (firstAnswer (Line.cut session.streams.unread)).map Line.arrival
  /-- Whoever is an observer when a line passes is told of it. -/
  notices : after.notices.map Notice.delivery = session.notices.map Notice.delivery ++
    session.audience.deliveries
      ((.sent, command) :: (firstAnswer (Line.cut session.streams.unread)).map Line.arrival)

/-- A round trip on steady streams is its reference, whatever bytes the device has sent: the
first line that closes an answer gives the outcome, the lines up to it are consumed, counted and
told, and nothing else is. Observers who stay are told of the command and then of each line. -/
theorem execute_eq_reference (session : Session) (steady : session.streams.Steady)
    (calm : session.Calm) (command : String) (single : Command.isSingleLine command = true) :
    ∃ after, (execute command).perform session =
        (referenceOutcome command (Line.cut session.streams.unread), after) ∧
      RoundTrip session command after ∧
      ((∀ observer ∈ session.observers, observer.Stays session.manner) →
        after.notices.map Notice.delivery = session.notices.map Notice.delivery ++
          ((.sent, command) ::
            (firstAnswer (Line.cut session.streams.unread)).map Line.arrival).flatMap
              fun event => session.observers.map (·, event)) := by
  obtain ⟨after, performed, reading⟩ := execute_reading steady calm single
  have rest : Line.cut after.streams.unread =
      (Line.cut session.streams.unread).drop
        (closingIndex (Line.cut session.streams.unread) + 1) := by
    have split : Line.cut session.streams.unread = _ := reading.cut
    exact (List.append_cancel_left ((List.take_append_drop _ _).trans split)).symm
  have told : after.notices.map Notice.delivery = session.notices.map Notice.delivery ++
      session.audience.deliveries
        ((.sent, command) :: (firstAnswer (Line.cut session.streams.unread)).map Line.arrival) := by
    rw [reading.notices, notices_sent, audience_sent, List.append_assoc,
      ← Audience.deliveries_append]
    rfl
  refine ⟨after, performed, ?_, ?_⟩
  · exact {
      unread := by rw [← rest, Line.flatten_cut]
      consumed := reading.consumed
      usedUp := by
        intro opens
        rw [← Line.cut_eq_nil_iff, rest, closingIndex, List.findIdx_eq_length_of_false opens]
        exact List.drop_of_length_le (Nat.le_succ _)
      written := reading.written
      commandsSent := congrArg Stats.commandsSent reading.stats
      linesReceived := by
        rw [reading.stats, ← List.length_map Line.decode]
        rfl
      promptLines := congrArg Stats.promptLines reading.stats
      deviceErrors := by
        rw [← countP_error_firstAnswer]
        exact congrArg Stats.deviceErrors reading.stats
      traffic := by
        rw [reading.traffic]
        simp [sent, notified, written]
      notices := told }
  · intro stay
    have stays : session.audience.Stays := stay
    rw [told, Audience.deliveries_of_stay stays]
    rfl

/-- A session on steady streams that have sent some bytes. -/
def onOutput (unread : Bytes) (observers : List Observer)
    (manner : Manner := fun _ _ => .none) : Session where
  streams := { unread }
  pollInterval := .ok Waiting.defaultInterval
  padding := .ok 1000
  observers
  manner

theorem steady_onOutput (unread : Bytes) (observers : List Observer)
    (manner : Manner := fun _ _ => .none) : (onOutput unread observers manner).streams.Steady :=
  ⟨rfl, rfl, fun _ => rfl, fun _ => rfl, fun _ => rfl⟩

/-- A prompt, an empty line, a line that breaks off inside a character, and `Done` without a line
end. -/
def unevenOutput : Bytes :=
  [0x3E, 0x20, 0x78, 0x0D, 0x0A, 0x0A, 0xE2, 0x82, 0x0A, 0x44, 0x6F, 0x6E, 0x65]

/-- A session that reads this output and is watched by one observer. -/
def uneven : Session := onOutput unevenOutput [.named "log"]

theorem execute_eq_reference_uneven :
    uneven.streams.Steady ∧ uneven.Calm ∧ Command.isSingleLine "state" = true ∧
      ∃ after, (execute "state").perform uneven = (.ok ["", "\uFFFD"], after) ∧
        RoundTrip uneven "state" after ∧
        after.notices.map Notice.delivery =
          [(.named "log", .sent, "state"), (.named "log", .received, "> x"),
            (.named "log", .received, ""), (.named "log", .received, "\uFFFD"),
            (.named "log", .received, "Done")] := by
  have steady : uneven.streams.Steady := steady_onOutput unevenOutput _
  have calm : uneven.Calm := calm_of_manner rfl
  have single : Command.isSingleLine "state" = true := by decide
  obtain ⟨after, performed, trip, told⟩ := execute_eq_reference uneven steady calm "state" single
  have stays : ∀ observer ∈ uneven.observers, observer.Stays uneven.manner :=
    fun observer _ => Observer.stays_of_manner rfl observer
  exact ⟨steady, calm, single, after, performed, trip, told stays⟩

/-- An observer of any name that fails at every line. -/
def failing : Manner := fun name _ => .fail (.runtime ("observer " ++ name ++ " failed"))

/-- An observer that fails ends a round trip before the answer is read. -/
theorem execute_ne_reference_of_failing_observer :
    ¬∀ session : Session, session.streams.Steady → ∀ command : String,
      Command.isSingleLine command = true →
        ((execute command).perform session).1 =
          referenceOutcome command (Line.cut session.streams.unread) := by
  intro always
  have answered := always
    (onOutput (Text.Utf8.encode "leader\nDone\n".toList) [.named "log"] failing)
    (steady_onOutput _ _ _) "state" (by decide)
  cases answered

end ThreadHost.Session
