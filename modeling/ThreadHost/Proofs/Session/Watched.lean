import ThreadHost.Proofs.Session.DeviceErrors
/-!
# Watched sessions

A session is watched by an observer who is told of every line once, while no observer fails or
leaves. What the observer was told is then the traffic, and the counters count the traffic
(`Watched`). `Heard` is what some events leave of a session, whichever operation they belong to;
a watched session stays watched (`Heard.watched`).

`settling` is the account of everything that asks the device: each command that went out is settled
by the line that closes its answer or by a failure to read it, and is all that was written.
-/

namespace ThreadHost

/-- Whether an event is a command that went out. -/
def Event.isCommand : Event → Bool
  | (.sent, _) => true
  | (.received, _) => false

/-- Whether an event is a line that came in. -/
def Event.isReceived : Event → Bool
  | (.received, _) => true
  | (.sent, _) => false

/-- Whether an event is a line of some kind that came in. -/
def Event.isLine (kind : Line.Kind) : Event → Bool
  | (.received, line) => Line.classify line = kind
  | (.sent, _) => false

/-- What an event leaves on the input of the device. -/
def Event.bytes : Event → Bytes
  | (.sent, command) => Session.commandBytes command
  | (.received, _) => []

/-- Whether the output of the device failed or ended within an answer. -/
def Failure.isReadFailed : Failure → Bool
  | .readFailed .. => true
  | _ => false

/-- Whether the input of the device did not take what was written. -/
def Failure.isWriteRejected : Failure → Bool
  | .writeRejected .. => true
  | _ => false

namespace Session

open Act (Law)

variable {watcher : Observer} {before after session : Session} {command : String}
  {raws : List Bytes} {events : List Event}

/-- What an observer was told, oldest first. -/
def log (watcher : Observer) (session : Session) : List Event :=
  ((session.notices.map Notice.delivery).filter (·.1 = watcher)).map Prod.snd

/-- What some events leave of a session: they were passed on, and are counted. -/
structure Heard (before after : Session) (events : List Event) : Prop where
  traffic : after.traffic = before.traffic ++ events
  notices : after.notices.map Notice.delivery = before.notices.map Notice.delivery ++
    before.audience.deliveries events
  audience : after.audience = before.audience.toldAll events
  commandsSent : after.stats.commandsSent =
    before.stats.commandsSent + events.countP Event.isCommand
  linesReceived : after.stats.linesReceived =
    before.stats.linesReceived + events.countP Event.isReceived
  promptLines : after.stats.promptLines =
    before.stats.promptLines + events.countP (Event.isLine .prompt)
  single : ∀ command, (.sent, command) ∈ events → Command.isSingleLine command = true

/-- A session whose streams and link are ordinary, none of whose observers fails or leaves, and one
of whom is told of each line once: what it was told is the traffic, and the counters agree. -/
structure Watched (watcher : Observer) (session : Session) : Prop where
  ordinary : session.toWire.Ordinary
  calm : session.Calm
  stay : ∀ observer ∈ session.observers, observer.Stays session.manner
  once : session.observers.count watcher = 1
  told : log watcher session = session.traffic
  commandsSent : session.stats.commandsSent = session.traffic.countP Event.isCommand
  linesReceived : session.stats.linesReceived = session.traffic.countP Event.isReceived
  promptLines : session.stats.promptLines = session.traffic.countP (Event.isLine .prompt)
  single : ∀ command, (.sent, command) ∈ session.traffic → Command.isSingleLine command = true

/-- An observer who is told once is told of each event in order. -/
theorem log_flatMap {observers : List Observer} (once : observers.count watcher = 1)
    (events : List Event) :
    ((events.flatMap fun event => observers.map (·, event)).filter (·.1 = watcher)).map Prod.snd =
      events := by
  induction events with
  | nil => rfl
  | cons event events inductionHypothesis =>
    have one : ((observers.map (·, event)).filter (·.1 = watcher)).map Prod.snd = [event] := by
      rw [List.filter_map, List.map_map]
      have only : observers.filter (· = watcher) = [watcher] := by
        rw [List.filter_eq, once]
        rfl
      exact congrArg (List.map fun _ => event) only
    rw [List.flatMap_cons, List.filter_append, List.map_append, inductionHypothesis, one]
    rfl

/-- A session stays watched when some events pass. -/
theorem Heard.watched (heard : Heard before after events) (watched : Watched watcher before)
    (ordinary : after.toWire.Ordinary) : Watched watcher after := by
  have stays : before.audience.Stays := watched.stay
  have observers : after.observers = before.observers :=
    (congrArg Audience.observers heard.audience).trans (stays.toldAll events)
  have manner : after.manner = before.manner :=
    (congrArg Audience.manner heard.audience).trans (Audience.manner_toldAll _ events)
  have told : before.audience.deliveries events =
      events.flatMap fun event => before.observers.map (·, event) :=
    Audience.deliveries_of_stay stays events
  exact {
    ordinary
    calm := by
      rw [Calm, heard.audience]
      exact Audience.Calm.toldAll watched.calm events
    stay := by
      rw [observers, manner]
      exact watched.stay
    once := by
      rw [observers]
      exact watched.once
    told := by
      rw [log, heard.notices, List.filter_append, List.map_append, told,
        log_flatMap watched.once, heard.traffic, ← watched.told]
      rfl
    commandsSent := by
      rw [heard.commandsSent, heard.traffic, List.countP_append, watched.commandsSent]
    linesReceived := by
      rw [heard.linesReceived, heard.traffic, List.countP_append, watched.linesReceived]
    promptLines := by
      rw [heard.promptLines, heard.traffic, List.countP_append, watched.promptLines]
    single := by
      intro command member
      rw [heard.traffic] at member
      rcases List.mem_append.1 member with earlier | here
      · exact watched.single command earlier
      · exact heard.single command here }

/-- Nothing is heard of a change to the wire, the active dataset or the count of device errors. -/
theorem heard_nothing (session : Session) (wire : Wire) (dataset : Option Dataset) (errors : Nat) :
    Heard session { session with
      toWire := wire
      activeDataset := dataset
      stats := { session.stats with deviceErrors := errors } } [] where
  traffic := (List.append_nil _).symm
  notices := (List.append_nil _).symm
  audience := rfl
  commandsSent := rfl
  linesReceived := rfl
  promptLines := rfl
  single _ member := absurd member List.not_mem_nil

/-- The lines of an answer are lines that came in. -/
theorem countP_arrival (raws : List Bytes) :
    (raws.map Line.arrival).countP Event.isCommand = 0 ∧
      (raws.map Line.arrival).countP Event.isReceived = raws.length ∧
      ∀ kind, (raws.map Line.arrival).countP (Event.isLine kind) =
        (raws.map Line.decode).countP (Line.classify · = kind) := by
  refine ⟨?_, ?_, fun kind => ?_⟩
  · simp [Line.arrival, Event.isCommand]
  · rw [List.countP_map]
    exact List.countP_eq_length.2 fun _ _ => rfl
  · rw [List.countP_map, List.countP_map]
    rfl

/-- A command that went out, and the lines that were read behind it, are heard. -/
theorem Reading.heard (reading : Reading (session.sent command) after raws)
    (single : Command.isSingleLine command = true) :
    Heard session after ((.sent, command) :: raws.map Line.arrival) := by
  obtain ⟨noCommand, received, kinds⟩ := countP_arrival raws
  exact {
    traffic := by
      rw [reading.traffic]
      simp [sent, notified, Session.written]
    notices := by
      rw [reading.notices, notices_sent, audience_sent, List.append_assoc,
        ← Audience.deliveries_append]
      rfl
    audience := by
      rw [reading.audience]
      rfl
    commandsSent := by
      rw [reading.stats, List.countP_cons, noCommand]
      rfl
    linesReceived := by
      rw [reading.stats, List.countP_cons, received, ← List.length_map Line.decode]
      rfl
    promptLines := by
      rw [reading.stats, List.countP_cons, kinds]
      rfl
    single := by
      intro other member
      obtain rfl : other = command := by simpa [Line.arrival] using member
      exact single }

/-- What the events between two states settle: each command that went out is answered by a line
that closes its answer, or an answer was not read, or the command was one of some resets. Unless
the input of the device did not take it, what was written are the commands and some bytes behind
them. -/
structure Settled (resets : Nat) (blank : Bytes) (before : Session) (ending : Option Failure)
    (after : Session) (events : List Event) : Prop where
  traffic : after.traffic = before.traffic ++ events
  balance : events.countP Event.isCommand =
    events.countP (Event.isLine .done) + events.countP (Event.isLine .error) +
      (if ending.any Failure.isReadFailed then 1 else 0) + resets
  wire : ending.any Failure.isWriteRejected = false →
    after.streams.written.flatten =
      before.streams.written.flatten ++ (events.flatMap Event.bytes ++ blank)

/-- Everything that asks the device settles its commands, and leaves a watched session watched. -/
def settling (watcher : Observer) : Law Session where
  Holds before ending after := Watched watcher before →
    Watched watcher after ∧ ∃ events, Settled 0 [] before ending after events
  refl state watched := ⟨watched, [], by simp, rfl, by simp⟩
  trans := by
    intro before middle after ending first second watched
    obtain ⟨watched, events, one⟩ := first watched
    obtain ⟨watched, others, two⟩ := second watched
    refine ⟨watched, events ++ others, ?_, ?_, ?_⟩
    · rw [two.traffic, one.traffic, List.append_assoc]
    · have balance := one.balance
      simp only [Option.any_none, Bool.false_eq_true, if_false] at balance
      rw [List.countP_append, List.countP_append, List.countP_append, two.balance, balance]
      omega
    · intro accepted
      rw [two.wire accepted, one.wire rfl]
      simp

/-- A change to the wire, the active dataset or the count of device errors settles nothing. -/
theorem settling_aside (session : Session) {wire : Wire} {dataset : Option Dataset} {errors : Nat}
    {ending : Option Failure} (ordinary : session.toWire.Ordinary → wire.Ordinary)
    (noRead : ending.any Failure.isReadFailed = false)
    (same : ending.any Failure.isWriteRejected = false →
      wire.streams.written = session.streams.written) :
    (settling watcher).Holds session ending { session with
      toWire := wire
      activeDataset := dataset
      stats := { session.stats with deviceErrors := errors } } := by
  intro watched
  refine ⟨(heard_nothing session wire dataset errors).watched watched (ordinary watched.ordinary),
    [], (List.append_nil _).symm, ?_, fun accepted => ?_⟩
  · rw [noRead]
    rfl
  · rw [same accepted]
    simp

/-- Lines that leave an answer open close none. -/
theorem countP_isLine_of_opens (opens : ∀ raw ∈ raws, Line.closes (Line.decode raw) = false) :
    (raws.map Line.arrival).countP (Event.isLine .done) = 0 ∧
      (raws.map Line.arrival).countP (Event.isLine .error) = 0 := by
  constructor
  all_goals
    rw [List.countP_eq_zero]
    intro event member isClosing
    obtain ⟨raw, inRaws, rfl⟩ := List.mem_map.1 member
    have closing := of_decide_eq_true isClosing
    have isOpen := opens raw inRaws
    simp [Line.closes, closing] at isOpen

/-- Lines that came in leave nothing on the input of the device. -/
theorem flatMap_bytes_arrival (raws : List Bytes) :
    (raws.map Line.arrival).flatMap Event.bytes = [] := by
  rw [List.flatMap_map]
  exact List.flatMap_eq_nil_iff.2 fun _ _ => rfl

/-- A command that went out is settled by what is read behind the lines that leave its answer
open: by a line that closes it, or by a failure to read one. -/
theorem Reading.settled {ending : Option Failure} {last : List Bytes}
    (reading : Reading (session.sent command) after (raws ++ last))
    (single : Command.isSingleLine command = true)
    (opens : ∀ raw ∈ raws, Line.closes (Line.decode raw) = false)
    (settles : (last.map Line.arrival).countP (Event.isLine .done) +
      (last.map Line.arrival).countP (Event.isLine .error) +
        (if ending.any Failure.isReadFailed then 1 else 0) = 1) :
    Settled 0 [] session ending after
      ((.sent, command) :: (raws ++ last).map Line.arrival) where
  traffic := (reading.heard single).traffic
  balance := by
    obtain ⟨noDone, noError⟩ := countP_isLine_of_opens opens
    obtain ⟨noCommand, -, -⟩ := countP_arrival (raws ++ last)
    rw [List.countP_cons, noCommand]
    simp only [List.countP_cons, List.map_append, List.countP_append, noDone, noError,
      Event.isCommand, Event.isLine, Bool.false_eq_true, if_false, if_true]
    omega
  wire _ := by
    have written : after.streams.written = session.streams.written ++ [commandBytes command] :=
      reading.written
    rw [written, List.flatMap_cons, flatMap_bytes_arrival]
    simp [Event.bytes]

/-- A round trip settles its command. -/
theorem execute_settling (watcher : Observer) (command : String) :
    (settling watcher).Obeyed (execute command) := by
  intro session watched
  cases single : Command.isSingleLine command with
  | false =>
    rw [execute, Act.perform_bind, perform_send_several single]
    exact settling_aside session id rfl (fun _ => rfl) watched
  | true =>
    have all := executes watched.calm command
    have ordinary := (exchanging_counting.execute command session watched.ordinary).1
    generalize (execute command).perform session = result at all ordinary
    cases all with
    | several several => simp [single] at several
    | unwritten fault =>
      obtain ⟨fault, rfl, ofStream⟩ := watched.ordinary.streams.writeFault fault
      simp only [writeFailure, ofStream, if_true]
      exact settling_aside session id rfl (fun _ => rfl) watched
    | unflushed fault =>
      obtain ⟨fault, rfl, ofStream⟩ := watched.ordinary.streams.flushes _ _ fault
      simp only [writeFailure, ofStream, if_true]
      exact settling_aside session (fun usual => usual.written _) rfl
        (fun taken => Bool.noConfusion taken) watched
    | @ended raws middle _ flushes passes ends =>
      have tried := passes.reading.trans (Reading.tried middle)
      cases ends with
      | failed broken =>
        have sent : (session.sent command).streams.Ordinary :=
          (watched.ordinary.written (commandBytes command)).streams
        obtain ⟨fault, rfl, ofStream⟩ := (sent.alike passes.reading.alike).readFault broken
        refine ⟨(tried.heard single).watched watched ordinary, _,
          tried.settled single passes.opens ?_⟩
        simp [Act.ending, readFailure, ofStream, Failure.isReadFailed]
      | truncated works ended =>
        exact ⟨(tried.heard single).watched watched ordinary, _,
          tried.settled single passes.opens rfl⟩
      | done works more closing =>
        have read := passes.reading.trans (Reading.passed more)
        refine ⟨(read.heard single).watched watched ordinary, _,
          read.settled single passes.opens ?_⟩
        have isDone : Line.classify (Line.decode middle.nextRaw) = .done := closing
        simp [Line.arrival, Event.isLine, isDone, Act.ending]
      | error works more closing =>
        have read := passes.reading.trans (Reading.passed more)
        refine ⟨(read.heard single).watched watched ordinary, _,
          read.settled single passes.opens ?_⟩
        have isError : Line.classify (Line.decode middle.nextRaw) = .error := closing
        simp [Line.arrival, Event.isLine, isError, Act.ending, Failure.isReadFailed]

/-- So does everything that only asks. -/
theorem asking_settling (watcher : Observer) : Asking (settling watcher) where
  execute := execute_settling watcher
  plain _ session := settling_aside session id rfl fun _ => rfl
  noAddress _ _ session := settling_aside session id rfl fun _ => rfl
  noRole session := settling_aside session id rfl fun _ => rfl
  passTime session _ := settling_aside session
    (fun usual => ⟨usual.streams, usual.link⟩) rfl fun _ => rfl

/-- Closing settles nothing. -/
theorem close_settling (watcher : Observer) : (settling watcher).Obeyed close := by
  intro session watched
  obtain ⟨released, written, ofStream⟩ :=
    Wire.close_releases session.toWire watched.ordinary
  have noRead : (Act.ending (Wire.close.perform session.toWire).1).any
      Failure.isReadFailed = false := by
    cases ending : Act.ending (Wire.close.perform session.toWire).1 with
    | none => rfl
    | some failure =>
      obtain ⟨fault, rfl, -⟩ := ofStream failure ending
      rfl
  unfold close onWire
  rw [Act.perform_onPart]
  exact settling_aside session (fun _ => released) noRead (fun _ => written) watched

end Session

end ThreadHost
