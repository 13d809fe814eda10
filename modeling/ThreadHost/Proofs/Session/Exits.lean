import Mathlib.Control.Monad.Basic
import ThreadHost.Proofs.Session.Reference
/-!
# How a round trip fails

Streams may refuse any access with a fault of the operating system or a rejected value. Whichever
access it is, `execute_exits` says what comes of it: a command that did not go out leaves no trace
but bytes that were not flushed, and behind one that did exactly the lines that were read are
gone and counted.
-/

namespace ThreadHost

/-- A fault of the operating system or a rejected value, as it is. -/
def Failure.OfStream (failure : Failure) : Prop :=
  ∃ fault : Fault, failure = .plain fault ∧ fault.isStreamFault = true

namespace Streams

/-- Streams that fail, if at all, with faults of the operating system and rejected values only. -/
structure Ordinary (streams : Streams) : Prop where
  writes : ∀ number failure, streams.writeFailure number = some failure → failure.OfStream
  flushes : ∀ number failure, streams.flushFailure number = some failure → failure.OfStream
  reads : ∀ number failure, streams.readFailure number = some failure → failure.OfStream

variable {streams : Streams} {failure : Failure}

/-- A closed input refuses as a stream may. -/
theorem Ordinary.writeFault (ordinary : streams.Ordinary)
    (fault : streams.writeFault? = some failure) : failure.OfStream := by
  unfold writeFault? at fault
  split at fault
  · cases fault
    exact ⟨streams.closedRefusal.fault, rfl, streams.closedRefusal.ofStream⟩
  · exact ordinary.writes _ _ fault

/-- A closed output refuses as a stream may. -/
theorem Ordinary.readFault (ordinary : streams.Ordinary)
    (fault : streams.readFault? = some failure) : failure.OfStream := by
  unfold readFault? at fault
  split at fault
  · cases fault
    exact ⟨streams.closedRefusal.fault, rfl, streams.closedRefusal.ofStream⟩
  · exact ordinary.reads _ _ fault

/-- Streams that behave like ordinary ones are ordinary. -/
theorem Ordinary.alike {before after : Streams} (ordinary : before.Ordinary)
    (alike : before.Alike after) : after.Ordinary where
  writes := by
    rw [alike.writeFailure]
    exact ordinary.writes
  flushes := by
    rw [alike.flushFailure]
    exact ordinary.flushes
  reads := by
    rw [alike.readFailure]
    exact ordinary.reads

end Streams

namespace Session

variable {before middle after session : Session} {command : String} {raws : List Bytes}

/-- A session to which nothing has happened but that bytes may have been written and not been
flushed. -/
def Untouched (before after : Session) : Prop :=
  ∃ written, after = { before with streams := { before.streams with written } }

/-- A write on ordinary streams goes through, or is rejected with a fault of the stream. Then the
session is as it was, but that the bytes may have been written. -/
theorem writeFor_cases (ordinary : session.streams.Ordinary) (command : String) (data : Bytes) :
    (writeFor command data).perform session = (.ok (), session.written data) ∨
      ∃ fault after, (writeFor command data).perform session =
          (.error (.writeRejected command (some fault)), after) ∧
        (after = session ∨ after = session.written data) := by
  rw [perform_writeFor]
  cases writes : session.streams.writeFault? with
  | some failure =>
    obtain ⟨fault, rfl, ofStream⟩ := ordinary.writeFault writes
    simp only [writeFailure, ofStream, if_true]
    exact .inr ⟨fault, session, rfl, .inl rfl⟩
  | none =>
    simp only
    cases flushes : (session.written data).streams.flushFault? with
    | some failure =>
      obtain ⟨fault, rfl, ofStream⟩ := ordinary.flushes _ _ flushes
      simp only [writeFailure, ofStream, if_true]
      exact .inr ⟨fault, session.written data, rfl, .inr rfl⟩
    | none => exact .inl rfl

/-- A session whose command has been written as one line and flushed, and that has read some raw
lines since. -/
structure Followed (before : Session) (command : String) (raws : List Bytes) (after : Session) :
    Prop where
  written : after.streams.written = before.streams.written ++ [commandBytes command]
  flushed : (before.written (commandBytes command)).streams.flushFault? = none
  commandsSent : after.stats.commandsSent = before.stats.commandsSent + 1
  lines : Line.cut before.streams.unread = raws ++ Line.cut after.streams.unread
  linesReceived : after.stats.linesReceived = before.stats.linesReceived + raws.length

/-- What is read behind a command that went out follows it. -/
theorem Reading.followed (reading : Reading (before.sent command) after raws)
    (flushed : (before.written (commandBytes command)).streams.flushFault? = none) :
    Followed before command raws after where
  written := reading.written
  flushed := flushed
  commandsSent := congrArg Stats.commandsSent reading.stats
  lines := reading.cut
  linesReceived := by
    rw [reading.stats, ← List.length_map Line.decode]
    rfl

/-- A line that passes takes one read. -/
theorem reads_passed (works : session.streams.readFault? = none) :
    session.passed.streams.reads = session.streams.reads + 1 := by
  have isOpen := (Streams.readFault?_eq_none_iff.1 works).1
  simp [passed, heard, notified, Wire.taken, Wire.tried, isOpen]

/-- Every line that passes takes one read. -/
theorem Passes.reads (passes : Passes before raws after) :
    after.streams.reads = before.streams.reads + raws.length := by
  induction passes with
  | none session => rfl
  | @line session after raws works more opens heard rest inductionHypothesis =>
    rw [inductionHypothesis, reads_passed works, List.length_cons]
    omega

/-- The fault that ends an answer is that of the read behind the lines that passed. -/
theorem Passes.readFault (passes : Passes before raws after) :
    after.streams.readFault? =
      { before.streams with reads := before.streams.reads + raws.length }.readFault? := by
  have alike := passes.reading.alike
  simp only [Streams.readFault?, alike.outputClosed, alike.closedRefusal, alike.readFailure,
    passes.reads]

/-- How a round trip ends, and what it leaves in each case. -/
inductive ExitsProperly (before : Session) (command : String) :
    Except Failure (List String) × Session → Prop where
  | answered {content : List String} {raws : List Bytes} {after : Session}
      (followed : Followed before command raws after) :
      ExitsProperly before command (.ok content, after)
  | severalLines (several : Command.isSingleLine command = false) :
      ExitsProperly before command (.error (.plain (.severalLines command)), before)
  | writeRejected {fault : Fault} {after : Session} (untouched : Untouched before after)
      (ofStream : fault.isStreamFault = true)
      (source : before.streams.writeFault? = some (.plain fault) ∨
        (before.written (commandBytes command)).streams.flushFault? = some (.plain fault)) :
      ExitsProperly before command (.error (.writeRejected command (some fault)), after)
  | truncated {raws : List Bytes} {after : Session} (followed : Followed before command raws after)
      (ended : after.streams.unread = []) :
      ExitsProperly before command (.error (truncatedAnswer command), after)
  | readFailed {fault : Fault} {raws : List Bytes} {after : Session}
      (followed : Followed before command raws after) (ofStream : fault.isStreamFault = true)
      (source : { before.streams with reads := before.streams.reads + raws.length }.readFault? =
        some (.plain fault)) :
      ExitsProperly before command
        (.error (.readFailed command ("read failed: " ++ fault.message) (some fault)), after)
  | deviceError {raws : List Bytes} {closing : Bytes} {after : Session}
      (followed : Followed before command (raws ++ [closing]) after)
      (error : Line.classify (Line.decode closing) = .error) :
      ExitsProperly before command
        (.error (.deviceError command (some (Line.decode closing)) none none), after)

/-- Whichever access ends the answer, the round trip ends properly. -/
theorem Ends.exits {result : Except Failure (List String) × Session}
    (ordinary : session.streams.Ordinary)
    (flushed : (session.written (commandBytes command)).streams.flushFault? = none)
    (passes : Passes (session.sent command) raws middle)
    (ends : Ends command (content raws) middle result) : ExitsProperly session command result := by
  have reading := passes.reading
  have tried : Reading (session.sent command) middle.tried raws := by
    have all := reading.trans (Reading.tried middle)
    rwa [List.append_nil] at all
  cases ends with
  | failed broken =>
    have sentOrdinary : (session.sent command).streams.Ordinary :=
      ⟨ordinary.writes, ordinary.flushes, ordinary.reads⟩
    obtain ⟨fault, rfl, ofStream⟩ := (sentOrdinary.alike reading.alike).readFault broken
    simp only [readFailure, ofStream, if_true]
    rw [passes.readFault] at broken
    exact .readFailed (tried.followed flushed) ofStream broken
  | truncated works ended =>
    have nothing := (Reading.tried middle).unread
    rw [ended] at nothing
    exact .truncated (tried.followed flushed) nothing.symm
  | done works more closing =>
    exact .answered ((reading.trans (Reading.passed more)).followed flushed)
  | error works more closing =>
    exact .deviceError ((reading.trans (Reading.passed more)).followed flushed) closing

/-- A round trip on ordinary streams gives an answer, or refuses a command of several lines, or
fails as a link or as a device does. Each of these failures names the command and the fault of
the stream that caused it. Before the command is out nothing is read, counted or told; behind it,
exactly the lines that were read are. -/
theorem execute_exits (session : Session) (ordinary : session.streams.Ordinary)
    (calm : session.Calm) (command : String) :
    ExitsProperly session command ((execute command).perform session) := by
  have all := executes calm command
  generalize (execute command).perform session = result at all
  cases all with
  | several several => exact .severalLines several
  | unwritten broken =>
    obtain ⟨fault, rfl, ofStream⟩ := ordinary.writeFault broken
    simp only [writeFailure, ofStream, if_true]
    exact .writeRejected ⟨_, rfl⟩ ofStream (.inl broken)
  | unflushed broken =>
    obtain ⟨fault, rfl, ofStream⟩ := ordinary.flushes _ _ broken
    simp only [writeFailure, ofStream, if_true]
    exact .writeRejected ⟨_, rfl⟩ ofStream (.inr broken)
  | ended flushes passes ends => exact ends.exits ordinary flushes passes

/-- A session whose second read fails. -/
def brokenOutput : Session :=
  { onOutput [] [.named "log"] (fun _ _ => .removeSelf) with
    streams := {
      unread := Text.Utf8.encode "leader\nDone\n".toList
      readFailure := fun number =>
        if number = 1 then some (.plain (.system .brokenPipe "pipe closed")) else none } }

theorem execute_exits_brokenOutput :
    brokenOutput.streams.Ordinary ∧ brokenOutput.Calm ∧
      ((execute "state").perform brokenOutput).1 =
        .error (.readFailed "state" "read failed: pipe closed"
          (some (.system .brokenPipe "pipe closed"))) ∧
      ExitsProperly brokenOutput "state" ((execute "state").perform brokenOutput) := by
  have ordinary : brokenOutput.streams.Ordinary := by
    constructor <;> intro number failure fails
    · simp [brokenOutput] at fails
    · simp [brokenOutput] at fails
    · simp only [brokenOutput] at fails
      split at fails
      · rw [← Option.some.inj fails]
        exact ⟨_, rfl, rfl⟩
      · simp at fails
  have calm : brokenOutput.Calm := by
    intro observer member passed
    cases observer <;> rfl
  exact ⟨ordinary, calm, by decide +kernel, execute_exits brokenOutput ordinary calm "state"⟩

end Session

end ThreadHost
