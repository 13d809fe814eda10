import ThreadHost.Proofs.Session.Notice
import ThreadHost.Session.Exchange
/-!
# Single accesses to the streams

One equation for each way a write, a flush or a read of a line can go. What an access leaves behind
is a definition of its own (`written`, `sent`, `tried`, `heard`), so that whole exchanges are
stated over these and nothing below them is opened again. A line that passes is heard by all
observers, or an observer fails and ends the access (`interrupted`).
-/

namespace ThreadHost

namespace Streams

/-- How the next write fails, if it does. -/
def writeFault? (streams : Streams) : Option Failure :=
  if streams.inputClosed then some (.plain streams.closedRefusal.fault)
  else streams.writeFailure streams.written.length

/-- How a flush fails after what has been written, if it does. -/
def flushFault? (streams : Streams) : Option Failure :=
  streams.flushFailure streams.written.length

/-- How the next read fails, if it does. -/
def readFault? (streams : Streams) : Option Failure :=
  if streams.outputClosed then some (.plain streams.closedRefusal.fault)
  else streams.readFailure streams.reads

/-- Streams that are open and never fail. -/
structure Steady (streams : Streams) : Prop where
  inputOpen : streams.inputClosed = false
  outputOpen : streams.outputClosed = false
  writes : ∀ number, streams.writeFailure number = none
  flushes : ∀ number, streams.flushFailure number = none
  reads : ∀ number, streams.readFailure number = none

variable {streams : Streams}

/-- The next write works where the input is open and does not fail then. -/
theorem writeFault?_eq_none_iff : streams.writeFault? = none ↔
    streams.inputClosed = false ∧ streams.writeFailure streams.written.length = none := by
  cases closed : streams.inputClosed <;> simp [writeFault?, closed]

/-- The next read works where the output is open and does not fail then. -/
theorem readFault?_eq_none_iff : streams.readFault? = none ↔
    streams.outputClosed = false ∧ streams.readFailure streams.reads = none := by
  cases closed : streams.outputClosed <;> simp [readFault?, closed]

theorem Steady.writeFault?_eq_none (steady : streams.Steady) : streams.writeFault? = none := by
  simp [writeFault?, steady.inputOpen, steady.writes]

theorem Steady.readFault?_eq_none (steady : streams.Steady) : streams.readFault? = none := by
  simp [readFault?, steady.outputOpen, steady.reads]

end Streams

namespace Wire

/-- A wire after some bytes were written. -/
def written (wire : Wire) (data : Bytes) : Wire :=
  { wire with streams := { wire.streams with written := wire.streams.written ++ [data] } }

/-- A wire after a read was tried: time has passed, unless the output was closed. -/
def tried (wire : Wire) : Wire :=
  if wire.streams.outputClosed then wire
  else { wire with
    host := wire.host.advance (wire.streams.delay wire.streams.reads)
    streams := { wire.streams with reads := wire.streams.reads + 1 } }

/-- A wire after the next raw line was read. -/
def taken (wire : Wire) : Wire :=
  { wire.tried with streams := { wire.tried.streams with
      unread := (Line.next wire.streams.unread).2
      consumed := wire.streams.consumed + (Line.next wire.streams.unread).1.length } }

variable (wire : Wire)

/-- A write either fails and leaves the wire as it was, or appends its data. -/
theorem perform_write (data : Bytes) :
    (write data).perform wire =
      match wire.streams.writeFault? with
      | some failure => (.error failure, wire)
      | none => (.ok (), wire.written data) := by
  unfold write Streams.writeFault?
  by_cases closed : wire.streams.inputClosed
  · simp [Act.perform_bind, closed]
  · cases fault : wire.streams.writeFailure wire.streams.written.length with
    | none => simp [Act.perform_bind, closed, fault, written]
    | some failure => simp [Act.perform_bind, closed, fault]

/-- A flush changes nothing. -/
theorem perform_flush :
    flush.perform wire =
      match wire.streams.flushFault? with
      | some failure => (.error failure, wire)
      | none => (.ok (), wire) := by
  unfold flush Streams.flushFault?
  cases fault : wire.streams.flushFailure wire.streams.written.length <;>
    simp [Act.perform_bind, fault]

/-- A read either fails, which is a try all the same, or takes the next raw line. -/
theorem perform_readLine :
    readLine.perform wire =
      match wire.streams.readFault? with
      | some failure => (.error failure, wire.tried)
      | none => (.ok (Line.next wire.streams.unread).1, wire.taken) := by
  unfold readLine Streams.readFault?
  by_cases closed : wire.streams.outputClosed
  · simp [Act.perform_bind, closed, tried]
  · cases fault : wire.streams.readFailure wire.streams.reads with
    | none => simp [Act.perform_bind, closed, fault, tried, taken, Except.map]
    | some failure => simp [Act.perform_bind, closed, fault, tried]

/-- At the end of the output there is nothing to take. -/
theorem taken_of_end {wire : Wire} (ended : wire.streams.unread = []) :
    wire.taken = wire.tried := by
  obtain ⟨host, streams, link⟩ := wire
  obtain ⟨unread⟩ := streams
  cases ended
  unfold taken tried
  split <;> rfl

end Wire

namespace Session

/-- What a command is on the wire. -/
def commandBytes (command : String) : Bytes := Text.Utf8.encode command.toList ++ [Line.feed]

/-- A session after some bytes were written. -/
def written (session : Session) (data : Bytes) : Session :=
  { session with toWire := session.toWire.written data }

/-- A session after a command went out. -/
def sent (session : Session) (command : String) : Session :=
  { session.written (commandBytes command) with
    stats := { session.stats with commandsSent := session.stats.commandsSent + 1 } }.notified
      .sent command

/-- A session after a read was tried. -/
def tried (session : Session) : Session := { session with toWire := session.toWire.tried }

/-- The raw line that is read next. -/
def nextRaw (session : Session) : Bytes := (Line.next session.streams.unread).1

/-- The line that is read next. -/
def nextLine (session : Session) : String := Line.decode session.nextRaw

/-- A session after the next line was read and passed on. -/
def heard (session : Session) : Session :=
  { session with
    toWire := session.toWire.taken
    stats := { session.stats with linesReceived := session.stats.linesReceived + 1 } }.notified
      .received session.nextLine

variable {session : Session} {command : String} {data : Bytes} {failure : Failure}

/-- A failure is renamed, and nothing else changes. -/
theorem perform_renameFailure {α : Type} (rename : Failure → Failure) (act : Act Session α) :
    (renameFailure rename act).perform session =
      ((act.perform session).1.mapError rename, (act.perform session).2) := by
  have run : (renameFailure rename act).perform session = renameFailure rename act session := rfl
  rw [run, renameFailure]
  rcases act.perform session with ⟨_ | _, _⟩ <;> rfl

/-- A write and a flush on behalf of a command. What was written stays written when the flush
fails. -/
theorem perform_writeFor (command : String) (data : Bytes) :
    (writeFor command data).perform session =
      match session.streams.writeFault? with
      | some failure => (.error (writeFailure command failure), session)
      | none =>
        match (session.written data).streams.flushFault? with
        | some failure => (.error (writeFailure command failure), session.written data)
        | none => (.ok (), session.written data) := by
  unfold writeFor
  rw [perform_renameFailure, onWire, Act.perform_onPart, Act.perform_bind, Wire.perform_write]
  cases session.streams.writeFault? with
  | some failure => rfl
  | none =>
    simp only [Wire.perform_flush, written]
    cases (session.toWire.written data).streams.flushFault? <;> rfl

/-- A command of several lines goes nowhere. -/
theorem perform_send_several {command : String} (several : Command.isSingleLine command = false) :
    (send command).perform session = (.error (.plain (.severalLines command)), session) := by
  simp [send, Command.encode, several]

/-- A session in which somebody failed when told of the last line: who was told, and who is left,
hangs on who it was. -/
def interrupted (session : Session) (notices : List Notice) (observers : List Observer) :
    Session := { session with notices, observers }

/-- A command of one line counts and is passed on once it was written and flushed. -/
theorem perform_send {command : String} (single : Command.isSingleLine command = true)
    (heard : session.audience.hears (.sent, command) = true) :
    (send command).perform session =
      match session.streams.writeFault? with
      | some failure => (.error (writeFailure command failure), session)
      | none =>
        match (session.written (commandBytes command)).streams.flushFault? with
        | some failure =>
          (.error (writeFailure command failure), session.written (commandBytes command))
        | none => (.ok (), session.sent command) := by
  unfold send
  rw [Command.encode, if_pos single, Act.perform_bind, ← commandBytes, perform_writeFor]
  cases session.streams.writeFault? with
  | some failure => rfl
  | none =>
    simp only
    cases (session.written (commandBytes command)).streams.flushFault? with
    | some failure => rfl
    | none =>
      simp only [Act.perform_bind, count, Act.perform_modify]
      refine perform_notify ?_
      exact heard

/-- A command that somebody does not hear has gone out if it could be written and flushed. -/
theorem perform_send_of_unheard {command : String} (single : Command.isSingleLine command = true)
    (unheard : session.audience.hears (.sent, command) = false) :
    ∃ fault notices observers, (send command).perform session =
      match session.streams.writeFault? with
      | some failure => (.error (writeFailure command failure), session)
      | none =>
        match (session.written (commandBytes command)).streams.flushFault? with
        | some failure =>
          (.error (writeFailure command failure), session.written (commandBytes command))
        | none => (.error (.plain fault), (session.sent command).interrupted notices observers) := by
  let counted : Session := { session.written (commandBytes command) with
    stats := { session.stats with commandsSent := session.stats.commandsSent + 1 } }
  have stillUnheard : counted.audience.hears (.sent, command) = false := unheard
  obtain ⟨fault, notices, observers, failed⟩ := perform_notify_of_failing stillUnheard
  refine ⟨fault, notices, observers, ?_⟩
  unfold send
  rw [Command.encode, if_pos single, Act.perform_bind, ← commandBytes, perform_writeFor]
  cases session.streams.writeFault? with
  | some failure => rfl
  | none =>
    simp only
    cases (session.written (commandBytes command)).streams.flushFault? with
    | some failure => rfl
    | none =>
      simp only [Act.perform_bind, count, Act.perform_modify]
      exact failed

/-- A session stays calm when a command goes out. -/
theorem Calm.sent (calm : session.Calm) (command : String) : (session.sent command).Calm :=
  Audience.Calm.told calm (.sent, command)

/-- The audience of a session goes on with a command that goes out. -/
theorem audience_sent (session : Session) (command : String) :
    (session.sent command).audience = session.audience.toldAll [(.sent, command)] := rfl

/-- Everybody is told of a command that goes out. -/
theorem notices_sent (session : Session) (command : String) :
    (session.sent command).notices.map Notice.delivery =
      session.notices.map Notice.delivery ++
        session.audience.deliveries [(.sent, command)] :=
  notices_notified _ _ _

/-- Steady streams stay steady when a command goes out. -/
theorem steady_sent (steady : session.streams.Steady) (command : String) :
    (session.sent command).streams.Steady :=
  ⟨steady.inputOpen, steady.outputOpen, steady.writes, steady.flushes, steady.reads⟩

/-- A read on behalf of a command. -/
theorem perform_readRaw (command : String) :
    (renameFailure (readFailure command) (onWire Wire.readLine)).perform session =
      match session.streams.readFault? with
      | some failure => (.error (readFailure command failure), session.tried)
      | none => (.ok session.nextRaw, { session with toWire := session.toWire.taken }) := by
  rw [perform_renameFailure, onWire, Act.perform_onPart, Wire.perform_readLine]
  cases session.streams.readFault? <;> rfl

/-- A read of a line that fails. -/
theorem perform_readLine_of_fault (command : String)
    (fault : session.streams.readFault? = some failure) :
    (readLine command).perform session =
      (.error (readFailure command failure), session.tried) := by
  unfold readLine
  rw [Act.perform_bind, perform_readRaw, fault]

/-- A read of a line at the end of the output. -/
theorem perform_readLine_of_end (command : String) (works : session.streams.readFault? = none)
    (ended : session.streams.unread = []) :
    (readLine command).perform session = (.ok none, session.tried) := by
  have nothing : session.nextRaw = [] := by rw [nextRaw, ended, Line.next]
  unfold readLine
  rw [Act.perform_bind, perform_readRaw, works]
  simp only [nothing, if_true, Act.perform_pure, Wire.taken_of_end ended, tried]

/-- A read of a line that is there. -/
theorem perform_readLine_of_more (command : String)
    (works : session.streams.readFault? = none) (more : session.streams.unread ≠ [])
    (heard : session.audience.hears (.received, session.nextLine) = true) :
    (readLine command).perform session = (.ok (some session.nextLine), session.heard) := by
  have line : session.nextRaw ≠ [] := Line.next_fst_ne_nil more
  unfold readLine
  rw [Act.perform_bind, perform_readRaw, works]
  simp only [if_neg line, Act.perform_bind, count, Act.perform_modify]
  rw [perform_notify (by exact heard)]
  rfl

/-- A read of a line that is there and that somebody does not hear. -/
theorem perform_readLine_of_unheard (command : String)
    (works : session.streams.readFault? = none) (more : session.streams.unread ≠ [])
    (unheard : session.audience.hears (.received, session.nextLine) = false) :
    ∃ fault notices observers, (readLine command).perform session =
      (.error (.plain fault), session.heard.interrupted notices observers) := by
  have line : session.nextRaw ≠ [] := Line.next_fst_ne_nil more
  let counted : Session := { session with
    toWire := session.toWire.taken
    stats := { session.stats with linesReceived := session.stats.linesReceived + 1 } }
  have stillUnheard : counted.audience.hears (.received, session.nextLine) = false := unheard
  obtain ⟨fault, notices, observers, failed⟩ := perform_notify_of_failing stillUnheard
  refine ⟨fault, notices, observers, ?_⟩
  unfold readLine
  rw [Act.perform_bind, perform_readRaw, works]
  simp only [if_neg line, Act.perform_bind, count, Act.perform_modify]
  have whole : (notify .received (Line.decode session.nextRaw)).perform counted = _ := failed
  rw [whole]
  rfl

end Session

end ThreadHost
