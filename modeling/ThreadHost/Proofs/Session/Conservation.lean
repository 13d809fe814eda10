import ThreadHost.Proofs.Session.Watched
import ThreadHost.Session.Open
/-!
# Counters, observer and wire agree

Over any run of operations the counters are those of what an observer was told, every command that
went out is settled once, and the wire holds these commands and the blank lines of the resets
(`run_accounted`). Each step settles its own commands (`step_settled`), each step of a run does so
(`run_settled`), and the run adds them up.
-/

namespace ThreadHost.Session

open Act (Law)

variable {watcher : Observer} {session : Session}

/-- Whether the input of the device takes a command. -/
def accepts (session : Session) (command : String) : Bool :=
  session.streams.writeFault?.isNone &&
    (session.written (commandBytes command)).streams.flushFault?.isNone

/-- The blank lines behind a reset; none if they cannot be written. -/
def blankLines : Except Fault Nat → Bytes
  | .ok lines => List.replicate lines Line.feed
  | .error _ => []

/-- Whether a step was a reset whose command was taken. -/
def Step.resetAccepted (step : Step) : Bool :=
  match step.operation with
  | .factoryReset => accepts step.before resetCommand
  | _ => false

/-- What an observer was told in a step. -/
def Step.news (watcher : Observer) (step : Step) : List Event :=
  (log watcher step.after).drop (log watcher step.before).length

/-- What a step writes: each of its commands, and blank lines behind that of a reset. -/
def Step.bytes (watcher : Observer) (blank : Bytes) (step : Step) : Bytes :=
  (step.news watcher).flatMap Event.bytes ++ if step.resetAccepted then blank else []

/-- A session stays watched when a command goes out. -/
theorem Watched.sent {command : String} (watched : Watched watcher session)
    (single : Command.isSingleLine command = true) : Watched watcher (session.sent command) :=
  ((Reading.refl (session.sent command)).heard single).watched watched
    (watched.ordinary.written (commandBytes command))

/-- A reset that went out, and the blank lines that were written behind it. -/
theorem settled_reset {ending : Option Failure} {after : Session} {blank : Bytes}
    (noRead : ending.any Failure.isReadFailed = false)
    (traffic : after.traffic = (session.sent resetCommand).traffic)
    (written : ending.any Failure.isWriteRejected = false →
      after.streams.written.flatten =
        (session.sent resetCommand).streams.written.flatten ++ blank) :
    Settled 1 blank session ending after [(.sent, resetCommand)] where
  traffic := traffic
  balance := by
    rw [noRead]
    rfl
  wire accepted := by
    have sent : (session.sent resetCommand).streams.written =
      session.streams.written ++ [commandBytes resetCommand] := rfl
    rw [written accepted, sent]
    simp [Event.bytes]

/-- A command of one line goes out if it is accepted. Otherwise it is rejected, and the session is
as it was, but that its bytes may have been written. -/
theorem send_cases {command : String} (watched : Watched watcher session)
    (single : Command.isSingleLine command = true) :
    (accepts session command = true ∧
        (send command).perform session = (.ok (), session.sent command)) ∨
      (accepts session command = false ∧ ∃ fault after, (send command).perform session =
          (.error (.writeRejected command (some fault)), after) ∧
        (after = session ∨ after = session.written (commandBytes command))) := by
  rw [perform_send single (Audience.Calm.hears watched.calm _)]
  unfold accepts
  cases writes : session.streams.writeFault? with
  | some failure =>
    obtain ⟨fault, rfl, ofStream⟩ := watched.ordinary.streams.writeFault writes
    simp only [writeFailure, ofStream, if_true]
    exact .inr ⟨rfl, fault, _, rfl, .inl rfl⟩
  | none =>
    cases flushes : (session.written (commandBytes command)).streams.flushFault? with
    | some failure =>
      obtain ⟨fault, rfl, ofStream⟩ := watched.ordinary.streams.flushes _ _ flushes
      simp only [writeFailure, ofStream, if_true]
      exact .inr ⟨rfl, fault, _, rfl, .inr rfl⟩
    | none => exact .inl ⟨rfl, rfl⟩

/-- A reset settles itself when its command is accepted; what comes behind the command are the blank
lines, if they can be written. -/
theorem factoryReset_settled (watched : Watched watcher session) :
    Watched watcher (factoryReset.perform session).2 ∧ ∃ events,
      Settled (if accepts session resetCommand then 1 else 0)
        (if accepts session resetCommand then blankLines session.padding else []) session
        (Act.ending (factoryReset.perform session).1) (factoryReset.perform session).2 events := by
  have single : Command.isSingleLine resetCommand = true := by decide
  unfold factoryReset
  rw [Act.perform_bind]
  rcases send_cases watched single with
    ⟨accepted, sends⟩ | ⟨refused, fault, after, sends, same⟩
  · rw [sends, accepted]
    have sent := watched.sent single
    have same : (session.sent resetCommand).padding = session.padding := rfl
    simp only [Act.perform_bind, Act.perform_get, same, if_true]
    cases session.padding with
    | error fault => exact ⟨sent, _, settled_reset rfl rfl fun _ => (List.append_nil _).symm⟩
    | ok lines =>
      simp only [Act.ofFault, Act.perform_pure]
      have filled : Watched watcher
          ((session.sent resetCommand).written (List.replicate lines Line.feed)) :=
        (heard_nothing (session.sent resetCommand) _ _ _).watched sent (sent.ordinary.written _)
      rcases writeFor_cases sent.ordinary.streams resetCommand (List.replicate lines Line.feed) with
        passed | ⟨fault, after, rejected, rfl | rfl⟩
      · rw [passed]
        refine ⟨filled, _, settled_reset rfl rfl fun _ => ?_⟩
        simp [written, Wire.written, blankLines]
      · rw [rejected]
        exact ⟨sent, _, settled_reset rfl rfl fun taken => Bool.noConfusion taken⟩
      · rw [rejected]
        exact ⟨filled, _, settled_reset rfl rfl fun taken => Bool.noConfusion taken⟩
  · rw [sends, refused]
    rcases same with rfl | rfl
    · exact settling_aside _ id rfl (fun _ => rfl) watched
    · exact settling_aside _ (fun usual => usual.written _) rfl
        (fun taken => Bool.noConfusion taken) watched

/-- A step leaves a watched session watched, and settles the commands of which the observer was
told in it. -/
theorem step_settled (operation : Operation) (watched : Watched watcher session) :
    Watched watcher (operation.step session).after ∧
      Settled (if (operation.step session).resetAccepted then 1 else 0)
        (if (operation.step session).resetAccepted then blankLines session.padding else [])
        session (Act.ending (operation.step session).outcome) (operation.step session).after
        ((operation.step session).news watcher) := by
  -- What the observer was told are the events that passed.
  have told : ∀ {resets blank events}, Watched watcher (operation.step session).after →
      Settled resets blank session (Act.ending (operation.step session).outcome)
        (operation.step session).after events → (operation.step session).news watcher = events := by
    intro resets blank events after settled
    have before : (operation.step session).before = session := rfl
    rw [Step.news, before, after.told, watched.told, settled.traffic, List.drop_left]
  suffices settles : Watched watcher (operation.step session).after ∧ ∃ events,
      Settled (if (operation.step session).resetAccepted then 1 else 0)
        (if (operation.step session).resetAccepted then blankLines session.padding else [])
        session (Act.ending (operation.step session).outcome) (operation.step session).after
        events by
    obtain ⟨after, events, settled⟩ := settles
    rw [told after settled]
    exact ⟨after, settled⟩
  -- Everything but a reset obeys the law of asking.
  have others : operation ≠ .factoryReset → (settling watcher).Obeyed (perform operation) :=
    fun notReset => (asking_settling watcher).perform operation
      (fun dataset _ => (asking_settling watcher).join dataset fun session =>
        settling_aside session id rfl fun _ => rfl)
      (fun reset => absurd reset notReset) fun _ => close_settling watcher
  cases operation with
  | factoryReset =>
    have same : Act.ending (Operation.factoryReset.step session).outcome =
          Act.ending (factoryReset.perform session).1 ∧
        (Operation.factoryReset.step session).after = (factoryReset.perform session).2 := by
      unfold Operation.step perform
      rw [Act.perform_bind]
      generalize factoryReset.perform session = result
      obtain ⟨_ | _, _⟩ := result <;> exact ⟨rfl, rfl⟩
    rw [same.1, same.2]
    exact factoryReset_settled watched
  | _ => exact others (by simp) session watched

/-- Every operation keeps the number of blank lines. -/
theorem padding_step (operation : Operation) (session : Session) :
    (operation.step session).after.padding = session.padding :=
  perform_keeping Session.padding (fun _ _ _ _ _ _ => rfl) operation
    (fun _ _ _ => rfl) session

/-- The commands of some steps, if each step has settled its own. -/
theorem countP_news {steps : List Step}
    (settled : ∀ step ∈ steps, (step.news watcher).countP Event.isCommand =
      (step.news watcher).countP (Event.isLine .done) +
        (step.news watcher).countP (Event.isLine .error) +
        (if step.fails Failure.isReadFailed then 1 else 0) +
        if step.resetAccepted then 1 else 0) :
    (steps.flatMap (Step.news watcher)).countP Event.isCommand =
      (steps.flatMap (Step.news watcher)).countP (Event.isLine .done) +
        (steps.flatMap (Step.news watcher)).countP (Event.isLine .error) +
        steps.countP (Step.fails Failure.isReadFailed) + steps.countP Step.resetAccepted := by
  induction steps with
  | nil => rfl
  | cons step steps inductionHypothesis =>
    obtain ⟨here, others⟩ := List.forall_mem_cons.1 settled
    have rest := inductionHypothesis others
    simp only [List.flatMap_cons, List.countP_append, List.countP_cons, here, rest]
    omega

/-- A number of blank lines that a session takes is at least the least one. -/
theorem leastPadding_le {platform : Platform} {setting : Setting Int} {lines : Nat}
    (taken : paddingOf platform setting = .ok (.ok lines)) : leastPadding ≤ lines := by
  cases setting with
  | proper count =>
    by_cases few : count < leastPadding
    · simp [paddingOf, few] at taken
    · have writes : writable platform count.toNat = .ok lines := by
        simpa only [paddingOf, few, if_false, Except.ok.injEq] using taken
      have same := of_writable_ok writes
      omega
  | stray datum =>
    cases datum with
    | real value =>
      by_cases few : value < Float.ofNat leastPadding <;> simp [paddingOf, few] at taken
    | _ => cases taken

/-- What agrees after some steps of a session that is watched from the start. -/
structure Accounted (watcher : Observer) (start : Session) (steps : List Step)
    (after : Session) : Prop where
  commandsSent : after.stats.commandsSent = (log watcher after).countP Event.isCommand
  linesReceived : after.stats.linesReceived = (log watcher after).countP Event.isReceived
  promptLines : after.stats.promptLines = (log watcher after).countP (Event.isLine .prompt)
  /-- Each command is settled by `Done`, by an error line, by a failure to read its answer, or by
  being that of a reset. -/
  settled : after.stats.commandsSent =
    (log watcher after).countP (Event.isLine .done) +
      (log watcher after).countP (Event.isLine .error) +
      steps.countP (Step.fails Failure.isReadFailed) + steps.countP Step.resetAccepted
  /-- The observer was told step by step. -/
  news : log watcher after = steps.flatMap (Step.news watcher)
  /-- While every write was taken, the wire holds what the steps write, in order. -/
  wire : (∀ step ∈ steps, step.fails Failure.isWriteRejected = false) →
    after.streams.written.flatten = start.streams.written.flatten ++
      steps.flatMap (Step.bytes watcher (blankLines start.padding))
  encoded : ∀ command, (.sent, command) ∈ log watcher after →
    Command.encode command = .ok (commandBytes command)
  padding : ∀ lines, start.padding = .ok lines → leastPadding ≤ lines

/-- A session on an ordinary wire is watched from the start if no observer fails or leaves and one
of them is told once. -/
theorem watched_of_make {wire : Wire} {options : Options} {start : Session}
    (made : make wire options = .ok start) (ordinary : wire.Ordinary) {observers : List Observer}
    {manner : Manner}
    (harmless : ∀ observer ∈ observers, observer.Calm manner ∧ observer.Stays manner)
    (once : observers.count watcher = 1) :
    Watched watcher { start with observers, manner } ∧
      log watcher { start with observers, manner } = [] ∧
      paddingOf wire.host.platform options.padding = .ok start.padding := by
  obtain ⟨padding, taken, rfl⟩ := of_make_ok made
  refine ⟨?_, rfl, taken⟩
  exact {
    ordinary
    calm := fun observer member => (harmless observer member).1
    stay := fun observer member => (harmless observer member).2
    once
    told := rfl
    commandsSent := rfl
    linesReceived := rfl
    promptLines := rfl
    single := fun command member => absurd member List.not_mem_nil }

/-- Over a run of a watched session each step tells the observer more and settles its own commands,
and the session stays watched. -/
theorem run_settled (watched : Watched watcher session) (operations : List Operation) :
    (∀ step ∈ run operations session,
      log watcher step.after = log watcher step.before ++ step.news watcher ∧
        Settled (if step.resetAccepted then 1 else 0)
          (if step.resetAccepted then blankLines session.padding else []) step.before
          (Act.ending step.outcome) step.after (step.news watcher)) ∧
      Watched watcher (afterRun operations session) := by
  -- Every step starts watched and with the number of blank lines that was chosen.
  have keeps : ∀ (operation : Operation) before,
      Watched watcher before ∧ before.padding = session.padding →
        Watched watcher (operation.step before).after ∧
          (operation.step before).after.padding = session.padding :=
    fun operation before ⟨watched, padding⟩ =>
      ⟨(step_settled operation watched).1, (padding_step operation before).trans padding⟩
  constructor
  · intro step member
    obtain ⟨operation, before, ⟨watched, padding⟩, rfl⟩ := of_mem_run keeps ⟨watched, rfl⟩ member
    obtain ⟨after, settled⟩ := step_settled operation watched
    rw [padding] at settled
    refine ⟨?_, settled⟩
    rw [after.told, settled.traffic, ← watched.told]
    rfl
  · exact (afterRun_keeps keeps operations ⟨watched, rfl⟩).1

/-- Counters, observer and wire agree after any run of operations of a session that is watched from
the start, whatever fails on its wire with a fault of the operating system or a rejected value. -/
theorem run_accounted (wire : Wire) (options : Options) (start : Session)
    (made : make wire options = .ok start) (ordinary : wire.Ordinary) (observers : List Observer)
    (manner : Manner)
    (harmless : ∀ observer ∈ observers, observer.Calm manner ∧ observer.Stays manner)
    (watcher : Observer) (once : observers.count watcher = 1) (operations : List Operation) :
    Accounted watcher { start with observers, manner }
      (run operations { start with observers, manner })
      (afterRun operations { start with observers, manner }) := by
  obtain ⟨watched, silent, taken⟩ := watched_of_make made ordinary harmless once
  obtain ⟨steps, last⟩ := run_settled watched operations
  have news : log watcher (afterRun operations { start with observers, manner }) =
      (run operations { start with observers, manner }).flatMap (Step.news watcher) := by
    have all := afterRun_append (log watcher) (Step.news watcher) operations
      fun step member => (steps step member).1
    rwa [silent, List.nil_append] at all
  have sent : (afterRun operations { start with observers, manner }).stats.commandsSent =
      (log watcher (afterRun operations { start with observers, manner })).countP
        Event.isCommand := by
    rw [last.told]
    exact last.commandsSent
  exact {
    commandsSent := sent
    linesReceived := by
      rw [last.told]
      exact last.linesReceived
    promptLines := by
      rw [last.told]
      exact last.promptLines
    settled := by
      rw [sent, news]
      exact countP_news fun step member => (steps step member).2.balance
    news
    wire := fun accepted =>
      afterRun_append (fun session => session.streams.written.flatten) _ operations
        fun step member => (steps step member).2.wire (accepted step member)
    encoded := by
      intro command member
      rw [last.told] at member
      rw [Command.encode, if_pos (last.single command member), commandBytes]
    padding := by
      intro lines same
      have chosen : start.padding = .ok lines := same
      rw [chosen] at taken
      exact leastPadding_le taken }

/-- A device that answers, reports an error, and falls silent. -/
def fallsSilent : Wire where
  streams := { unread := Text.Utf8.encode "> state\nleader\nDone\nError: busy\nfe80::1\n".toList }

/-- Somebody who takes note of every line. -/
def noteTaker : Observer := .named "log"

/-- Operations that are answered, refused, not answered by design, and cut short. -/
def untilSilence : List Operation :=
  [.getState, .factoryReset, .getAddresses, .getAddresses, .close]

theorem run_accounted_fallsSilent :
    ∃ start, make fallsSilent {} = .ok start ∧ fallsSilent.Ordinary ∧
      (∀ observer ∈ [noteTaker], observer.Calm start.manner ∧ observer.Stays start.manner) ∧
      [noteTaker].count noteTaker = 1 ∧
      (∀ step ∈ run untilSilence { start with observers := [noteTaker] },
        step.fails Failure.isWriteRejected = false) ∧
      (afterRun untilSilence { start with observers := [noteTaker] }).stats.commandsSent = 4 ∧
      Accounted noteTaker { start with observers := [noteTaker] }
        (run untilSilence { start with observers := [noteTaker] })
        (afterRun untilSilence { start with observers := [noteTaker] }) := by
  have ordinary : fallsSilent.Ordinary := Wire.ordinary_of_steady (steady_onOutput _ [])
  have harmless : ∀ observer ∈ [noteTaker],
      observer.Calm (fun _ _ => .none) ∧ observer.Stays fun _ _ => .none := fun observer _ =>
    ⟨Observer.calm_of_manner rfl observer, Observer.stays_of_manner rfl observer⟩
  have once : [noteTaker].count noteTaker = 1 := by decide
  exact ⟨_, rfl, ordinary, harmless, once, by decide +kernel, by decide +kernel,
    run_accounted fallsSilent {} _ rfl ordinary [noteTaker] _ harmless noteTaker once _⟩

/-- A session that was made for more blank lines than can be counted. -/
def uncountableLines : Session where
  streams := { unread := [] }
  pollInterval := intervalOf (.proper (.real Waiting.defaultInterval))
  padding := .error (.misuse .aboveLengths)
  observers := [noteTaker]

/-- A number of blank lines that can be chosen and cannot be written leaves a reset without any. -/
theorem reset_without_blank_lines :
    ¬∀ (wire : Wire) (count : Int) (start : Session) (operations : List Operation),
      wire.Ordinary → make wire { padding := .proper count } = .ok start →
      (∀ step ∈ run operations { start with observers := [noteTaker] },
        step.fails Failure.isWriteRejected = false) →
      (afterRun operations { start with observers := [noteTaker] }).streams.written.flatten =
        wire.streams.written.flatten ++
          (run operations { start with observers := [noteTaker] }).flatMap
            (Step.bytes noteTaker (List.replicate count.toNat Line.feed)) := by
  intro always
  have ordinary : uncountableLines.toWire.Ordinary :=
    Wire.ordinary_of_steady (steady_onOutput [] [])
  have made : make uncountableLines.toWire { padding := .proper 9223372036854775808 } =
      .ok { uncountableLines with observers := [] } := by rfl
  have taken : ∀ step ∈ run [.factoryReset] uncountableLines,
      step.fails Failure.isWriteRejected = false := by decide +kernel
  obtain ⟨blank, isBlank⟩ :
    ∃ blank, blank = List.replicate (Int.toNat 9223372036854775808) Line.feed := ⟨_, rfl⟩
  have wire := always _ _ _ [.factoryReset] ordinary made taken
  rw [← isBlank] at wire
  have accepted : (Operation.factoryReset.step uncountableLines).resetAccepted = true := by
    decide +kernel
  have bytes : (run [.factoryReset] uncountableLines).flatMap (Step.bytes noteTaker blank) =
      ((Operation.factoryReset.step uncountableLines).news noteTaker).flatMap Event.bytes ++
        blank := by
    simp [run, Step.bytes, accepted]
  have total := congrArg List.length (wire.trans (congrArg _ bytes))
  have command :
      (afterRun [.factoryReset] uncountableLines).streams.written.flatten.length = 13 := by
    decide +kernel
  have count : blank.length = 9223372036854775808 := by
    rw [isBlank, List.length_replicate]
    rfl
  rw [List.length_append, List.length_append, count] at total
  have short := command.symm.trans total
  omega

end ThreadHost.Session
