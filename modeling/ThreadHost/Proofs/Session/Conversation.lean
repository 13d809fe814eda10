import ThreadHost.Proofs.Session.Reply
import ThreadHost.Session.Operations
/-!
# Conversations

An operation talks to the device through whole round trips only. `Conversation` is the account of
an operation as round trips and acts aside, which leave the output of the device alone; every
operation but closing has one (`conversation`). `exchanges` reads off it which commands went out
in a run and how each of them was answered.
-/

namespace ThreadHost.Session

variable {α β : Type}

/-- A session on streams that do not fail, with observers that do not fail. -/
structure Ready (session : Session) : Prop where
  steady : session.streams.Steady
  calm : session.Calm

/-- An act that reads nothing from the device. -/
def Aside (act : Act Session α) : Prop :=
  ∀ session : Session, Ready session →
    (act.perform session).2.streams.unread = session.streams.unread ∧
      Ready (act.perform session).2

/-- An act that changes nothing is aside. -/
theorem aside_of_unchanged {act : Act Session α}
    (unchanged : ∀ session, (act.perform session).2 = session) : Aside act := by
  intro session ready
  rw [unchanged]
  exact ⟨rfl, ready⟩

/-- An outcome that is there already asks nothing. -/
theorem aside_ofExcept (outcome : Except Failure α) : Aside (Act.ofExcept outcome) := by
  apply aside_of_unchanged
  cases outcome <;> exact fun session => rfl

theorem aside_ofFault (outcome : Except Fault α) : Aside (Act.ofFault outcome) := by
  apply aside_of_unchanged
  cases outcome <;> exact fun session => rfl

theorem aside_ofDataset (outcome : Except Dataset.Fault α) : Aside (ofDataset outcome) := by
  apply aside_of_unchanged
  cases outcome <;> exact fun session => rfl

theorem aside_get : Aside (get : Act Session Session) := aside_of_unchanged fun _ => rfl

theorem aside_pure (value : α) : Aside (pure value) := aside_of_unchanged fun _ => rfl

theorem aside_throw (failure : Failure) : Aside (throw failure : Act Session α) :=
  aside_of_unchanged fun _ => rfl

/-- A change of neither streams nor audience is aside. -/
theorem aside_modify {change : Session → Session}
    (streams : ∀ session, (change session).streams = session.streams)
    (audience : ∀ session, (change session).audience = session.audience) :
    Aside (modify change : Act Session PUnit) := by
  intro session ready
  rw [Act.perform_modify]
  refine ⟨congrArg Streams.unread (streams session), ?_, ?_⟩
  · rw [streams]
    exact ready.steady
  · rw [Calm, audience]
    exact ready.calm

/-- Counting is aside. -/
theorem aside_count (change : Stats → Stats) : Aside (count change) :=
  aside_modify (fun _ => rfl) (fun _ => rfl)

/-- Two acts aside, one after the other. -/
theorem aside_bind {first : Act Session α} {next : α → Act Session β} (head : Aside first)
    (rest : ∀ value, Aside (next value)) : Aside (first >>= next) := by
  intro session ready
  obtain ⟨unread, middle⟩ := head session ready
  rw [Act.perform_bind]
  generalize first.perform session = result at unread middle
  obtain ⟨_ | value, after⟩ := result
  · exact ⟨unread, middle⟩
  · obtain ⟨later, last⟩ := rest value after middle
    exact ⟨later.trans unread, last⟩

/-- Writing is aside: the answer, if one comes, stays unread. -/
theorem aside_writeFor (command : String) (data : Bytes) : Aside (writeFor command data) := by
  intro session ready
  have flushes : (session.written data).streams.flushFault? = none := ready.steady.flushes _
  rw [perform_writeFor, ready.steady.writeFault?_eq_none, flushes]
  exact ⟨rfl, ⟨ready.steady.inputOpen, ready.steady.outputOpen, ready.steady.writes,
    ready.steady.flushes, ready.steady.reads⟩, ready.calm⟩

/-- Sending a command without reading an answer is aside. -/
theorem aside_send (command : String) : Aside (send command) := by
  intro session ready
  cases single : Command.isSingleLine command with
  | false =>
    rw [perform_send_several single]
    exact ⟨rfl, ready⟩
  | true =>
    have flushes : (session.written (commandBytes command)).streams.flushFault? = none :=
      ready.steady.flushes _
    rw [perform_send single (Audience.Calm.hears ready.calm _), ready.steady.writeFault?_eq_none,
      flushes]
    exact ⟨rfl, steady_sent ready.steady command, ready.calm.sent command⟩

/-- Resetting the device is aside: it restarts and does not answer. -/
theorem aside_factoryReset : Aside factoryReset :=
  aside_bind (aside_send resetCommand) fun _ =>
    aside_bind aside_get fun session =>
      aside_bind (aside_ofFault session.padding) fun _ => aside_writeFor resetCommand _

/-- A pause of a session is aside, whether it can be made or not. -/
theorem aside_pause (session : Session) (seconds : Float) :
    Aside (session.pacing.1.pause seconds) := by
  unfold pacing
  cases session.pollInterval with
  | error fault => exact aside_of_unchanged fun _ => rfl
  | ok interval =>
    intro session ready
    exact ⟨rfl, ready.steady, ready.calm⟩

/-- The account of an operation as round trips and acts aside. -/
inductive Conversation : {α : Type} → Act Session α → Type 1 where
  | aside {α : Type} {act : Act Session α} (quiet : Aside act) : Conversation act
  | execute (command : String) : Conversation (Session.execute command)
  | bind {α β : Type} {first : Act Session α} {next : α → Act Session β}
      (head : Conversation first) (rest : ∀ value, Conversation (next value)) :
      Conversation (first >>= next)
  | map {α β : Type} {change : α → β} {act : Act Session α} (inner : Conversation act) :
      Conversation (change <$> act)

/-- A command that went out, and how it was answered. -/
structure Exchange where
  command : String
  outcome : Except Failure (List String)

namespace Conversation

/-- The round trips in a run of an operation. A command of several lines does not go out, and
behind a failure there is nothing more. -/
def exchanges : {α : Type} → {act : Act Session α} → Conversation act → Session → List Exchange
  | _, _, .aside _, _ => []
  | _, _, .execute command, session =>
    if Command.isSingleLine command then [⟨command, ((Session.execute command).perform session).1⟩]
    else []
  | _, _, @Conversation.bind _ _ first _ head rest, session =>
    head.exchanges session ++
      match first.perform session with
      | (.ok value, after) => (rest value).exchanges after
      | (.error _, _) => []
  | _, _, .map inner, session => inner.exchanges session

/-- The account of a decision. -/
def choose {condition : Prop} [decision : Decidable condition] {yes no : Act Session α}
    (ifTrue : Conversation yes) (ifFalse : Conversation no) :
    Conversation (if condition then yes else no) :=
  match decision with
  | isTrue _ => ifTrue
  | isFalse _ => ifFalse

/-- The account of asking for the role. -/
def getState : Conversation Session.getState :=
  .bind (.execute "state") fun
    | _ :: _ => .aside (aside_pure _)
    | [] => .aside (aside_bind (aside_count _) fun _ => aside_throw _)

/-- The account of some commands. -/
def executeAll : (commands : List String) → Conversation (Session.executeAll commands)
  | [] => .aside (aside_pure _)
  | command :: commands => .bind (.map (.execute command)) fun _ => executeAll commands

/-- The account of a join. -/
def join (dataset : Dataset) : Conversation (Session.join dataset) :=
  .bind (.aside (aside_modify (fun _ => rfl) fun _ => rfl)) fun _ =>
    .bind (.aside (aside_ofDataset _)) fun hex => executeAll (joinCommands hex)

/-- The account of asking for an address. -/
def getOffMeshAddress (dataset : Option Dataset) :
    Conversation (Session.getOffMeshAddress dataset) :=
  .bind (.aside aside_get) fun session =>
    match dataset.or session.activeDataset with
    | none => .aside (aside_pure _)
    | some _ =>
      .bind (.aside (aside_ofDataset _)) fun _ =>
        .bind (.execute "ipaddr") fun _ => .aside (aside_ofExcept _)

/-- The account of a wait. -/
def waitUntil {clock : Waiting.Clock Session Float} {check : Act Session Bool}
    (pauses : ∀ seconds, Aside (clock.pause seconds)) (checked : Conversation check)
    (deadline interval : Float) (expired : Failure) :
    (checks : Nat) → Conversation (Waiting.waitUntil clock check deadline interval expired checks)
  | 0 => .aside (aside_pure _)
  | checks + 1 =>
    .bind checked fun _ =>
      .choose (.aside (aside_pure _))
        (.bind (.aside aside_get) fun _ =>
          .choose (.aside (aside_throw _))
            (.bind (.aside (pauses _)) fun _ =>
              waitUntil pauses checked deadline interval expired checks))

/-- The account of waiting for a role. -/
def waitForState (states : List String) (timeout : Float) :
    Conversation (Session.waitForState states timeout) :=
  .bind (.aside aside_get) fun session =>
    .bind (.bind (.aside aside_get) fun _ =>
      waitUntil (aside_pause session) (.bind getState fun _ => .aside (aside_pure _)) _ _ _ _) fun
    | .satisfied => .aside (aside_pure _)
    | .unfinished => .aside (aside_throw _)

end Conversation

/-- The account of every operation that leaves the link open. -/
def conversation : (operation : Operation) → operation ≠ .close → Conversation (perform operation)
  | .execute command, _ => .bind (.execute command) fun _ => .aside (aside_pure _)
  | .getState, _ => .bind .getState fun _ => .aside (aside_pure _)
  | .join dataset, _ => .bind (.join dataset) fun _ => .aside (aside_pure _)
  | .stopRadio, _ => .bind (.executeAll _) fun _ => .aside (aside_pure _)
  | .getAddresses, _ => .bind (.execute "ipaddr") fun _ => .aside (aside_pure _)
  | .getOffMeshAddress dataset, _ =>
    .bind (.getOffMeshAddress dataset) fun _ => .aside (aside_pure _)
  | .waitForState states timeout, _ =>
    .bind (.waitForState states timeout) fun _ => .aside (aside_pure _)
  | .factoryReset, _ => .aside (aside_bind aside_factoryReset fun _ => aside_pure _)
  | .close, notClose => absurd rfl notClose

end ThreadHost.Session
