import ThreadHost.Proofs.Session.Close
import ThreadHost.Proofs.Session.FailFast
import ThreadHost.Proofs.Session.Owned
import ThreadHost.Proofs.Session.Sound
/-!
# Sessions that were closed

Once a session has closed the link that it owns, its device takes no input, and this stays so. Every
operation then comes to what `Operation.unsent` tells of it: no command goes out, so that nothing is
read, counted or told either, and the failure has what the closed stream refused with as its cause. A
session that owns no link goes on over a closing as if there had been none (`closed_absorbing`).
-/

namespace ThreadHost

open Act (Law)

namespace Wire

/-- A wire that closing shuts: it owns a link, and a port that is closed has closed its streams. -/
structure Shuts (wire : Wire) : Prop where
  owns : wire.link.isSome = true
  port : ∀ port, wire.link = some (.port port) →
    port.isOpen = true ∨ wire.streams.inputClosed = true

/-- This is a matter of the link and of what is open. -/
theorem Shuts.of_openness {wire other : Wire} (shuts : wire.Shuts)
    (same : other.openness = wire.openness) : other.Shuts := by
  obtain ⟨sameLink, sameStreams⟩ := Prod.mk.inj same
  obtain ⟨sameInput, -⟩ := Prod.mk.inj sameStreams
  refine ⟨?_, fun port isPort => ?_⟩
  · rw [sameLink]
    exact shuts.owns
  · rw [sameInput]
    exact shuts.port port (sameLink.symm.trans isPort)

/-- Whatever becomes of closing such a wire, its input is closed. -/
theorem Shuts.inputClosed {wire : Wire} (shuts : wire.Shuts) :
    (close.perform wire).2.streams.inputClosed = true := by
  obtain ⟨link, owns⟩ := Option.isSome_iff_exists.1 shuts.owns
  unfold close
  rw [Act.perform_bind, Act.perform_get]
  simp only [owns]
  cases link with
  | process process =>
    -- The input of a process is closed before anything can fail, and stays so behind that.
    obtain ⟨rest, same, seals⟩ := closing_seals.behindInput
      (setLink_seals (.process process.stop.1)) (raise_seals _)
      fun _ _ _ => ⟨_, _, _, _, rfl, id, id⟩
    simp only [same, Act.perform_bind, call, closeInput, Act.perform_modify]
    obtain ⟨_, _, _, _, after, -, stays⟩ := seals _
    rw [after]
    exact stays rfl
  | port port =>
    rcases shuts.port port owns with isOpen | already
    · obtain ⟨host, left⟩ := port.close_leaves isOpen wire
      rw [left]
    · have seals : sealing.Obeyed port.close :=
        closing_seals.port (setLink_seals _) (raise_seals _)
      obtain ⟨_, _, _, _, after, -, stays⟩ := seals wire
      rw [after]
      exact stays already

end Wire

namespace Session

variable {session : Session} {refusal : StreamFault} {command : String}

/-- How a command fails that a closed input does not take, as it refuses it. -/
def notTaken (refusal : StreamFault) (command : String) : Failure :=
  .writeRejected command (some refusal.fault)

/-- What an operation comes to when no command can go out: it fails with its first command, unless it
ends before that one. -/
def Operation.unsent (refusal : StreamFault) (active : Option Dataset) :
    Operation → Except Failure Answer
  | .execute command =>
    .error (if Command.isSingleLine command then notTaken refusal command
      else .plain (.severalLines command))
  | .getState | .waitForState _ _ => .error (notTaken refusal "state")
  | .join dataset =>
    match dataset.toHex with
    | .ok hex => .error (notTaken refusal ("dataset set active " ++ hex))
    | .error fault => .error (.plain (.dataset fault))
  | .stopRadio => .error (notTaken refusal "thread stop")
  | .getAddresses => .error (notTaken refusal "ipaddr")
  | .getOffMeshAddress given =>
    match given.or active with
    | none => .ok (.address none)
    | some dataset =>
      match dataset.meshLocalPrefix with
      | .ok _ => .error (notTaken refusal "ipaddr")
      | .error fault => .error (.plain (.dataset fault))
  | .factoryReset => .error (notTaken refusal resetCommand)
  | .close => .ok .nothing

/-- A session whose closed input refuses what is written in one way. -/
structure Shut (refusal : StreamFault) (session : Session) : Prop where
  inputClosed : session.streams.inputClosed = true
  closedRefusal : session.streams.closedRefusal = refusal

/-- A closed input does not take a command, and nothing comes of it. -/
theorem perform_send_closed (shut : session.Shut refusal)
    (single : Command.isSingleLine command = true) :
    (send command).perform session = (.error (notTaken refusal command), session) := by
  have refuses : session.streams.writeFault? = some (.plain refusal.fault) := by
    simp [Streams.writeFault?, shut.inputClosed, shut.closedRefusal]
  have fails : writeFailure command (.plain refusal.fault) = notTaken refusal command := by
    rw [writeFailure, if_pos refusal.ofStream, notTaken]
  unfold send
  rw [Command.encode, if_pos single, Act.perform_bind, perform_writeFor, refuses]
  simp only [fails]

theorem perform_execute_closed (shut : session.Shut refusal)
    (single : Command.isSingleLine command = true) :
    (execute command).perform session = (.error (notTaken refusal command), session) :=
  Act.perform_bind_error (perform_send_closed shut single)

theorem perform_executeAll_closed (shut : session.Shut refusal)
    (single : Command.isSingleLine command = true) (commands : List String) :
    (executeAll (command :: commands)).perform session =
      (.error (notTaken refusal command), session) := by
  rw [perform_executeAll_cons, perform_execute_closed shut single]

theorem perform_getState_closed (shut : session.Shut refusal) :
    getState.perform session = (.error (notTaken refusal "state"), session) :=
  Act.perform_bind_error (perform_execute_closed shut (by decide))

/-- A join records its dataset in any case. -/
theorem perform_join_closed (shut : session.Shut refusal) (dataset : Dataset) :
    ∃ failure, Operation.unsent refusal session.activeDataset (.join dataset) = .error failure ∧
      (join dataset).perform session =
        (.error failure, { session with activeDataset := some dataset }) := by
  simp only [Operation.unsent]
  cases text : dataset.toHex with
  | ok hex =>
    refine ⟨_, rfl, ?_⟩
    rw [Dataset.perform_join text]
    refine perform_executeAll_closed ?_ (isSingleLine_of_mem_join text List.mem_cons_self) _
    exact ⟨shut.inputClosed, shut.closedRefusal⟩
  | error fault =>
    refine ⟨_, rfl, ?_⟩
    simp [join, Act.perform_bind, text, ofDataset]

/-- Whether an address is asked for depends on the dataset that it is judged by. -/
theorem perform_getOffMeshAddress_closed (shut : session.Shut refusal)
    (given : Option Dataset) :
    (do pure (.address (← getOffMeshAddress given)) : Act Session Answer).perform session =
      (Operation.unsent refusal session.activeDataset (.getOffMeshAddress given), session) := by
  unfold getOffMeshAddress
  simp only [Operation.unsent, Act.perform_bind, Act.perform_get]
  cases known : given.or session.activeDataset with
  | none => rfl
  | some dataset =>
    cases network : dataset.meshLocalPrefix with
    | error fault => simp [network, Act.perform_bind, ofDataset]
    | ok mesh =>
      have asks : (execute "ipaddr").perform session =
          (.error (notTaken refusal "ipaddr"), session) :=
        perform_execute_closed shut (by decide)
      simp [network, Act.perform_bind, ofDataset, getAddresses, asks]

/-- A wait ends with its first check. -/
theorem perform_waitForState_closed (shut : session.Shut refusal)
    (states : List String) (timeout : Float) :
    (waitForState states timeout).perform session =
      (.error (notTaken refusal "state"), session) := by
  rw [perform_waitForState, Waiting.waitFor, Act.perform_bind, Act.perform_get]
  simp only [Waiting.waitUntil, Act.perform_bind, perform_getState_closed shut]

theorem perform_factoryReset_closed (shut : session.Shut refusal) :
    factoryReset.perform session = (.error (notTaken refusal resetCommand), session) :=
  Act.perform_bind_error (perform_send_closed shut (by decide))

/-- An operation other than closing changes nothing of a session with a closed input, but that a join
records its dataset. -/
theorem perform_closed (shut : session.Shut refusal) {operation : Operation}
    (notClose : operation ≠ .close) :
    (perform operation).perform session =
      (operation.unsent refusal session.activeDataset,
        { session with activeDataset := operation.joined?.or session.activeDataset }) := by
  cases operation with
  | execute command =>
    simp only [Operation.unsent]
    cases single : Command.isSingleLine command with
    | true => exact Act.perform_bind_error (perform_execute_closed shut single)
    | false => exact Act.perform_bind_error (Act.perform_bind_error (perform_send_several single))
  | getState => exact Act.perform_bind_error (perform_getState_closed shut)
  | join dataset =>
    obtain ⟨failure, same, joined⟩ := perform_join_closed shut dataset
    rw [same]
    exact Act.perform_bind_error joined
  | stopRadio => exact Act.perform_bind_error (perform_executeAll_closed shut (by decide) _)
  | getAddresses => exact Act.perform_bind_error (perform_execute_closed shut (by decide))
  | getOffMeshAddress given => exact perform_getOffMeshAddress_closed shut given
  | waitForState states timeout =>
    exact Act.perform_bind_error (perform_waitForState_closed shut states timeout)
  | factoryReset => exact Act.perform_bind_error (perform_factoryReset_closed shut)
  | close => exact absurd rfl notClose

/-- Nothing was written or read, counted or told, and no time has passed: calls were recorded, the
link and the output were closed again, and joins have recorded their datasets. -/
def Silent (before after : Session) : Prop :=
  ∃ calls link outputClosed activeDataset, after = { before with
    host := { before.host with calls }
    streams := { before.streams with outputClosed }
    link
    activeDataset }

theorem Silent.refl (session : Session) : Silent session session := ⟨_, _, _, _, rfl⟩

theorem Silent.trans {before middle after : Session} (first : Silent before middle)
    (second : Silent middle after) : Silent before after := by
  obtain ⟨_, _, _, _, rfl⟩ := first
  obtain ⟨_, _, _, _, rfl⟩ := second
  exact ⟨_, _, _, _, rfl⟩

/-- What is shut stays shut where nothing happens. -/
theorem Silent.shut {before after : Session} (silent : Silent before after)
    (shut : before.Shut refusal) : after.Shut refusal := by
  obtain ⟨_, _, _, _, rfl⟩ := silent
  exact ⟨shut.inputClosed, shut.closedRefusal⟩

/-- Closing a session closes its wire. -/
theorem step_close (session : Session) :
    (Operation.close.step session).after =
      { session with toWire := (Wire.close.perform session.toWire).2 } := by
  simp [Operation.step, perform, close, onWire]

/-- Every operation is silent on a session with a closed input, closing it once more among them. -/
theorem step_silent (shut : session.Shut refusal) (operation : Operation) :
    Silent session (operation.step session).after := by
  by_cases isClose : operation = .close
  · subst isClose
    obtain ⟨calls, link, input, output, after, -, stays⟩ := Wire.close_seals session.toWire
    have same : input = session.streams.inputClosed :=
      (stays shut.inputClosed).trans shut.inputClosed.symm
    rw [step_close, after, same]
    exact ⟨_, _, _, _, rfl⟩
  · have run : (operation.step session).after =
        { session with activeDataset := operation.joined?.or session.activeDataset } :=
      congrArg Prod.snd (perform_closed shut isClose)
    rw [run]
    exact ⟨_, _, _, _, rfl⟩

/-- What was silent so far stays silent with one more operation. -/
theorem Silent.step {before middle : Session} (shut : before.Shut refusal)
    (silent : Silent before middle) (operation : Operation) :
    Silent before (operation.step middle).after :=
  silent.trans (step_silent (silent.shut shut) operation)

/-- A session that is opened on a device can be shut. -/
theorem shuts_of_openGiven {place : Place} {given : Given} {device : Device} {host : Host}
    (opens : openGiven place given device host = .opened session) : session.Shuts := by
  rw [toWire_of_openGiven opens]
  refine ⟨rfl, fun port isPort => .inl ?_⟩
  cases place with
  | simulation => cases isPort
  | serial =>
    cases isPort
    rfl

/-- A session that owns a link, whatever was done with it since it was opened on a device, or made
on a link that was opened before; and what its streams refuse with once they are closed. -/
inductive Linked : StreamFault → Session → Prop where
  | opened {place : Place} {given : Given} {device : Device} {host : Host} {session : Session}
      (opens : openGiven place given device host = .opened session) :
      Linked (place.freshStreams device).closedRefusal session
  | made {wire : Wire} {options : Options} {session : Session} (shuts : wire.Shuts)
      (made : make wire options = .ok session) : Linked wire.streams.closedRefusal session
  | observed {refusal : StreamFault} {session : Session} (linked : Linked refusal session)
      (observer : Observer) : Linked refusal (session.addObserver observer)
  | unobserved {refusal : StreamFault} {session : Session} (linked : Linked refusal session)
      (observer : Observer) : Linked refusal (session.removeObserver observer)
  | reacting {refusal : StreamFault} {session : Session} (linked : Linked refusal session)
      (manner : Manner) : Linked refusal { session with manner }
  | fed {refusal : StreamFault} {session : Session} (linked : Linked refusal session)
      (bytes : Bytes) : Linked refusal { session with streams := session.streams.feed bytes }
  | operated {refusal : StreamFault} {session : Session} (linked : Linked refusal session)
      (operation : Operation) : Linked refusal (operation.step session).after

/-- An operation other than closing changes neither the link nor what is open. -/
theorem openness_step {operation : Operation} (notClose : operation ≠ .close)
    (session : Session) : (operation.step session).after.openness = session.openness :=
  asking_openness.perform operation
    (fun dataset _ => asking_openness.join dataset fun _ => rfl)
    (fun _ => exchanging_openness.factoryReset fun _ _ => rfl)
    (fun isClose => absurd isClose notClose) session

/-- A session that owns a link can be shut, also when it was before. -/
theorem Linked.shuts (linked : Linked refusal session) : session.Shuts := by
  induction linked with
  | opened opens => exact shuts_of_openGiven opens
  | made shuts made =>
    obtain ⟨padding, -, rfl⟩ := of_make_ok made
    exact shuts
  | observed _ _ inductionHypothesis => exact inductionHypothesis
  | unobserved _ _ inductionHypothesis => exact inductionHypothesis
  | reacting _ _ inductionHypothesis => exact inductionHypothesis
  | fed _ _ inductionHypothesis => exact ⟨inductionHypothesis.owns, inductionHypothesis.port⟩
  | @operated _ session _ operation inductionHypothesis =>
    by_cases isClose : operation = .close
    · subst isClose
      have closed := inductionHypothesis.inputClosed
      obtain ⟨_, _, _, _, after, owned, -⟩ := Wire.close_seals session.toWire
      rw [step_close]
      refine ⟨?_, fun _ _ => .inr closed⟩
      rw [after]
      exact owned inductionHypothesis.owns
    · exact inductionHypothesis.of_openness (openness_step isClose session)

/-- No operation changes what the streams of a session refuse with once they are closed. -/
theorem closedRefusal_step (operation : Operation) (session : Session) :
    (operation.step session).after.streams.closedRefusal = session.streams.closedRefusal := by
  by_cases isClose : operation = .close
  · subst isClose
    obtain ⟨_, _, _, _, after, -⟩ := Wire.close_seals session.toWire
    rw [step_close, after]
  · exact congrArg (·.2.2.2) (openness_step isClose session)

/-- So it is as it was when the link was opened. -/
theorem Linked.closedRefusal (linked : Linked refusal session) :
    session.streams.closedRefusal = refusal := by
  induction linked with
  | opened opens =>
    rw [toWire_of_openGiven opens]
    exact (Place.opens_found _ _ _).closedRefusal
  | made shuts made =>
    obtain ⟨padding, -, rfl⟩ := of_make_ok made
    rfl
  | observed _ _ inductionHypothesis => exact inductionHypothesis
  | unobserved _ _ inductionHypothesis => exact inductionHypothesis
  | reacting _ _ inductionHypothesis => exact inductionHypothesis
  | fed _ _ inductionHypothesis => exact inductionHypothesis
  | operated _ operation inductionHypothesis =>
    exact (closedRefusal_step operation _).trans inductionHypothesis

/-- Closing shuts a session that owns a link, whatever it comes to. -/
theorem Linked.shut (linked : Linked refusal session) :
    (close.perform session).2.Shut refusal := by
  have kept := closedRefusal_step .close session
  rw [step_close] at kept
  exact ⟨linked.shuts.inputClosed, kept.trans linked.closedRefusal⟩

/-- Whether an operation closes the session. -/
def Operation.isClose : Operation → Bool
  | .close => true
  | _ => false

end Session

end ThreadHost
