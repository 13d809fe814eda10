import ThreadHost.Proofs.Act.Law
import ThreadHost.Proofs.Session.Waiting
/-!
# What operations obey

`Accessing` and `Exchanging` list the accesses that a round trip consists of, and `Asking` what the
operations consist of besides round trips. A law of these is a law of every operation
(`Asking.perform`); only a join, a reset and closing, which do more than ask, bring their own
proofs.
-/

namespace ThreadHost.Session

open Act (Law)

variable {law : Law Session}

/-- A session with one more device error. -/
def deviceErrorCounted (session : Session) : Session :=
  { session with stats := { session.stats with deviceErrors := session.stats.deviceErrors + 1 } }

/-- The failure of a role that was not told. -/
def noRole : Failure :=
  .deviceError "state" none (some "empty response to state query") none

/-- The failure of an address list with a line that is no address. -/
def noAddress (line : String) (fault : Address.Fault) : Failure :=
  .deviceError "ipaddr" (some line)
    (some ("invalid IPv6 address: " ++ Text.Quoted.quote line)) (some (.address fault))

/-- A law of the accesses that a round trip with a command of one line consists of. -/
structure Accessing (law : Law Session) : Prop where
  write : ∀ command data, law.Obeyed (writeFor command data)
  read : ∀ command, law.Obeyed (renameFailure (readFailure command) (onWire Wire.readLine))
  notify : ∀ direction line, law.Obeyed (notify direction line)
  count : ∀ change : Stats → Stats, (∀ stats, (change stats).deviceErrors = stats.deviceErrors) →
    law.Obeyed (count change)
  truncated : ∀ command session, law.Holds session (some (truncatedAnswer command)) session
  deviceError : ∀ command line session,
    law.Holds session (some (.deviceError command (some line) none none)) session.deviceErrorCounted

namespace Accessing

variable (accessing : Accessing law)
include accessing

/-- Sending a command. -/
theorem send {command : String} (single : Command.isSingleLine command = true) :
    law.Obeyed (send command) := by
  unfold Session.send
  rw [Command.encode, if_pos single]
  exact (accessing.write command _).bind fun _ =>
    (accessing.count _ fun _ => by rfl).bind fun _ => accessing.notify .sent command

/-- Reading one line of an answer. -/
theorem readLine (command : String) : law.Obeyed (readLine command) :=
  (accessing.read command).bind fun _ =>
    .ite (Law.obeyed_pure _) ((accessing.count _ fun _ => by rfl).bind fun _ =>
      (accessing.notify .received _).bind fun _ => Law.obeyed_pure _)

/-- Reading an answer, by induction on the reads granted. -/
theorem readAnswer (command : String) (reads : Nat) (content : List String) :
    law.Obeyed (readAnswer command reads content) := by
  induction reads generalizing content with
  | zero => exact accessing.truncated command
  | succ reads inductionHypothesis =>
    refine (accessing.readLine command).bind fun line => ?_
    cases line with
    | none => exact accessing.truncated command
    | some line =>
      cases kind : Line.classify line with
      | done =>
        simp only [kind]
        exact Law.obeyed_pure _
      | error =>
        simp only [kind]
        exact accessing.deviceError command line
      | prompt =>
        simp only [kind]
        exact (accessing.count _ fun _ => by rfl).bind fun _ => inductionHypothesis _
      | content =>
        simp only [kind]
        exact inductionHypothesis _

/-- A whole round trip. -/
theorem execute {command : String} (single : Command.isSingleLine command = true) :
    law.Obeyed (execute command) :=
  (accessing.send single).bind fun _ =>
    Law.obeyed_get.bind fun _ => accessing.readAnswer command _ _

end Accessing

/-- A law of the accesses that any round trip consists of. -/
structure Exchanging (law : Law Session) : Prop extends Accessing law where
  severalLines : ∀ command session,
    law.Holds session (some (.plain (.severalLines command))) session

namespace Exchanging

variable (exchanging : Exchanging law)
include exchanging

/-- Sending any command. -/
theorem send (command : String) : law.Obeyed (send command) := by
  cases single : Command.isSingleLine command with
  | true => exact exchanging.toAccessing.send single
  | false =>
    intro session
    rw [perform_send_several single]
    exact exchanging.severalLines command session

/-- A round trip with any command. -/
theorem execute (command : String) : law.Obeyed (execute command) :=
  (exchanging.send command).bind fun _ =>
    Law.obeyed_get.bind fun _ => exchanging.toAccessing.readAnswer command _ _

end Exchanging

/-- A law of what operations consist of. -/
structure Asking (law : Law Session) : Prop where
  execute : ∀ command, law.Obeyed (execute command)
  /-- A fault underneath, which goes on as it is. -/
  plain : ∀ fault session, law.Holds session (some (.plain fault)) session
  noAddress : ∀ line fault session, law.Holds session (some (noAddress line fault)) session
  noRole : ∀ session, law.Holds session (some noRole) session.deviceErrorCounted
  passTime : ∀ session host, law.Holds session none { session with host }

/-- A law of the accesses of a round trip is one of what operations consist of. -/
theorem Exchanging.asking (exchanging : Exchanging law)
    (plain : ∀ fault session, law.Holds session (some (.plain fault)) session)
    (noAddress : ∀ line fault session, law.Holds session (some (noAddress line fault)) session)
    (noRole : ∀ session, law.Holds session (some noRole) session.deviceErrorCounted)
    (passTime : ∀ session host, law.Holds session none { session with host }) : Asking law where
  execute := exchanging.execute
  plain := plain
  noAddress := noAddress
  noRole := noRole
  passTime := passTime

/-- The only failure of a list of addresses is a line that is none. -/
theorem firstOffMesh_eq_error {mesh : Option Address.Network} {lines : List String}
    {failure : Failure} (invalid : firstOffMesh mesh lines = .error failure) :
    ∃ line fault, failure = noAddress line fault := by
  induction lines with
  | nil => cases invalid
  | cons line lines inductionHypothesis =>
    unfold firstOffMesh at invalid
    split at invalid
    · rename_i fault _
      exact ⟨line, fault, (Except.error.inj invalid).symm⟩
    · split at invalid
      · cases invalid
      · exact inductionHypothesis invalid

/-- Waiting for a role is the wait itself, and a failure if it ran out of checks. -/
theorem perform_waitForState (states : List String) (timeout : Float) (session : Session) :
    (waitForState states timeout).perform session =
      match (Waiting.waitFor session.pacing.1 (do pure (states.contains (← getState))) timeout
        session.pacing.2 ("state in " ++ Text.Quoted.quoteAll (ascending states))
        (session.streams.unread.length + 1)).perform session with
      | (.ok .satisfied, after) => (.ok (), after)
      | (.ok .unfinished, after) => (.error (truncatedAnswer "state"), after)
      | (.error failure, after) => (.error failure, after) := by
  unfold waitForState
  rw [Act.perform_bind, Act.perform_get]
  simp only [Act.perform_bind]
  generalize Act.perform _ session = result
  obtain ⟨_ | _ | _, _⟩ := result <;> rfl

/-- A pause is refused, or time passes. -/
theorem perform_pause (seconds : Float) (session : Session) :
    (clock.pause seconds).perform session =
      match session.host.pauseRefusal? seconds with
      | some refusal => (.error (.plain (.pause refusal)), session)
      | none => (.ok (), { session with host := session.host.paused seconds }) := by
  unfold clock
  rw [Act.perform_onPart, Host.perform_pause]
  cases session.host.pauseRefusal? seconds <;> rfl

/-- Waiting for a role obeys what asking for it, the pauses that are made and the end for lack of
time obey. -/
theorem obeyedAt_waitForState {session : Session} (asks : law.Obeyed getState)
    (pauses : ∀ remaining, ¬remaining ≤ 0 →
      law.Obeyed (session.pacing.1.pause (Waiting.pauseLength session.pacing.2 remaining)))
    (expired : ∀ timeout description before,
      law.Holds before (some (.plain (.waitExpired timeout description))) before)
    (states : List String) (timeout : Float) :
    law.ObeyedAt (waitForState states timeout) session := by
  have waits : law.Obeyed (Waiting.waitFor session.pacing.1
      (do pure (states.contains (← Session.getState))) timeout session.pacing.2
      ("state in " ++ Text.Quoted.quoteAll (ascending states))
      (session.streams.unread.length + 1)) :=
    Law.obeyed_get.bind fun _ =>
      Law.obeyed_waitUntil (asks.bind fun _ => Law.obeyed_pure _) pauses (expired _ _) _
  have waited := waits session
  unfold Law.ObeyedAt
  rw [perform_waitForState]
  generalize result : Act.perform (Waiting.waitFor _ _ _ _ _ _) session = outcome at waited ⊢
  obtain ⟨failure | _ | _, after⟩ := outcome
  · exact waited
  · exact waited
  · -- There is always a check left for a device that still answers.
    exact absurd result (waitFor_finishes states timeout _)

namespace Asking

variable (asking : Asking law)
include asking

/-- A failed operation on a dataset. -/
theorem ofDataset {α : Type} (outcome : Except Dataset.Fault α) :
    law.Obeyed (ofDataset outcome) := by
  cases outcome with
  | ok value => exact Law.obeyed_pure value
  | error fault => exact asking.plain (.dataset fault)

/-- Asking for the role. -/
theorem getState : law.Obeyed getState := by
  refine (asking.execute "state").bind fun lines => ?_
  cases lines with
  | nil => exact asking.noRole
  | cons state lines => exact Law.obeyed_pure state

/-- Commands, one after another. -/
theorem executeAll (commands : List String) : law.Obeyed (executeAll commands) :=
  Law.obeyed_forM commands fun command _ => (asking.execute command).map fun _ => PUnit.unit

/-- A join, if the law allows for the change of the active dataset. -/
theorem join (dataset : Dataset)
    (set : ∀ session : Session,
      law.Holds session none { session with activeDataset := some dataset }) :
    law.Obeyed (join dataset) :=
  Law.Obeyed.bind set fun _ =>
    (asking.ofDataset _).bind fun hex => asking.executeAll (joinCommands hex)

/-- Asking for an address. -/
theorem getOffMeshAddress (dataset : Option Dataset) :
    law.Obeyed (getOffMeshAddress dataset) := by
  refine Law.obeyed_get.bind fun session => ?_
  split
  · exact Law.obeyed_pure none
  · refine (asking.ofDataset _).bind fun mesh => (asking.execute "ipaddr").bind fun lines => ?_
    apply Law.obeyed_ofExcept
    intro failure invalid
    obtain ⟨line, fault, rfl⟩ := firstOffMesh_eq_error invalid
    exact asking.noAddress line fault

/-- A pause, whether it can be made or not. -/
theorem pause (session : Session) (seconds : Float) :
    law.Obeyed (session.pacing.1.pause seconds) := by
  unfold pacing
  cases session.pollInterval with
  | error fault => exact asking.plain fault
  | ok interval =>
    intro before
    rw [perform_pause]
    cases before.host.pauseRefusal? seconds with
    | some refusal => exact asking.plain (.pause refusal) before
    | none => exact asking.passTime before _

/-- Waiting for a role. -/
theorem waitForState (states : List String) (timeout : Float) :
    law.Obeyed (waitForState states timeout) := fun session =>
  obeyedAt_waitForState asking.getState (fun _ _ => asking.pause session _)
    (fun _ _ => asking.plain _) states timeout

/-- Every operation obeys the law; what a join, a reset and closing do besides asking is proved
where they are carried out. -/
theorem perform (operation : Operation)
    (join : ∀ dataset, operation = .join dataset → law.Obeyed (Session.join dataset))
    (reset : operation = .factoryReset → law.Obeyed factoryReset)
    (close : operation = .close → law.Obeyed close) : law.Obeyed (perform operation) := by
  cases operation with
  | execute command => exact (asking.execute command).bind fun _ => Law.obeyed_pure _
  | getState => exact asking.getState.bind fun _ => Law.obeyed_pure _
  | join dataset => exact (join dataset rfl).bind fun _ => Law.obeyed_pure _
  | stopRadio => exact (asking.executeAll _).bind fun _ => Law.obeyed_pure _
  | getAddresses => exact (asking.execute "ipaddr").bind fun _ => Law.obeyed_pure _
  | getOffMeshAddress dataset =>
    exact (asking.getOffMeshAddress dataset).bind fun _ => Law.obeyed_pure _
  | waitForState states timeout =>
    exact (asking.waitForState states timeout).bind fun _ => Law.obeyed_pure _
  | factoryReset => exact (reset rfl).bind fun _ => Law.obeyed_pure _
  | close => exact (close rfl).bind fun _ => Law.obeyed_pure _

end Asking

/-- A reset obeys a law of the accesses of a round trip. -/
theorem Exchanging.factoryReset (exchanging : Exchanging law)
    (plain : ∀ fault session, law.Holds session (some (.plain fault)) session) :
    law.Obeyed factoryReset := by
  refine (exchanging.send resetCommand).bind fun _ => Law.obeyed_get.bind fun session => ?_
  cases session.padding with
  | error fault =>
    exact Law.Obeyed.bind (Law.obeyed_throw (plain fault)) fun _ => exchanging.write _ _
  | ok lines => exact (Law.obeyed_pure lines).bind fun _ => exchanging.write _ _

/-- Telling observers, for a law that does not look at what was passed on and to whom. -/
theorem obeyed_notify
    (aside : ∀ session observers traffic notices,
      law.Holds session none { session with observers, traffic, notices })
    (plain : ∀ fault session, law.Holds session (some (.plain fault)) session)
    (direction : Direction) (line : String) : law.Obeyed (notify direction line) := by
  have tells : ∀ observer, law.Obeyed (tell direction line observer) := by
    intro observer
    refine Law.Obeyed.bind (fun session => aside session _ _ _) fun _ => ?_
    refine Law.obeyed_get_bind fun session => ?_
    unfold Law.ObeyedAt
    cases observer.reaction session.manner session.traffic with
    | none => exact law.refl session
    | fail fault => exact plain fault session
    | removeSelf => exact aside session _ _ _
    | removeAll => exact aside session _ _ _
  exact Law.Obeyed.bind (fun session => aside session _ _ _) fun _ =>
    Law.obeyed_get.bind fun session =>
      Law.obeyed_forM session.observers fun observer _ => tells observer

/-- A round trip keeps whatever has nothing to do with the wire, the counters and the observers. -/
theorem exchanging_keeping {β : Type} {part : Session → β}
    (apart : ∀ session wire observers stats traffic notices,
      part { session with toWire := wire, observers, stats, traffic, notices } = part session) :
    Exchanging (Law.keeping part) where
  severalLines _ _ := rfl
  write command data session := by
    rw [writeFor, perform_renameFailure]
    exact apart session _ _ _ _ _
  read command session := by
    rw [perform_renameFailure]
    exact apart session _ _ _ _ _
  notify := obeyed_notify (fun session _ _ _ => apart session _ _ _ _ _) fun _ _ => rfl
  count change _ session := apart session _ _ _ _ _
  truncated _ _ := rfl
  deviceError _ _ session := apart session _ _ _ _ _

/-- So do operations that only ask. -/
theorem asking_keeping {β : Type} {part : Session → β}
    (apart : ∀ session wire observers stats traffic notices,
      part { session with toWire := wire, observers, stats, traffic, notices } = part session) :
    Asking (Law.keeping part) :=
  (exchanging_keeping apart).asking (fun _ _ => rfl) (fun _ _ _ => rfl)
    (fun session => apart session _ _ _ _ _) fun session _ => apart session _ _ _ _ _

/-- And so does every operation, if a join keeps it where it sets the active dataset. -/
theorem perform_keeping {β : Type} (part : Session → β)
    (apart : ∀ session wire observers stats traffic notices,
      part { session with toWire := wire, observers, stats, traffic, notices } = part session)
    (operation : Operation)
    (joining : ∀ dataset, operation = .join dataset → ∀ session : Session,
      part { session with activeDataset := some dataset } = part session) :
    (Law.keeping part).Obeyed (perform operation) :=
  have asking := asking_keeping apart
  asking.perform operation (fun dataset same => asking.join dataset (joining dataset same))
    (fun _ => (exchanging_keeping apart).factoryReset fun _ _ => rfl)
    fun _ session => apart session _ _ _ _ _

end ThreadHost.Session
