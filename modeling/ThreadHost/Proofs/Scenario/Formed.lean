import ThreadHost.Proofs.Scenario.Run
import ThreadHost.Proofs.Session.Role
import ThreadHost.Scenario.Catalogue
/-!
# A network that was formed

What a device has been through when the scenario that forms a network has passed: it was reset, told
that it is disabled, took the commands of the join and told that it is attached
(`formNetwork_passed`). The role in the last step is the one that the device told last, to one more
question behind the wait; it need not be the role that ended the wait, and may be any
(`formNetwork_passes_detached`).
-/

namespace ThreadHost

namespace Session

variable {before after session : Session} {lines : Nat}

/-- A device was reset: the command went out, and blank lines behind it. -/
structure WasReset (lines : Nat) (before after : Session) : Prop where
  written : after.streams.written =
    before.streams.written ++ [commandBytes resetCommand, List.replicate lines Line.feed]
  traffic : after.traffic = before.traffic ++ [(.sent, resetCommand)]

/-- A command that went out was written, flushed and passed on. -/
theorem of_send_ok {command : String} (single : Command.isSingleLine command = true)
    (sends : (send command).perform session = (.ok (), after)) : after = session.sent command := by
  cases heard : session.audience.hears (.sent, command) with
  | true =>
    rw [perform_send single heard] at sends
    split at sends
    · cases sends
    · split at sends
      · cases sends
      · exact (congrArg Prod.snd sends).symm
  | false =>
    obtain ⟨_, _, _, failed⟩ := perform_send_of_unheard single heard
    rw [failed] at sends
    split at sends
    · cases sends
    · split at sends <;> cases sends

/-- Data that was taken was written. -/
theorem of_writeFor_ok {command : String} {data : Bytes}
    (writes : (writeFor command data).perform session = (.ok (), after)) :
    after = session.written data := by
  rw [perform_writeFor] at writes
  split at writes
  · cases writes
  · split at writes
    · cases writes
    · exact (congrArg Prod.snd writes).symm

/-- A reset that ended well wrote its blank lines. -/
theorem factoryReset_answered (answered : factoryReset.perform session = (.ok (), after)) :
    ∃ lines, session.padding = .ok lines ∧ WasReset lines session after := by
  obtain ⟨_, middle, sends, rest⟩ := Act.of_perform_bind_ok answered
  obtain rfl := of_send_ok (by decide) sends
  rw [Act.perform_bind, Act.perform_get] at rest
  obtain ⟨lines, other, padded, writes⟩ := Act.of_perform_bind_ok rest
  have same : (session.sent resetCommand).padding = session.padding := rfl
  rw [same] at padded
  cases padding : session.padding with
  | error fault =>
    rw [padding] at padded
    cases padded
  | ok count =>
    rw [padding] at padded
    cases padded
    obtain rfl := of_writeFor_ok writes
    refine ⟨lines, rfl, ?_, rfl⟩
    simp [written, Wire.written, sent, notified]

end Session

namespace Scenario

open Session

variable {dataset : Dataset} {timeout : Except Fault Float} {session after : Session}
  {report : Report}

/-- The step of a device that is attached in a role. -/
def attached (role : String) : Step where
  name := "Attach"
  passed := true
  message := "Device attached as " ++ role
  details := [("state", .text role)]

/-- How a network is formed, one thing after the other: blank lines were written behind the reset,
the device told that it is disabled, each command of the join was answered by `Done`, the device
told that it is attached, and was asked for its role once more. The last role is the reported
one. -/
inductive Forms (dataset : Dataset) (start : Session) : String → Session → Prop where
  | formed {lines : Nat} {hex first last : String} {reset disabled joined there after : Session}
      (padding : start.padding = .ok lines)
      (text : dataset.toHex = .ok hex)
      (resets : WasReset lines start reset)
      (disables : Awaits ["disabled"] "disabled" reset disabled)
      (joins : Succeeds (joinCommands hex) { disabled with activeDataset := some dataset } joined)
      (attaches : Awaits attachedRoles first joined there)
      (tells : Told last there after) : Forms dataset start last after

/-- What is written while a network is formed. -/
def formingBytes (lines : Nat) (hex : String) (asked again : Nat) : List Bytes :=
  [commandBytes resetCommand, List.replicate lines Line.feed] ++
    List.replicate (asked + 1) (commandBytes "state") ++ (joinCommands hex).map commandBytes ++
      List.replicate (again + 2) (commandBytes "state")

/-- Whoever forms a network writes a reset with its blank lines, questions for the role, the join,
and questions for the role again, at least two of them. -/
theorem Forms.written {last : String} (forms : Forms dataset session last after) :
    ∃ lines hex asked again, session.padding = .ok lines ∧ dataset.toHex = .ok hex ∧
      after.streams.written = session.streams.written ++ formingBytes lines hex asked again := by
  cases forms with
  | @formed lines hex _ _ _ _ _ _ _ padding text resets disables joins attaches tells =>
    obtain ⟨asked, waited⟩ := disables.written
    obtain ⟨again, attached⟩ := attaches.written
    obtain ⟨others, told⟩ := tells
    refine ⟨lines, hex, asked, again, padding, text, ?_⟩
    have once : List.replicate (again + 2) (commandBytes "state") =
        List.replicate (again + 1) (commandBytes "state") ++ [commandBytes "state"] :=
      List.replicate_succ'
    rw [told.written, attached, joins.written, waited, resets.written, formingBytes, once]
    simp only [List.append_assoc]

/-- A wait for a role within a scenario is one with a timeout that is of use. -/
theorem of_waitForRole_ok {roles : List String} {before after : Underway Session}
    (answered : (waitForRole roles timeout).perform before = (.ok (), after)) :
    (∃ role, Awaits roles role before.state after.state) ∧ after.report = before.report := by
  obtain ⟨limit, middle, usable, waits⟩ := Act.of_perform_bind_ok answered
  have unchanged : middle = before := by
    cases timeout with
    | error fault => cases usable
    | ok value => exact (congrArg Prod.snd usable).symm
  subst unchanged
  obtain ⟨waited, same⟩ := of_onState_ok waits
  exact ⟨waitForState_awaits waited, same⟩

/-- A settled report has passed only if the body did not fail. -/
theorem Settles.ending_eq_none {settled : Report} {ending : Option Failure}
    (settles : Settles report ending settled) (passed : settled.verdict = .passed) :
    ending = none ∧ settled = report := by
  cases settles with
  | finished => exact ⟨rfl, rfl⟩
  | expired expired unpassed =>
    rw [Report.verdict_note] at passed
    split at passed
    · cases passed
    · simp_all
  | broken error unpassed => cases passed

/-- The step of a device that is back in its first role. -/
def wasReset : Step := ⟨"Factory reset", true, "Device back in disabled state", []⟩

/-- A body that ended well formed the network and reported each of its three parts. -/
theorem formNetwork_forms {before after : Underway Session}
    (finished : (formNetwork dataset timeout).body.perform before = (.ok (), after)) :
    ∃ last, Forms dataset before.state last after.state ∧ after.report =
      ((before.report.note wasReset).note (joined dataset)).note (attached last) := by
  obtain ⟨_, reset, resets, rest⟩ := Act.of_perform_bind_ok finished
  obtain ⟨_, disabled, disables, rest⟩ := Act.of_perform_bind_ok rest
  obtain ⟨_, back, notesReset, rest⟩ := Act.of_perform_bind_ok rest
  obtain ⟨_, within, joins, rest⟩ := Act.of_perform_bind_ok rest
  obtain ⟨_, member, notesJoined, rest⟩ := Act.of_perform_bind_ok rest
  obtain ⟨_, there, attaches, rest⟩ := Act.of_perform_bind_ok rest
  obtain ⟨last, told, tells, notesAttached⟩ := Act.of_perform_bind_ok rest
  -- Acts on the session leave the report as it is, and notes the session.
  obtain ⟨answered, sameReset⟩ := of_onState_ok resets
  obtain ⟨lines, padding, wasReset⟩ := factoryReset_answered answered
  obtain ⟨⟨role, awaitsDisabled⟩, sameDisabled⟩ := of_waitForRole_ok disables
  obtain rfl : role = "disabled" := List.mem_singleton.1 awaitsDisabled.mem
  obtain ⟨backState, backReport⟩ := of_note_ok notesReset
  obtain ⟨answered, sameWithin⟩ := of_onState_ok joins
  obtain ⟨hex, text, succeeds⟩ := join_eq_ok_iff.1 answered
  obtain ⟨memberState, memberReport⟩ := of_note_ok notesJoined
  obtain ⟨⟨first, awaitsAttached⟩, sameThere⟩ := of_waitForRole_ok attaches
  obtain ⟨answered, sameTold⟩ := of_onState_ok tells
  obtain ⟨afterState, afterReport⟩ := of_note_ok notesAttached
  rw [backState] at succeeds
  rw [memberState] at awaitsAttached
  refine ⟨last, ?_, ?_⟩
  · rw [afterState]
    exact .formed padding text wasReset awaitsDisabled succeeds awaitsAttached
      (getState_told answered)
  · rw [afterReport, sameTold, sameThere, memberReport, sameWithin, backReport, sameDisabled,
      sameReset]
    rfl

/-- A network was formed if the scenario passed, whatever streams, observers and time did: each
thing happened behind the one before it, the wire holds all that was written in this order, and
the last step reports the role that the device told last. -/
theorem formNetwork_passed (dataset : Dataset) (timeout : Except Fault Float)
    (session : Session) (report : Report) (after : Session)
    (ran : (run Session.clock.now (formNetwork dataset timeout)).perform session =
      (.ok report, after))
    (passed : report.verdict = .passed) :
    ∃ last, Forms dataset session last after ∧
      report.steps = [wasReset, joined dataset, attached last] ∧
      ∃ lines hex asked again, session.padding = .ok lines ∧ dataset.toHex = .ok hex ∧
        after.streams.written = session.streams.written ++ formingBytes lines hex asked again := by
  obtain ⟨⟨settled, duration, settles, rfl⟩, rfl⟩ := settles_of_run ran
  obtain ⟨unfailed, rfl⟩ := settles.ending_eq_none passed
  have finished : (formNetwork dataset timeout).course session =
      (.ok (), ((formNetwork dataset timeout).course session).2) :=
    Prod.ext (ending_eq_none_iff.1 unfailed) rfl
  obtain ⟨last, forms, reported⟩ := formNetwork_forms finished
  refine ⟨last, forms, ?_, forms.written⟩
  simp [reported, fresh]

/-- A device that is slow to come back, and then is a router from one question to the next. -/
def slowDevice : Session :=
  onOutput (Text.Utf8.encode
    ("> state\ndetached\nDone\ndisabled\nDone\nDone\nDone\nDone\n" ++
      "router\nDone\nrouter\nDone\n").toList) []

theorem formNetwork_passed_slowDevice :
    ∃ report after, (run Session.clock.now (formNetwork Dataset.someDataset (.ok 5))).perform
        slowDevice = (.ok report, after) ∧ report.verdict = .passed ∧
      ∃ last, Forms Dataset.someDataset slowDevice last after ∧
        report.steps = [wasReset, joined Dataset.someDataset, attached last] ∧
        ∃ lines hex asked again,
          slowDevice.padding = .ok lines ∧ Dataset.someDataset.toHex = .ok hex ∧
          after.streams.written =
            slowDevice.streams.written ++ formingBytes lines hex asked again := by
  have verdict : ((run Session.clock.now (formNetwork Dataset.someDataset (.ok 5))).perform
      slowDevice).1.toOption.map Report.verdict = some .passed := by decide +kernel
  cases ran : (run Session.clock.now (formNetwork Dataset.someDataset (.ok 5))).perform
      slowDevice with
  | mk outcome after =>
    rw [ran] at verdict
    cases outcome with
    | error failure => cases verdict
    | ok report =>
      have passed : report.verdict = .passed := Option.some.inj verdict
      exact ⟨report, after, rfl, passed, formNetwork_passed _ _ _ _ _ ran passed⟩

/-- A device that is the leader for one question and detached for the next. -/
def unsteadyDevice : Session :=
  onOutput (Text.Utf8.encode
    "disabled\nDone\nDone\nDone\nDone\nleader\nDone\ndetached\nDone\n".toList) []

/-- The scenario passes on a device whose last role is none of an attached device. -/
theorem formNetwork_passes_detached :
    ¬∀ (dataset : Dataset) (timeout : Except Fault Float) (session : Session) (report : Report)
      (after : Session),
      (run Session.clock.now (formNetwork dataset timeout)).perform session = (.ok report, after) →
      report.verdict = .passed →
      ∃ role ∈ attachedRoles, report.steps.getLast? = some (attached role) := by
  intro always
  have facts : ((run Session.clock.now (formNetwork Dataset.empty (.ok 5))).perform
      unsteadyDevice).1.toOption.map
        (fun report => (report.verdict, report.steps.getLast?.map Step.message)) =
      some (.passed, some "Device attached as detached") := by decide +kernel
  cases ran : (run Session.clock.now (formNetwork Dataset.empty (.ok 5))).perform
      unsteadyDevice with
  | mk outcome after =>
    rw [ran] at facts
    cases outcome with
    | error failure => cases facts
    | ok report =>
      obtain ⟨passed, last⟩ := Prod.mk.inj (Option.some.inj facts)
      obtain ⟨role, isAttached, reported⟩ := always _ _ _ _ _ ran passed
      rw [reported] at last
      have others : ∀ role ∈ attachedRoles,
          (attached role).message ≠ "Device attached as detached" := by decide
      exact others role isAttached (Option.some.inj last)

end Scenario

end ThreadHost
