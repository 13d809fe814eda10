import ThreadHost.Proofs.Session.Owned
/-!
# Sessions that a listener follows

While the receiver of a listener is the only observer of a session, it stays so, and it is told of
every line that passes, once and in order, and of nothing else. Nothing that is done with the
session changes this, however it ends (`asking_followed`, `runEvery_followed`).
-/

namespace ThreadHost

open Act (Law)

/-- What a notice tells, without the observer and the time. -/
def Notice.event (notice : Notice) : Event := (notice.direction, notice.line)

namespace Session

variable {receiver : Receiver} {before middle after : Session}

/-- Between two states of a session a receiver, its only observer, was told of every line that
passed. -/
structure Relayed (receiver : Receiver) (before after : Session) : Prop where
  observers : after.observers = [.receiver receiver]
  lines : ∃ fresh : List Notice, after.notices = before.notices ++ fresh ∧
    (∀ notice ∈ fresh, notice.observer = .receiver receiver) ∧
    after.traffic = before.traffic ++ fresh.map Notice.event

namespace Relayed

/-- Where no line passes, nothing is told. -/
theorem of_silent (observers : after.observers = [.receiver receiver])
    (notices : after.notices = before.notices) (traffic : after.traffic = before.traffic) :
    Relayed receiver before after :=
  ⟨observers, [], by simp [notices], by simp, by simp [traffic]⟩

theorem trans (first : Relayed receiver before middle) (second : Relayed receiver middle after) :
    Relayed receiver before after := by
  obtain ⟨early, earlyNotices, earlyTold, earlyTraffic⟩ := first.lines
  obtain ⟨late, lateNotices, lateTold, lateTraffic⟩ := second.lines
  refine ⟨second.observers, early ++ late, ?_, ?_, ?_⟩
  · rw [lateNotices, earlyNotices, List.append_assoc]
  · intro notice member
    exact (List.mem_append.1 member).elim (earlyTold notice) (lateTold notice)
  · rw [lateTraffic, earlyTraffic, List.map_append, List.append_assoc]

/-- A line that passes is told once. -/
theorem of_notified (session : Session) (only : session.observers = [.receiver receiver])
    (direction : Direction) (line : String) :
    Relayed receiver session (session.notified direction line) where
  observers := by
    simp [notified, only, audience, Audience.told, Observer.leaves, Observer.reaction]
  lines := ⟨[⟨.receiver receiver, direction, line, session.host.clock⟩],
    by simp [notified, only], by simp, by simp [notified, Notice.event]⟩

end Relayed

/-- The link stays the same, and so does a receiver that is the only observer; it is told of every
line that passes. -/
def followed : Law Session where
  Holds before _ after := after.link = before.link ∧
    ∀ receiver, before.observers = [.receiver receiver] → Relayed receiver before after
  refl _ := ⟨rfl, fun _ only => .of_silent only rfl rfl⟩
  trans first second := ⟨second.1.trans first.1,
    fun receiver only => (first.2 receiver only).trans
      (second.2 receiver (first.2 receiver only).observers)⟩

/-- What changes neither the link nor the observers, and lets no line pass. -/
theorem followed_of_silent {ending : Option Failure} (link : after.link = before.link)
    (observers : after.observers = before.observers) (notices : after.notices = before.notices)
    (traffic : after.traffic = before.traffic) : followed.Holds before ending after :=
  ⟨link, fun _ only => .of_silent (observers.trans only) notices traffic⟩

/-- An access to the streams tells the receiver of the line that passes, if one does. -/
theorem exchanging_followed : Exchanging followed where
  write command data session := by
    rw [perform_writeFor]
    split
    · exact followed_of_silent rfl rfl rfl rfl
    · split <;> exact followed_of_silent rfl rfl rfl rfl
  read command session := by
    have tried : session.tried.link = session.link := by
      unfold Session.tried Wire.tried
      split <;> rfl
    rw [perform_readRaw]
    split <;> exact followed_of_silent tried rfl rfl rfl
  notify direction line session := by
    refine ⟨exchanging_owning.notify direction line session, fun receiver only => ?_⟩
    have calm : session.Calm := by
      intro observer member
      obtain rfl : observer = .receiver receiver := by simpa [audience, only] using member
      exact Observer.calm_receiver _ _
    rw [perform_notify (Audience.Calm.hears calm _)]
    exact .of_notified session only direction line
  count _ _ _ := followed_of_silent rfl rfl rfl rfl
  truncated _ _ := followed_of_silent rfl rfl rfl rfl
  deviceError _ _ _ := followed_of_silent rfl rfl rfl rfl
  severalLines _ _ := followed_of_silent rfl rfl rfl rfl

theorem asking_followed : Asking followed :=
  exchanging_followed.asking (fun _ _ => followed_of_silent rfl rfl rfl rfl)
    (fun _ _ _ => followed_of_silent rfl rfl rfl rfl)
    (fun _ => followed_of_silent rfl rfl rfl rfl) fun _ _ => followed_of_silent rfl rfl rfl rfl

theorem factoryReset_followed : followed.Obeyed factoryReset :=
  exchanging_followed.factoryReset fun _ _ => followed_of_silent rfl rfl rfl rfl

theorem join_followed (dataset : Dataset) : followed.Obeyed (join dataset) :=
  asking_followed.join dataset fun _ => followed_of_silent rfl rfl rfl rfl

theorem runEvery_followed (dataset : Dataset) (timeout : Except Fault Float) :
    followed.Obeyed (Scenario.runEvery dataset timeout) :=
  Scenario.obeyed_runEvery (fun _ holds => holds) asking_followed factoryReset_followed
    (join_followed dataset) timeout

end Session

end ThreadHost
