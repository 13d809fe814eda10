import ThreadHost.Proofs.Act.Law
import ThreadHost.Proofs.Link.Released
import ThreadHost.Session.Open
/-!
# Sessions that are opened

A device that was opened belongs to the session that comes of it, and its link is as it was opened;
or there is no session, and the device is given up again. In two cases it is not given up: where
nobody could be told of it, and where the caller gave a link of their own (`openGiven_proper`).
-/

namespace ThreadHost

namespace Act

variable {σ α : Type} {act : Act σ α} {before after : σ} {value : α}

/-- Behind a failure the clean-up is carried out; the failure goes on unless the clean-up fails
itself. -/
theorem perform_onFailure_failed (cleanUp : Act σ Unit) {first : Failure} {middle : σ}
    (failed : act.perform before = (.error first, middle)) :
    (act.onFailure cleanUp).perform before =
      (.error ((ending (cleanUp.perform middle).1).getD first), (cleanUp.perform middle).2) := by
  have run : (act.onFailure cleanUp).perform before = act.onFailure cleanUp before := rfl
  rw [run, onFailure, failed]
  simp only
  rcases cleanUp.perform middle with ⟨later | _, last⟩ <;> rfl

/-- An answer is that of the act, and nothing is cleaned up. -/
theorem perform_onFailure_ok (cleanUp : Act σ Unit)
    (answered : act.perform before = (.ok value, after)) :
    (act.onFailure cleanUp).perform before = (.ok value, after) := by
  have run : (act.onFailure cleanUp).perform before = act.onFailure cleanUp before := rfl
  rw [run, onFailure, answered]

end Act

namespace Wire

/-- What says that a wire is open: its link, and its two streams with what they refuse with once they
are closed. -/
def openness (wire : Wire) : Option Link × Bool × Bool × StreamFault :=
  (wire.link, wire.streams.inputClosed, wire.streams.outputClosed, wire.streams.closedRefusal)

end Wire

namespace Place

variable {place : Place} {device : Device} {host : Host} {wire : Wire}

/-- Why pending input cannot be discarded. Only a port has any. -/
def discardFailure (device : Device) : Place → Option Failure
  | .simulation .. => none
  | .serial .. => device.port.discardFailure

/-- The streams of a device as a session finds them: a port discards what it has received before. -/
def streams (place : Place) (device : Device) : Streams :=
  match place with
  | .simulation .. => place.freshStreams device
  | .serial .. => (place.freshStreams device).discard device.port.stale

/-- The wire on a device as a session finds it. -/
def found (place : Place) (device : Device) (host : Host) : Wire where
  host :=
    match place with
    | .simulation .. => host.record place.call
    | .serial .. => (host.record place.call).record .discardInput
  streams := place.streams device
  link := some (place.link device)

/-- Input that cannot be discarded leaves everything as it was opened. -/
theorem discardInput_failed {failure : Failure} (fails : place.discardFailure device = some failure)
    (host : Host) :
    Wire.discardInput.perform (place.wire device host) =
      (.error failure, { place.wire device host with
        host := (host.record place.call).record .discardInput }) := by
  unfold Wire.discardInput
  rw [Act.perform_bind, Act.perform_get]
  cases place with
  | simulation => cases fails
  | serial =>
    have broken : device.port.discardFailure = some failure := fails
    simp only [wire, link, Port.discardInput, Act.perform_bind, Wire.call, Act.perform_modify,
      broken, Wire.raise, Act.perform_throw]

/-- Otherwise a session finds what is left. -/
theorem discardInput_done (discards : place.discardFailure device = none) (host : Host) :
    Wire.discardInput.perform (place.wire device host) = (.ok (), place.found device host) := by
  unfold Wire.discardInput
  rw [Act.perform_bind, Act.perform_get]
  cases place with
  | simulation => rfl
  | serial =>
    have works : device.port.discardFailure = none := discards
    simp only [wire, found, streams, link, Port.discardInput, Act.perform_bind, Wire.call,
      Act.perform_modify, works, Wire.raise, Act.perform_pure]

/-- The four things that may come of opening a device. -/
theorem openDevice_cases (place : Place) (device : Device) (host : Host) :
    (∃ fault, place.refusal? = some fault ∧ place.openDevice device host = .refused fault) ∨
    (∃ failure, device.openFailure = some failure ∧ place.openDevice device host =
      .failed (place.openFailure failure) (host.record place.call)) ∨
    (device.openFailure = none ∧ place.isShowable = false ∧ place.openDevice device host =
      .unfinished (.plain .tooManyDigits) (place.wire device host)) ∨
    (device.openFailure = none ∧ place.isShowable = true ∧
      place.openDevice device host = .opened (place.wire device host)) := by
  unfold openDevice
  cases place.refusal? with
  | some fault => exact .inl ⟨fault, rfl, rfl⟩
  | none =>
    cases device.openFailure with
    | some failure => exact .inr (.inl ⟨failure, rfl, rfl⟩)
    | none =>
      cases place.isShowable with
      | false => exact .inr (.inr (.inl ⟨rfl, rfl, rfl⟩))
      | true => exact .inr (.inr (.inr ⟨rfl, rfl, rfl⟩))

/-- The link that a place gives to a device can be given up. -/
theorem held_link (closes : device.process.ClosesInput) (place : Place) :
    (place.link device).Held := by
  cases place with
  | simulation => exact closes
  | serial => rfl

/-- Everything of a wire is as it was opened at a place. -/
structure Opens (place : Place) (device : Device) (wire : Wire) : Prop where
  owns : wire.link = some (place.link device)
  inputClosed : wire.streams.inputClosed = device.streams.inputClosed
  outputClosed : wire.streams.outputClosed = device.streams.outputClosed
  closedRefusal : wire.streams.closedRefusal = (place.freshStreams device).closedRefusal

/-- So is a wire that has just been opened, -/
theorem opens_wire (place : Place) (device : Device) (host : Host) :
    place.Opens device (place.wire device host) := by
  cases place <;> exact ⟨rfl, rfl, rfl, rfl⟩

/-- and the wire that a session finds. -/
theorem opens_found (place : Place) (device : Device) (host : Host) :
    place.Opens device (place.found device host) := by
  cases place <;> exact ⟨rfl, rfl, rfl, rfl⟩

end Place

namespace Session

variable {place : Place} {given : Given} {device : Device} {host : Host} {wire : Wire}
  {session : Session}

/-- A session that is made has the wire that it is made on. -/
theorem toWire_of_makeGiven (made : makeGiven wire given = .ok session) :
    session.toWire = wire := by
  unfold makeGiven at made
  split at made
  · obtain ⟨padding, -, rfl⟩ := of_make_ok made
    rfl
  · cases made

/-- What is said wrong of a second link. -/
def secondLink : Failure := .plain (.misuse (.givenTwice "Session._from_link" linkName))

/-- A device whose input cannot be discarded is given up; the failure goes on unless closing fails. -/
theorem prepare_undiscarded {first : Failure} (fails : place.discardFailure device = some first)
    (given : Given) (host : Host) :
    let left : Wire := { place.wire device host with
      host := (host.record place.call).record .discardInput }
    (prepare given).perform (place.wire device host) =
      (.error ((Act.ending (Wire.close.perform left).1).getD first),
        (Wire.close.perform left).2) := by
  intro left
  rw [prepare, Act.perform_bind,
    Act.perform_onFailure_failed Wire.close (Place.discardInput_failed fails host)]

/-- A second link ends it where the input was discarded. -/
theorem prepare_linked (discards : place.discardFailure device = none)
    (second : linkName ∈ given.others) (host : Host) :
    (prepare given).perform (place.wire device host) =
      (.error secondLink, place.found device host) := by
  rw [prepare, Act.perform_bind,
    Act.perform_onFailure_ok Wire.close (Place.discardInput_done discards host)]
  simp only [second, if_true]
  rfl

/-- Without a second link a session is made, or the device is given up. -/
theorem prepare_unlinked (discards : place.discardFailure device = none)
    (alone : linkName ∉ given.others) (host : Host) :
    (prepare given).perform (place.wire device host) =
      match makeGiven (place.found device host) given with
      | .ok session => (.ok session, place.found device host)
      | .error fault =>
        (.error ((Act.ending (Wire.close.perform (place.found device host)).1).getD (.plain fault)),
          (Wire.close.perform (place.found device host)).2) := by
  rw [prepare, Act.perform_bind,
    Act.perform_onFailure_ok Wire.close (Place.discardInput_done discards host)]
  simp only [alone, if_false, Act.perform_bind, Act.perform_get]
  cases makeGiven (place.found device host) given with
  | ok session => rfl
  | error fault =>
    exact Act.perform_onFailure_failed Wire.close
      (Act.perform_refuse fault _ : (Act.refuse fault : Act Wire Session).perform _ = _)

/-- What an opening comes to by what comes of preparing the device. -/
def Opening.ofPrepared : Except Failure Session × Wire → Opening
  | (.ok session, _) => .opened session
  | (.error failure, wire) => .abandoned failure wire

/-- What an opening comes to by what comes of opening the device itself. -/
def Opening.ofDevice (given : Given) : ThreadHost.Opening → Opening
  | .refused fault => .refused (.plain fault)
  | .failed failure host => .failed failure host
  | .unfinished failure wire => .abandoned failure wire
  | .opened wire => .ofPrepared ((prepare given).perform wire)

/-- Nothing is given by a name that the operation itself takes. -/
def Given.Placeless (given : Given) (place : Place) : Prop :=
  ∀ name ∈ given.others, name ∉ openerNames place

theorem placeless_options (options : Options) (place : Place) :
    Given.Placeless { options } place := List.forall_mem_nil _

/-- Where no name is given twice, an opening is a matter of the device. -/
theorem openGiven_placeless (placeless : given.Placeless place) (device : Device) (host : Host) :
    openGiven place given device host = .ofDevice given (place.openDevice device host) := by
  have unnamed : given.others.find? (openerNames place).contains = none :=
    List.find?_eq_none.2 fun name member => by simpa using placeless name member
  rw [openGiven, unnamed]
  rfl

/-- The four things that may come of opening a session on a device. -/
theorem openGiven_cases (place : Place) (given : Given) (device : Device) (host : Host) :
    (∃ failure, openGiven place given device host = .refused failure) ∨
    (∃ failure after, device.openFailure.isSome = true ∧
      openGiven place given device host = .failed failure after) ∨
    (device.openFailure = none ∧ place.isShowable = false ∧ openGiven place given device host =
      .abandoned (.plain .tooManyDigits) (place.wire device host)) ∨
    (device.openFailure = none ∧ place.isShowable = true ∧ openGiven place given device host =
      .ofPrepared ((prepare given).perform (place.wire device host))) := by
  by_cases placeless : given.Placeless place
  · rw [openGiven_placeless placeless]
    rcases place.openDevice_cases device host with ⟨fault, -, result⟩ |
      ⟨failure, fails, result⟩ | ⟨opens, hidden, result⟩ | ⟨opens, shown, result⟩
    all_goals rw [result]
    · exact .inl ⟨_, rfl⟩
    · exact .inr (.inl ⟨_, _, by rw [fails]; rfl, rfl⟩)
    · exact .inr (.inr (.inl ⟨opens, hidden, rfl⟩))
    · exact .inr (.inr (.inr ⟨opens, shown, rfl⟩))
  · obtain ⟨name, twice⟩ : ∃ name, given.others.find? (openerNames place).contains = some name := by
      rw [← Option.isSome_iff_exists, List.find?_isSome]
      simpa [Given.Placeless] using placeless
    exact .inl ⟨_, by rw [openGiven, twice]⟩

/-- Why a device that was opened stays open without a session: nobody could be told of it, or the
caller gave a link of their own. -/
inductive Strands (place : Place) (given : Given) (device : Device) : Prop where
  | untold (hidden : place.isShowable = false)
  | linked (second : linkName ∈ given.others) (discards : place.discardFailure device = none)

/-- Options alone leave no device open that somebody can be told of. -/
theorem not_strands (shown : place.isShowable = true) (options : Options) (device : Device) :
    ¬Strands place { options } device := by
  rintro (hidden | second)
  · rw [shown] at hidden
    cases hidden
  · cases second

/-- What may come of opening a session on a device: a session that owns the open link, or a failure.
With a failure the device has not been opened, or nothing of it is left, or it stays open for one of
the known reasons. -/
inductive Opening.Proper (place : Place) (given : Given) (device : Device) : Opening → Prop where
  | opened {session : Session} (sound : ¬Strands place given device)
      (opens : place.Opens device session.toWire) :
      Opening.Proper place given device (.opened session)
  | refused {failure : Failure} : Opening.Proper place given device (.refused failure)
  | failed {failure : Failure} {host : Host} (unopened : device.openFailure.isSome = true) :
      Opening.Proper place given device (.failed failure host)
  | released {failure : Failure} {wire : Wire} (sound : ¬Strands place given device)
      (released : wire.Released) : Opening.Proper place given device (.abandoned failure wire)
  | stranded {failure : Failure} {wire : Wire} (reason : Strands place given device)
      (opens : place.Opens device wire) :
      Opening.Proper place given device (.abandoned failure wire)

/-- A device that opened, and of which somebody was told, belongs to a session or is given up, unless
the caller gave a second link. -/
theorem prepare_proper (closes : device.process.ClosesInput) (shown : place.isShowable = true)
    (given : Given) (host : Host) :
    (Opening.ofPrepared ((prepare given).perform (place.wire device host))).Proper place given
      device := by
  have held := Place.held_link closes place
  cases discarding : place.discardFailure device with
  | some first =>
    rw [prepare_undiscarded discarding given host]
    refine .released ?_ (Wire.close_released rfl held)
    rintro (hidden | ⟨-, discards⟩)
    · cases shown.symm.trans hidden
    · cases discarding.symm.trans discards
  | none =>
    by_cases second : linkName ∈ given.others
    · rw [prepare_linked discarding second host]
      exact .stranded (.linked second discarding) (place.opens_found device host)
    · rw [prepare_unlinked discarding second host]
      have sound : ¬Strands place given device := by
        rintro (hidden | ⟨linked, -⟩)
        · cases shown.symm.trans hidden
        · exact second linked
      cases made : makeGiven (place.found device host) given with
      | ok session =>
        exact .opened sound (toWire_of_makeGiven made ▸ place.opens_found device host)
      | error fault => exact .released sound (Wire.close_released rfl held)

/-- Whatever is given, and whatever opening the device, discarding its input and closing it come
to, the device does not stay behind but for a known reason. -/
theorem openGiven_proper (closes : device.process.ClosesInput) (place : Place) (given : Given)
    (host : Host) : (openGiven place given device host).Proper place given device := by
  rcases openGiven_cases place given device host with ⟨failure, result⟩ |
    ⟨failure, after, unopened, result⟩ | ⟨-, hidden, result⟩ | ⟨-, shown, result⟩
  all_goals rw [result]
  · exact .refused
  · exact .failed unopened
  · exact .stranded (.untold hidden) (place.opens_wire device host)
  · exact prepare_proper closes shown given host

/-- A device that opens, and of which somebody is told, is prepared. -/
theorem openGiven_prepared (placeless : given.Placeless place) (tried : place.refusal? = none)
    (unfailing : device.openFailure = none) (shown : place.isShowable = true) (host : Host) :
    openGiven place given device host =
      .ofPrepared ((prepare given).perform (place.wire device host)) := by
  have result : place.openDevice device host = .opened (place.wire device host) := by
    simp only [Place.openDevice, tried, unfailing, shown, if_true]
  rw [openGiven_placeless placeless, result, Opening.ofDevice]

/-- A session that is made is new. -/
theorem new_of_makeGiven (made : makeGiven wire given = .ok session) :
    session.observers = [] ∧ session.traffic = [] := by
  unfold makeGiven at made
  split at made
  · obtain ⟨padding, -, rfl⟩ := of_make_ok made
    exact ⟨rfl, rfl⟩
  · cases made

/-- A session that a device is prepared for is made on what it finds, with no second link. -/
theorem of_prepare_ok {after : Wire}
    (answered : (prepare given).perform (place.wire device host) = (.ok session, after)) :
    place.discardFailure device = none ∧
      makeGiven (place.found device host) given = .ok session := by
  cases discarding : place.discardFailure device with
  | some first =>
    rw [prepare_undiscarded discarding given host] at answered
    cases answered
  | none =>
    refine ⟨rfl, ?_⟩
    by_cases second : linkName ∈ given.others
    · rw [prepare_linked discarding second host] at answered
      cases answered
    · rw [prepare_unlinked discarding second host] at answered
      cases made : makeGiven (place.found device host) given with
      | ok other =>
        rw [made] at answered
        cases answered
        rfl
      | error fault =>
        rw [made] at answered
        cases answered

/-- A session that is opened is made on what it finds of a device that has opened, and of which
somebody was told. -/
theorem of_openGiven_opened (opens : openGiven place given device host = .opened session) :
    device.openFailure = none ∧ place.isShowable = true ∧ place.discardFailure device = none ∧
      makeGiven (place.found device host) given = .ok session := by
  rcases openGiven_cases place given device host with ⟨failure, result⟩ |
    ⟨failure, after, -, result⟩ | ⟨-, -, result⟩ | ⟨unfailing, shown, result⟩
  all_goals rw [result] at opens
  · cases opens
  · cases opens
  · cases opens
  · rcases prepared : (prepare given).perform (place.wire device host) with ⟨failure | made, after⟩
    · rw [prepared] at opens
      cases opens
    · rw [prepared] at opens
      cases opens
      exact ⟨unfailing, shown, of_prepare_ok prepared⟩

/-- Such a session is new, -/
theorem new_of_openGiven (opens : openGiven place given device host = .opened session) :
    session.observers = [] ∧ session.traffic = [] := by
  obtain ⟨-, -, -, made⟩ := of_openGiven_opened opens
  exact new_of_makeGiven made

/-- and has the wire that it found. -/
theorem toWire_of_openGiven (opens : openGiven place given device host = .opened session) :
    session.toWire = place.found device host := by
  obtain ⟨-, -, -, made⟩ := of_openGiven_opened opens
  exact toWire_of_makeGiven made

/-- A device that is left without a session has opened. -/
theorem of_openGiven_abandoned {failure : Failure}
    (abandons : openGiven place given device host = .abandoned failure wire) :
    device.openFailure = none := by
  rcases openGiven_cases place given device host with ⟨_, result⟩ | ⟨_, _, -, result⟩ |
    ⟨unfailing, -, -⟩ | ⟨unfailing, -, -⟩
  · cases result.symm.trans abandons
  · cases result.symm.trans abandons
  · exact unfailing
  · exact unfailing

end Session

end ThreadHost
