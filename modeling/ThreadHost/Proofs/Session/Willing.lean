import ThreadHost.Proofs.Config.Accepted
import ThreadHost.Proofs.Session.Opening
import ThreadHost.Proofs.Session.Sound
/-!
# Devices that open

With settings that are accepted and can be shown, a device that opens, and whose pending input can be
discarded, gives a session that can be worked with (`openSession_willing`).
-/

namespace ThreadHost

/-- A device that opens, whose pending input can be discarded, and whose streams fail as streams
do. -/
structure Device.Willing (device : Device) : Prop where
  opens : device.openFailure = none
  discards : device.port.discardFailure = none
  streams : device.streams.Ordinary

namespace Session

variable {device : Device} {padding : Except Fault Nat}

/-- What is known of sessions that the console opens: an active dataset is of use. -/
def usableTerms (platform : Platform) (interval : Float) (padding : Except Fault Nat) : Terms where
  platform
  interval
  padding
  Known active := ∀ dataset, active = some dataset → ∃ mesh, dataset.meshLocalPrefix = .ok mesh

/-- The streams that a session finds behave as those of the device, but for what they refuse with
once they are closed. -/
theorem ordinary_streams (ordinary : device.streams.Ordinary) (place : Place) :
    (place.streams device).Ordinary := by
  cases place <;> exact ⟨ordinary.writes, ordinary.flushes, ordinary.reads⟩

/-- The platform stays the same however a device is found. -/
theorem platform_found (place : Place) (device : Device) (host : Host) :
    (place.found device host).host.platform = host.platform := by
  cases place <;> rfl

/-- The place of accepted settings is tried, if it can be shown. -/
theorem refusal?_eq_none {config : Config} (declared : config.Declared)
    (shown : config.place.isShowable = true) : config.place.refusal? = none := by
  obtain ⟨number, node, least⟩ := declared.simulation.nodeId
  unfold Config.place at shown ⊢
  split
  · rfl
  · simp only [simulation, Place.isShowable, Bool.and_eq_true, node] at shown
    simp only [simulation, Place.refusal?, node, Place.numberFault?, shown.2, Bool.not_true,
      Bool.false_eq_true, if_false]
    exact if_neg (Int.not_lt.2 least)

/-- The blank lines of accepted settings are taken, whether they can be written or not. -/
theorem exists_writable {config : Config} (declared : config.Declared) (platform : Platform) :
    ∃ count, config.session.resetPadding = .proper count ∧ 1000 ≤ count ∧
      paddingOf platform config.session.resetPadding = .ok (writable platform count.toNat) := by
  obtain ⟨count, lines, least⟩ := declared.session.resetPadding
  have enough : ¬count < leastPadding := Int.not_lt.2 least
  refine ⟨count, lines, least, ?_⟩
  rw [lines, paddingOf]
  exact if_neg enough

theorem exists_paddingOf {config : Config} (declared : config.Declared) (platform : Platform) :
    ∃ padding, paddingOf platform config.session.resetPadding = .ok padding := by
  obtain ⟨count, -, -, taken⟩ := exists_writable declared platform
  exact ⟨_, taken⟩

/-- A pause of accepted settings is of use. -/
theorem exists_intervalOf {config : Config} (declared : config.Declared) :
    ∃ interval, config.session.pollInterval = .proper (.real interval) ∧
      intervalOf config.session.pollInterval = .ok interval ∧ 0 < interval := by
  obtain ⟨_, pause, interval, rfl, positive⟩ := declared.session.pollInterval
  refine ⟨interval, pause, ?_, positive⟩
  rw [pause]
  rfl

/-- A device that opens, and whose pending input can be discarded, gives a session with the settings
that are asked for, if its place is tried and can be shown and the blank lines are taken. -/
theorem openSession_opened {config : Config} (unrefused : config.place.refusal? = none)
    (shown : config.place.isShowable = true) {host : Host}
    (taken : paddingOf host.platform config.session.resetPadding = .ok padding)
    (opens : device.openFailure = none) (discards : device.port.discardFailure = none) :
    config.openSession device host = .opened { config.place.found device host with
      pollInterval := intervalOf config.session.pollInterval, padding } := by
  have discarding : config.place.discardFailure device = none := by
    cases config.place with
    | simulation => rfl
    | serial => exact discards
  have made : makeGiven (config.place.found device host) { options := config.options } =
      .ok { config.place.found device host with
        pollInterval := intervalOf config.session.pollInterval, padding } := by
    rw [makeGiven, make, platform_found, Config.options, taken]
    rfl
  rw [Config.openSession, openAt, openGiven_prepared (placeless_options _ _) unrefused
    opens shown, prepare_unlinked discarding List.not_mem_nil, made]
  rfl

/-- With accepted settings that can be shown a willing device gives a session. -/
theorem openSession_willing {config : Config} (declared : config.Declared)
    (shown : config.place.isShowable = true) (willing : device.Willing) {host : Host}
    (accepted : paddingOf host.platform config.session.resetPadding = .ok padding) :
    ∃ session interval, config.openSession device host = .opened session ∧
      config.session.pollInterval = .proper (.real interval) ∧
      session.Sound (usableTerms host.platform interval padding) := by
  have opened := openSession_opened (refusal?_eq_none declared shown) shown accepted willing.opens
    willing.discards
  obtain ⟨interval, pause, paces, positive⟩ := exists_intervalOf declared
  refine ⟨_, interval, opened, pause, ?_⟩
  exact {
    ordinary := ordinary_streams willing.streams config.place
    calm := nofun
    platform := platform_found config.place device host
    paced := paces
    positive
    padded := rfl
    known := nofun }

end Session

end ThreadHost
