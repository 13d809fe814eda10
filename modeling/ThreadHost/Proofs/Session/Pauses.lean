import ThreadHost.Proofs.Session.Lawful
/-!
# The pauses of a wait

Waiting for a role pauses between two checks and at no other time. Each pause takes some time, and
no more than an interval (`waitForState_pauses`); no other pauses are asked of the platform
(`Platform.Refuses`).
-/

namespace ThreadHost

namespace Waiting

open Float.Model (UnpackedFloat)

theorem le_iff_compare {one other : Float} :
    one ≤ other ↔
      (one.toModel.unpack.compare other.toModel.unpack).any Ordering.isLE = true := by
  change Float.le one other = true ↔ _
  simp only [Float.le, decide_eq_true_iff]
  rfl

/-- What is above zero is at most itself, which no other kind of number need be. -/
theorem compare_self_of_above {number : UnpackedFloat}
    (above : (UnpackedFloat.zero .positive).compare number = some .lt) :
    number.compare number = some .eq := by
  cases number with
  | notANumber => cases above
  | infinity sign | zero sign => cases sign <;> rfl
  | finite sign mantissa exponent positive =>
    have same : (compare exponent exponent).then (compare mantissa mantissa) = .eq := by
      rw [Int.compare_eq_eq.2 rfl, Nat.compare_eq_eq.2 rfl]
      rfl
    cases sign with
    | positive => exact congrArg some same
    | negative => cases above

/-- What can be compared is above zero unless it is at most zero. -/
theorem above_of_not_le {number other : UnpackedFloat} (comparable : number.compare other ≠ none)
    (left : ¬(number.compare (.zero .positive)).any Ordering.isLE = true) :
    (UnpackedFloat.zero .positive).compare number = some .lt := by
  cases number with
  | notANumber => exact absurd rfl comparable
  | infinity sign | zero sign => cases sign <;> first | rfl | exact absurd rfl left
  | finite sign mantissa exponent positive => cases sign <;> first | rfl | exact absurd rfl left

/-- While there is time left, a pause takes some time, and an interval at most. -/
theorem pauseLength_within {interval remaining : Float} (positive : 0 < interval)
    (left : ¬remaining ≤ 0) :
    0 < pauseLength interval remaining ∧ pauseLength interval remaining ≤ interval := by
  have zero : (0 : Float).toModel.unpack = .zero .positive := by rfl
  unfold pauseLength
  split
  case isTrue less =>
    refine ⟨?_, le_of_less less⟩
    have compared := lt_iff_compare.1 less
    rw [le_iff_compare, zero] at left
    rw [lt_iff_compare, zero]
    exact above_of_not_le (by rw [compared]; nofun) left
  case isFalse =>
    refine ⟨positive, ?_⟩
    rw [lt_iff_compare, zero] at positive
    rw [le_iff_compare, compare_self_of_above positive]
    rfl

end Waiting

/-- The platform does not take a pause that a wait may ask for. -/
structure Platform.Refuses (platform : Platform) (interval length : Float)
    (refusal : PauseRefusal) : Prop where
  takesTime : 0 < length
  atMost : length ≤ interval
  refused : platform.refuses length = some refusal

/-- While there is time left, a pause is refused by the platform, if at all. -/
theorem Host.refuses_of_pauseRefusal? {host : Host} {interval remaining : Float}
    {refusal : PauseRefusal} (positive : 0 < interval) (left : ¬remaining ≤ 0)
    (refused : host.pauseRefusal? (Waiting.pauseLength interval remaining) = some refusal) :
    host.platform.Refuses interval (Waiting.pauseLength interval remaining) refusal := by
  obtain ⟨takesTime, atMost⟩ := Waiting.pauseLength_within positive left
  rw [pauseRefusal?_of_not_negative (Waiting.pauseLength_not_negative positive left)] at refused
  exact ⟨takesTime, atMost, refused⟩

namespace Session

open Act (Law)

variable {session : Session} {interval : Float}

/-- Pauses are made, each of some time and an interval at most. -/
def resting (interval : Float) : Law Session where
  Holds before _ after := ∃ fresh, after.host.pauses = before.host.pauses ++ fresh ∧
    ∀ length ∈ fresh, 0 < length ∧ length ≤ interval
  refl _ := ⟨[], by simp⟩
  trans := by
    rintro before middle after ending ⟨first, one, each⟩ ⟨second, other, eachToo⟩
    refine ⟨first ++ second, by rw [other, one, List.append_assoc], fun length member => ?_⟩
    exact (List.mem_append.1 member).elim (each length) (eachToo length)

/-- What makes no pause. -/
theorem resting_of_same {before after : Session} {ending : Option Failure}
    (same : after.host.pauses = before.host.pauses) :
    (resting interval).Holds before ending after := ⟨[], by simp [same], nofun⟩

/-- A round trip makes no pause. -/
theorem accessing_resting (interval : Float) : Accessing (resting interval) where
  write command data session := by
    rw [perform_writeFor]
    split
    · exact resting_of_same rfl
    · split <;> exact resting_of_same rfl
  read command session := by
    have same : session.tried.host.pauses = session.host.pauses := by
      unfold tried Wire.tried
      split <;> rfl
    rw [perform_readRaw]
    split
    · exact resting_of_same same
    · exact resting_of_same same
  notify := obeyed_notify (fun _ _ _ _ => resting_of_same rfl) fun _ _ => resting_of_same rfl
  count _ _ _ := resting_of_same rfl
  truncated _ _ := resting_of_same rfl
  deviceError _ _ _ := resting_of_same rfl

/-- Asking for the role makes no pause. -/
theorem getState_resting (interval : Float) : (resting interval).Obeyed getState := by
  refine ((accessing_resting interval).execute (by decide)).bind fun lines => ?_
  cases lines with
  | nil => exact fun _ => resting_of_same rfl
  | cons role lines => exact Law.obeyed_pure role

/-- Waiting for a role makes pauses of some time each, and of an interval at most. -/
theorem waitForState_pauses (paced : session.pollInterval = .ok interval) (positive : 0 < interval)
    (states : List String) (timeout : Float) :
    ∃ fresh, ((waitForState states timeout).perform session).2.host.pauses =
        session.host.pauses ++ fresh ∧
      ∀ length ∈ fresh, 0 < length ∧ length ≤ interval := by
  have pace : session.pacing = (clock, interval) := by simp [pacing, paced]
  have pauses : ∀ remaining, ¬remaining ≤ 0 → (resting interval).Obeyed
      (session.pacing.1.pause (Waiting.pauseLength session.pacing.2 remaining)) := by
    intro remaining left before
    rw [pace, perform_pause]
    split
    · exact resting_of_same rfl
    · exact ⟨[_], rfl, by simpa using Waiting.pauseLength_within positive left⟩
  exact obeyedAt_waitForState (getState_resting interval) pauses
    (fun _ _ _ => resting_of_same rfl) states timeout

end Session

end ThreadHost
