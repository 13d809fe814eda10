import ThreadHost.Proofs.Session.Reference
import ThreadHost.Session.Operations
/-!
# A wait never runs out of checks

Waiting for a role is granted a number of checks. Each check that answers has read a line, so
there are always more checks left than bytes: a wait ends because the role is there, because the
time is over or because something failed, and never because the checks are used up
(`waitFor_finishes`). With an interval above zero no pause is negative (`pauseLength_not_negative`).
-/

namespace ThreadHost

namespace Waiting

open Float.Model (UnpackedFloat)

/-- Numbers are compared as they are unpacked. -/
theorem lt_iff_compare {one other : Float} :
    one < other ↔ one.toModel.unpack.compare other.toModel.unpack = some .lt := by
  change Float.lt one other = true ↔ _
  simp only [Float.lt, decide_eq_true_iff]
  change Float.Model.lt _ _ = true ↔ _
  simp [Float.Model.lt, UnpackedFloat.lt]

theorem le_of_less {one other : Float} (less : one < other) : one ≤ other := by
  have compared := lt_iff_compare.1 less
  change Float.le one other = true
  simp only [Float.le, decide_eq_true_iff]
  change UnpackedFloat.le _ _ = true
  rw [UnpackedFloat.le, compared]
  rfl

/-- What is above zero is not below it, whichever kind of number it is. -/
theorem compare_zero {number : UnpackedFloat}
    (above : (UnpackedFloat.zero .positive).compare number = some .lt) :
    number.compare (.zero .positive) = some .gt := by
  cases number with
  | notANumber => cases above
  | infinity sign | zero sign => cases sign <;> first | rfl | cases above
  | finite sign mantissa exponent positive => cases sign <;> first | rfl | cases above

theorem not_negative {number : Float} (positive : 0 < number) : ¬number < 0 := by
  have unpacked : (0 : Float).toModel.unpack = .zero .positive := by rfl
  intro negative
  rw [lt_iff_compare, unpacked] at positive negative
  rw [compare_zero positive] at negative
  cases negative

/-- While there is time left, the pause that is made is not negative. -/
theorem pauseLength_not_negative {interval remaining : Float} (positive : 0 < interval)
    (left : ¬remaining ≤ 0) : ¬pauseLength interval remaining < 0 := by
  unfold pauseLength
  split
  · exact fun negative => left (le_of_less negative)
  · exact not_negative positive

end Waiting

/-- A wait whose checks use up some measure ends before the checks do. -/
theorem Waiting.waitUntil_finishes {σ : Type} {clock : Waiting.Clock σ Float} {check : Act σ Bool}
    (measure : σ → Nat)
    (checked : ∀ {before after ok}, check.perform before = (.ok ok, after) →
      measure after < measure before)
    (paused : ∀ {before after seconds}, (clock.pause seconds).perform before = (.ok (), after) →
      measure after = measure before)
    (deadline interval : Float) (expired : Failure) {checks : Nat} {state after : σ}
    (enough : measure state < checks) :
    (Waiting.waitUntil clock check deadline interval expired checks).perform state ≠
      (.ok .unfinished, after) := by
  induction checks generalizing state with
  | zero => omega
  | succ checks inductionHypothesis =>
    intro unfinished
    obtain ⟨ok, middle, result, others⟩ := Act.of_perform_bind_ok unfinished
    have less := checked result
    split at others
    · cases others
    · rw [Act.perform_bind, Act.perform_get] at others
      simp only at others
      split at others
      · cases others
      · obtain ⟨_, later, pause, others⟩ := Act.of_perform_bind_ok others
        have same := paused pause
        exact inductionHypothesis (by omega) others

namespace Session

variable {session after : Session}

/-- A command that is answered has read at least one line. -/
theorem execute_shortens {command : String} {lines : List String}
    (answered : (execute command).perform session = (.ok lines, after)) :
    after.streams.unread.length < session.streams.unread.length := by
  have all := executes_of_answered answered
  cases all with
  | @ended raws middle _ flushes passes ends =>
    cases ends with
    | done works more closing =>
      have reading := passes.reading.trans (Reading.passed more)
      have whole := congrArg List.length reading.unread
      have line : 0 < middle.nextRaw.length := List.length_pos_iff.2 (Line.next_fst_ne_nil more)
      have same : (session.sent command).streams.unread = session.streams.unread := rfl
      rw [same, List.length_append, List.flatten_append, List.length_append] at whole
      simp only [List.flatten_cons, List.flatten_nil, List.append_nil] at whole
      omega

/-- A role that is told was read from at least one line. -/
theorem getState_shortens {role : String}
    (answered : getState.perform session = (.ok role, after)) :
    after.streams.unread.length < session.streams.unread.length := by
  obtain ⟨lines, middle, executed, told⟩ := Act.of_perform_bind_ok answered
  cases lines with
  | nil => cases told
  | cons line lines =>
    cases told
    exact execute_shortens executed

/-- A pause of a session lets time pass and does nothing else. -/
theorem pacing_pause {session before after : Session} {seconds : Float}
    (paused : (session.pacing.1.pause seconds).perform before = (.ok (), after)) :
    ∃ host, after = { before with host } := by
  unfold pacing at paused
  cases usable : session.pollInterval with
  | error fault =>
    rw [usable] at paused
    cases paused
  | ok interval =>
    rw [usable] at paused
    exact ⟨_, (congrArg Prod.snd paused).symm⟩

/-- Waiting for a role never uses up the checks that it is granted. -/
theorem waitFor_finishes (states : List String) (timeout : Float) (description : String) :
    (Waiting.waitFor session.pacing.1 (do pure (states.contains (← getState))) timeout
      session.pacing.2 description (session.streams.unread.length + 1)).perform session ≠
        (.ok .unfinished, after) := by
  intro unfinished
  obtain ⟨now, middle, started, waited⟩ := Act.of_perform_bind_ok unfinished
  cases started
  have asks : ∀ {before after ok},
      Act.perform (do pure (states.contains (← getState))) before = (.ok ok, after) →
        after.streams.unread.length < before.streams.unread.length := by
    intro before after ok checked
    obtain ⟨role, middle, asked, answered⟩ := Act.of_perform_bind_ok checked
    cases answered
    exact getState_shortens asked
  have rests : ∀ {before after seconds},
      (session.pacing.1.pause seconds).perform before = (.ok (), after) →
        after.streams.unread.length = before.streams.unread.length := by
    intro before after seconds paused
    obtain ⟨host, rfl⟩ := pacing_pause paused
    rfl
  refine Waiting.waitUntil_finishes (fun session => session.streams.unread.length) asks rests _ _ _
    ?_ waited
  exact Nat.lt_succ_self _

end Session

end ThreadHost
