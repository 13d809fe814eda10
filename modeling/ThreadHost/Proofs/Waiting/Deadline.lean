import Mathlib.Data.List.Chain
import Mathlib.Data.Rat.Cast.Order
import Mathlib.Tactic.Linarith
import ThreadHost.Waiting
/-!
# Waiting against a deadline

On a clock that goes exactly, a wait leaves a transcript: checks that did not hold, each with one
pause behind it, and a last check that decides how the wait ends (`waitUntil_transcript`). No check
begins behind the deadline, so a wait that expires is late by its last check at most, and a condition
that holds from the deadline on, or from earlier, is always found to hold (`waitWithin_deadline`).
-/

namespace ThreadHost.Waiting

variable {σ τ : Type}

/-- Wait from now on, on a clock of any kind. -/
def waitWithin [Add τ] [Sub τ] [OfNat τ 0] [LE τ] [LT τ] [DecidableLE τ] [DecidableLT τ]
    (clock : Clock σ τ) (check : Act σ Bool) (timeout interval : τ) (expired : Failure)
    (checks : Nat) : Act σ Waited := do
  let deadline := clock.now (← get) + timeout
  waitUntil clock check deadline interval expired checks

/-- The deadline is as far away as the timeout says. -/
theorem perform_waitWithin [Add τ] [Sub τ] [OfNat τ 0] [LE τ] [LT τ] [DecidableLE τ] [DecidableLT τ]
    (clock : Clock σ τ) (check : Act σ Bool) (timeout interval : τ) (expired : Failure)
    (checks : Nat) (start : σ) :
    (waitWithin clock check timeout interval expired checks).perform start =
      (waitUntil clock check (clock.now start + timeout) interval expired checks).perform start := by
  rw [waitWithin, Act.perform_bind, Act.perform_get]

/-- Waiting for a time in seconds is the same on a clock of doubles. -/
theorem waitFor_eq_waitWithin (clock : Clock σ Float) (check : Act σ Bool)
    (timeout interval : Float) (description : String) (checks : Nat) :
    waitFor clock check timeout interval description checks =
      waitWithin clock check timeout interval (.plain (.waitExpired timeout description)) checks :=
  rfl

/-- What one check leads to: to the end of the wait, or to a pause and the rest of it. -/
theorem perform_waitUntil_succ [Sub τ] [OfNat τ 0] [LE τ] [LT τ] [DecidableLE τ] [DecidableLT τ]
    (clock : Clock σ τ) (check : Act σ Bool) (deadline interval : τ) (expired : Failure)
    (checks : Nat) (start : σ) :
    (waitUntil clock check deadline interval expired (checks + 1)).perform start =
      match check.perform start with
      | (.error failure, after) => (.error failure, after)
      | (.ok true, after) => (.ok .satisfied, after)
      | (.ok false, middle) =>
        let remaining := deadline - clock.now middle
        if remaining ≤ 0 then (.error expired, middle)
        else
          match (clock.pause (pauseLength interval remaining)).perform middle with
          | (.error failure, after) => (.error failure, after)
          | (.ok _, resumed) =>
            (waitUntil clock check deadline interval expired checks).perform resumed := by
  rw [waitUntil, Act.perform_bind]
  rcases check.perform start with ⟨failure | _ | _, middle⟩
  · rfl
  · simp only [Bool.false_eq_true, if_false, Act.perform_bind, Act.perform_get]
    split
    · rfl
    · rw [Act.perform_bind]
      rcases (clock.pause (pauseLength interval (deadline - clock.now middle))).perform middle
        with ⟨_ | _, _⟩ <;> rfl
  · rfl

/-- A clock on which a pause takes exactly as long as it was meant to. -/
structure Clock.Exact (clock : Clock σ ℚ) : Prop where
  pauses : ∀ length state, 0 < length → ∃ after,
    (clock.pause length).perform state = (.ok (), after) ∧
      clock.now after = clock.now state + length

/-- A check that was made: the state in which it began, how it ended, and the state behind it. -/
structure Check (σ : Type) where
  before : σ
  outcome : Except Failure Bool
  after : σ

variable {clock : Clock σ ℚ} {check : Act σ Bool} {timeout deadline interval : ℚ}
  {expired : Failure} {start after : σ} {result : Except Failure Waited}
  {earlier : List (Check σ)} {last : Check σ}

/-- What the last check of a wait says about its end. -/
inductive Concludes (clock : Clock σ ℚ) (deadline : ℚ) (expired : Failure) (last : Check σ) :
    Except Failure Waited → Prop where
  | satisfied (holds : last.outcome = .ok true) :
      Concludes clock deadline expired last (.ok .satisfied)
  /-- The failure of a check is the failure of the wait. -/
  | failed {failure : Failure} (fails : last.outcome = .error failure) :
      Concludes clock deadline expired last (.error failure)
  /-- The time is over behind the last check; it was not over when that check began. -/
  | expired (unmet : last.outcome = .ok false) (past : deadline ≤ clock.now last.after)
      (late : clock.now last.after - deadline ≤ clock.now last.after - clock.now last.before) :
      Concludes clock deadline expired last (.error expired)

theorem Concludes.finished (concludes : Concludes clock deadline expired last result) :
    result ≠ .ok .unfinished := by
  cases concludes <;> exact nofun

/-- Two checks with one pause between them, which is no longer than an interval. -/
def Paced (clock : Clock σ ℚ) (interval : ℚ) (one next : Check σ) : Prop :=
  ∃ length, 0 < length ∧ length ≤ interval ∧
    (clock.pause length).perform one.after = (.ok (), next.before)

/-- The checks of a wait: all but the last did not hold, and the last one decides. -/
structure Transcript (clock : Clock σ ℚ) (check : Act σ Bool) (deadline interval : ℚ)
    (expired : Failure) (start : σ) (earlier : List (Check σ)) (last : Check σ)
    (result : Except Failure Waited) (after : σ) : Prop where
  begins : ((earlier ++ [last]).head?.map Check.before) = some start
  made : ∀ one ∈ earlier ++ [last], check.perform one.before = (one.outcome, one.after)
  paced : (earlier ++ [last]).IsChain (Paced clock interval)
  unmet : ∀ one ∈ earlier, one.outcome = .ok false
  concludes : Concludes clock deadline expired last result
  ends : last.after = after

/-- A wait that ends with its first check. -/
theorem Transcript.single {outcome : Except Failure Bool}
    (made : check.perform start = (outcome, after))
    (concludes : Concludes clock deadline expired ⟨start, outcome, after⟩ result) :
    Transcript clock check deadline interval expired start [] ⟨start, outcome, after⟩ result
      after where
  begins := rfl
  made := by simpa using made
  paced := by simp
  unmet := by simp
  concludes := concludes
  ends := rfl

/-- A wait that goes on behind a first check that did not hold. -/
theorem Transcript.again {middle resumed : σ} {length : ℚ}
    (unmet : check.perform start = (.ok false, middle)) (positive : 0 < length)
    (atMost : length ≤ interval) (paused : (clock.pause length).perform middle = (.ok (), resumed))
    (rest : Transcript clock check deadline interval expired resumed earlier last result after) :
    Transcript clock check deadline interval expired start (⟨start, .ok false, middle⟩ :: earlier)
      last result after where
  begins := rfl
  made := by simpa using ⟨unmet, fun one member => rest.made one (by simpa using member)⟩
  paced := by
    refine rest.paced.cons fun next first => ?_
    have same : next.before = resumed := by
      have begins := rest.begins
      rw [first] at begins
      exact Option.some.inj begins
    exact ⟨length, positive, atMost, same ▸ paused⟩
  unmet := by simpa using rest.unmet
  concludes := rest.concludes
  ends := rest.ends

/-- A pause takes some time, an interval at most, and no more than is left. -/
theorem pauseLength_bounds {remaining : ℚ} (positive : 0 < interval) (left : 0 < remaining) :
    0 < pauseLength interval remaining ∧ pauseLength interval remaining ≤ interval ∧
      pauseLength interval remaining ≤ remaining := by
  unfold pauseLength
  split
  next less => exact ⟨left, less.le, le_rfl⟩
  next atLeast => exact ⟨positive, le_rfl, not_lt.1 atLeast⟩

/-- On an exact clock that pause ends by the deadline. -/
theorem waitUntil_round (exact : clock.Exact) (positive : 0 < interval) {checks : Nat}
    (inTime : clock.now start ≤ deadline)
    (ran : (waitUntil clock check deadline interval expired (checks + 1)).perform start =
      (result, after)) :
    (∃ outcome, check.perform start = (outcome, after) ∧
      Concludes clock deadline expired ⟨start, outcome, after⟩ result) ∨
    ∃ middle length resumed, check.perform start = (.ok false, middle) ∧
      length = pauseLength interval (deadline - clock.now middle) ∧ 0 < length ∧
      length ≤ interval ∧ (clock.pause length).perform middle = (.ok (), resumed) ∧
      clock.now resumed = clock.now middle + length ∧ clock.now resumed ≤ deadline ∧
      (waitUntil clock check deadline interval expired checks).perform resumed =
        (result, after) := by
  rw [perform_waitUntil_succ] at ran
  rcases made : check.perform start with ⟨failure | _ | _, middle⟩ <;> rw [made] at ran
  · cases ran
    exact .inl ⟨_, rfl, .failed rfl⟩
  · simp only at ran
    by_cases past : deadline - clock.now middle ≤ 0
    · rw [if_pos past] at ran
      cases ran
      exact .inl ⟨_, rfl, .expired rfl (sub_nonpos.1 past) (sub_le_sub_left inTime _)⟩
    · rw [if_neg past] at ran
      obtain ⟨longEnough, atMost, untilThen⟩ := pauseLength_bounds positive (not_le.1 past)
      obtain ⟨resumed, paused, now⟩ := exact.pauses _ middle longEnough
      rw [paused] at ran
      exact .inr ⟨middle, _, resumed, rfl, rfl, longEnough, atMost, paused, now, by linarith, ran⟩
  · cases ran
    exact .inl ⟨_, rfl, .satisfied rfl⟩

/-- A wait that comes to an end leaves a transcript, by induction on the checks it is granted. That
no check begins behind the deadline is what every pause preserves. -/
theorem waitUntil_transcript (exact : clock.Exact) (positive : 0 < interval) {checks : Nat}
    (inTime : clock.now start ≤ deadline)
    (ran : (waitUntil clock check deadline interval expired checks).perform start =
      (result, after)) (finished : result ≠ .ok .unfinished) :
    ∃ earlier last,
      Transcript clock check deadline interval expired start earlier last result after := by
  induction checks generalizing start with
  | zero =>
    cases ran
    exact absurd rfl finished
  | succ checks inductionHypothesis =>
    obtain ⟨outcome, made, concludes⟩ | ⟨middle, length, resumed, made, -, longEnough, atMost,
      paused, -, inTimeStill, others⟩ := waitUntil_round exact positive inTime ran
    · exact ⟨[], _, .single made concludes⟩
    · obtain ⟨earlier, last, rest⟩ := inductionHypothesis inTimeStill others
      exact ⟨_, last, .again made longEnough atMost paused rest⟩

/-- A pause takes up a whole interval, or all the time that is left. So the checks of a wait are at
most one more than the intervals in its time, provided no check turns the clock back. -/
theorem waitUntil_ends (exact : clock.Exact) (positive : 0 < interval)
    (forward : ∀ state, clock.now state ≤ clock.now (check.perform state).2) {checks : Nat}
    (inTime : clock.now start ≤ deadline) (enough : deadline - clock.now start ≤ checks * interval)
    (ran : (waitUntil clock check deadline interval expired (checks + 1)).perform start =
      (result, after)) : result ≠ .ok .unfinished := by
  induction checks generalizing start with
  | zero =>
    obtain ⟨outcome, -, concludes⟩ | ⟨middle, length, resumed, made, -, longEnough, -, -, now,
      inTimeStill, -⟩ := waitUntil_round exact positive inTime ran
    · exact concludes.finished
    · have later := forward start
      rw [made] at later
      simp only [Nat.cast_zero, zero_mul] at enough
      linarith
  | succ checks inductionHypothesis =>
    obtain ⟨outcome, -, concludes⟩ | ⟨middle, length, resumed, made, same, -, -, -, now,
      inTimeStill, others⟩ := waitUntil_round exact positive inTime ran
    · exact concludes.finished
    · refine inductionHypothesis inTimeStill ?_ others
      have later := forward start
      rw [made] at later
      have intervals : 0 ≤ checks * interval := by positivity
      push_cast at enough
      rw [now, same, pauseLength]
      split <;> linarith

/-- A condition that holds from some time on, as far as a row of checks saw it: each of the checks
that ended at that time or later, and answered, found it to hold. -/
def HoldsFrom (clock : Clock σ ℚ) (since : ℚ) (checks : List (Check σ)) : Prop :=
  ∀ one ∈ checks, since ≤ clock.now one.after → one.outcome ≠ .ok false

/-- Whatever a condition is, and however long its checks take: a wait is a row of checks with one
pause of at most an interval between any two, all of them unmet but for the last. It ends well if
the last check holds, with the failure of the last check if that failed, and it expires if the last
check is unmet and ends at the deadline or later, by no more than it took itself. So it does not
expire over a condition that holds from the deadline on, or from earlier, unless its last check
raised just that failure. -/
theorem waitWithin_deadline (clock : Clock σ ℚ) (exact : clock.Exact) (check : Act σ Bool)
    (forward : ∀ state, clock.now state ≤ clock.now (check.perform state).2)
    (timeout interval : ℚ) (notNegative : 0 ≤ timeout) (positive : 0 < interval)
    (expired : Failure) (checks : Nat) (enough : timeout ≤ checks * interval)
    (start after : σ) (result : Except Failure Waited)
    (ran : (waitWithin clock check timeout interval expired (checks + 1)).perform start =
      (result, after)) :
    ∃ earlier last,
      Transcript clock check (clock.now start + timeout) interval expired start earlier last result
        after ∧
      ∀ since ≤ clock.now start + timeout, HoldsFrom clock since (earlier ++ [last]) →
        result = .error expired → last.outcome = .error expired := by
  have inTime : clock.now start ≤ clock.now start + timeout := le_add_of_nonneg_right notNegative
  rw [perform_waitWithin] at ran
  have finished : result ≠ .ok .unfinished :=
    waitUntil_ends exact positive forward inTime (by simpa using enough) ran
  obtain ⟨earlier, last, transcript⟩ := waitUntil_transcript exact positive inTime ran finished
  refine ⟨earlier, last, transcript, ?_⟩
  rintro since early holds rfl
  cases transcript.concludes with
  | failed fails => exact fails
  | expired unmet past late => exact absurd unmet (holds last (by simp) (early.trans past))

/-- A state that is nothing but the time. -/
def timeAlone : Clock ℚ ℚ where
  now := id
  pause length := modify (· + length)

/-- A check that takes a quarter of a second and asks whether it is two seconds past zero. -/
def pastTwo : Act ℚ Bool := do
  modify (· + 1 / 4)
  return decide (2 ≤ (← get))

/-- A wait of one second for what takes two: its third check begins at the deadline, so that the wait
is late by a quarter of a second. -/
theorem waitWithin_deadline_pastTwo :
    (waitWithin timeAlone pastTwo 1 (2 / 5) (.plain (.waitExpired 1 "two seconds")) 4).perform 0 =
      (.error (.plain (.waitExpired 1 "two seconds")), 5 / 4) ∧
    ∃ earlier last, Transcript timeAlone pastTwo (0 + 1) (2 / 5)
      (.plain (.waitExpired 1 "two seconds")) 0 earlier last
      (.error (.plain (.waitExpired 1 "two seconds"))) (5 / 4) := by
  have exact : timeAlone.Exact := ⟨fun length time _ => ⟨time + length, rfl, rfl⟩⟩
  have forward (time : ℚ) : time ≤ (pastTwo.perform time).2 := by
    show time ≤ time + 1 / 4
    linarith
  have ran : (waitWithin timeAlone pastTwo 1 (2 / 5) (.plain (.waitExpired 1 "two seconds"))
      4).perform 0 = (.error (.plain (.waitExpired 1 "two seconds")), 5 / 4) := by decide +kernel
  obtain ⟨earlier, last, transcript, -⟩ := waitWithin_deadline timeAlone exact pastTwo forward 1
    (2 / 5) (by decide +kernel) (by decide +kernel) _ 3 (by norm_num) 0 (5 / 4) _ ran
  exact ⟨ran, earlier, last, transcript⟩

end ThreadHost.Waiting
