import Mathlib.Data.Rat.Floor
import ThreadHost.Proofs.Waiting.Deadline
/-!
# How often a wait checks

A wait whose checks and pauses are counted (`Tally`) is the same wait (`waitUntil_tallied`). While a
check leaves some time, the pause behind it takes up a whole interval or all of that time, so the
time that is left bounds the number of checks (`waitUntil_bounded`), and so does the timeout of the
whole wait (`waitWithin_bounded`).
-/

namespace ThreadHost.Waiting

variable {σ : Type}

/-- A clock on which a pause takes at least as long as it was meant to. -/
structure Clock.Lasts (clock : Clock σ ℚ) : Prop where
  pauses : ∀ length state, 0 < length → ∃ after,
    (clock.pause length).perform state = (.ok (), after) ∧
      clock.now state + length ≤ clock.now after

/-- Where pauses take exactly as long as they were meant to, they take that long at least. -/
theorem Clock.Exact.lasts {clock : Clock σ ℚ} (exact : clock.Exact) : clock.Lasts where
  pauses length state positive := by
    obtain ⟨after, paused, now⟩ := exact.pauses length state positive
    exact ⟨after, paused, now.ge⟩

/-- A state with the number of checks that were begun in it and the pauses that were asked for. -/
structure Tally (σ : Type) where
  state : σ
  checks : Nat := 0
  pauses : List ℚ := []
  deriving DecidableEq

namespace Tally

/-- Another state, with the same counts. -/
def withState (tally : Tally σ) (state : σ) : Tally σ := { tally with state }

/-- One check more. -/
def checked (tally : Tally σ) : Tally σ := { tally with checks := tally.checks + 1 }

/-- One pause more. -/
def paused (tally : Tally σ) (length : ℚ) : Tally σ :=
  { tally with pauses := tally.pauses ++ [length] }

/-- An act on the state alone. -/
def onState {α : Type} (act : Act σ α) : Act (Tally σ) α :=
  Act.onPart Tally.state (fun state tally => tally.withState state) act

end Tally

/-- A check that is counted. -/
def tallied (check : Act σ Bool) : Act (Tally σ) Bool := do
  modify Tally.checked
  Tally.onState check

/-- A clock that keeps the pauses that are asked for. -/
def Clock.tallied (clock : Clock σ ℚ) : Clock (Tally σ) ℚ where
  now tally := clock.now tally.state
  pause length := do
    modify (Tally.paused · length)
    Tally.onState (clock.pause length)

variable {clock : Clock σ ℚ} {check : Act σ Bool} {deadline interval : ℚ} {expired : Failure}

@[simp] theorem perform_tallied (check : Act σ Bool) (tally : Tally σ) :
    (tallied check).perform tally =
      ((check.perform tally.state).1, tally.checked.withState (check.perform tally.state).2) := rfl

@[simp] theorem Clock.tallied_now (clock : Clock σ ℚ) (tally : Tally σ) :
    clock.tallied.now tally = clock.now tally.state := rfl

@[simp] theorem Clock.perform_tallied_pause (clock : Clock σ ℚ) (length : ℚ) (tally : Tally σ) :
    (clock.tallied.pause length).perform tally =
      (((clock.pause length).perform tally.state).1,
        (tally.paused length).withState ((clock.pause length).perform tally.state).2) := rfl

/-- Counting changes nothing of a wait, by induction on the checks that it is granted. -/
theorem waitUntil_tallied (clock : Clock σ ℚ) (check : Act σ Bool) (deadline interval : ℚ)
    (expired : Failure) (granted : Nat) (tally : Tally σ) :
    let counted := (waitUntil clock.tallied (tallied check) deadline interval expired
      granted).perform tally
    (waitUntil clock check deadline interval expired granted).perform tally.state =
      (counted.1, counted.2.state) := by
  induction granted generalizing tally with
  | zero => rfl
  | succ granted inductionHypothesis =>
    simp only [perform_waitUntil_succ, perform_tallied]
    rcases check.perform tally.state with ⟨failure | _ | _, middle⟩
    · rfl
    · simp only [Clock.tallied_now, Clock.perform_tallied_pause, Tally.withState]
      by_cases past : deadline - clock.now middle ≤ 0
      · simp only [past, if_true]
      · simp only [past, if_false]
        rcases (clock.pause (pauseLength interval (deadline - clock.now middle))).perform middle
          with ⟨failure | _, resumed⟩
        · rfl
        · exact inductionHypothesis (((tally.checked.withState middle).paused _).withState resumed)
    · rfl

/-- How a wait ends: the condition held, or a check failed, or the time is over. -/
inductive Ended (check : Act σ Bool) (expired : Failure) : Except Failure Waited → Prop where
  | satisfied : Ended check expired (.ok .satisfied)
  /-- The failure of a check is the failure of the wait. -/
  | failed {failure : Failure} {state : σ} (fails : (check.perform state).1 = .error failure) :
      Ended check expired (.error failure)
  | expired : Ended check expired (.error expired)

/-- A wait that ends, whatever number of checks it is granted from some number on, has made at most
that number of checks and at least one, with one pause between any two of them. -/
structure Bounded (clock : Clock σ ℚ) (check : Act σ Bool) (deadline interval : ℚ)
    (expired : Failure) (most : Nat) (start : Tally σ) (result : Except Failure Waited)
    (after : Tally σ) : Prop where
  runs : ∀ granted, most ≤ granted →
    (waitUntil clock.tallied (tallied check) deadline interval expired granted).perform start =
      (result, after)
  ended : Ended check expired result
  least : start.checks + 1 ≤ after.checks
  most : after.checks ≤ start.checks + most
  pauses : ∃ more, after.pauses = start.pauses ++ more ∧
    after.checks = start.checks + more.length + 1 ∧ ∀ length ∈ more, 0 < length ∧ length ≤ interval

/-- A wait that ends with its first check. -/
theorem Bounded.single {start after : Tally σ} {result : Except Failure Waited}
    (runs : ∀ granted, (waitUntil clock.tallied (tallied check) deadline interval expired
      (granted + 1)).perform start = (result, after))
    (ended : Ended check expired result) (once : after.checks = start.checks + 1)
    (same : after.pauses = start.pauses) (intervals : Nat) :
    Bounded clock check deadline interval expired (intervals + 1) start result after where
  runs granted enough := by
    obtain ⟨fewer, rfl⟩ := Nat.exists_eq_add_of_le' (Nat.le_of_add_left_le enough)
    exact runs fewer
  ended := ended
  least := once.ge
  most := by omega
  pauses := ⟨[], by simpa using same, once, by simp⟩

/-- A wait that goes on behind its first check. -/
theorem Bounded.again {start resumed after : Tally σ} {result : Except Failure Waited}
    {length : ℚ} {most : Nat}
    (goesOn : ∀ granted, (waitUntil clock.tallied (tallied check) deadline interval expired
      (granted + 1)).perform start =
        (waitUntil clock.tallied (tallied check) deadline interval expired granted).perform resumed)
    (once : resumed.checks = start.checks + 1) (asked : resumed.pauses = start.pauses ++ [length])
    (longEnough : 0 < length) (atMost : length ≤ interval)
    (rest : Bounded clock check deadline interval expired most resumed result after) :
    Bounded clock check deadline interval expired (most + 1) start result after where
  runs granted enough := by
    obtain ⟨fewer, rfl⟩ := Nat.exists_eq_add_of_le' (Nat.le_of_add_left_le enough)
    exact (goesOn fewer).trans (rest.runs fewer (Nat.le_of_add_le_add_right enough))
  ended := rest.ended
  least := by
    have least := rest.least
    omega
  most := by
    have most := rest.most
    omega
  pauses := by
    obtain ⟨more, same, count, lengths⟩ := rest.pauses
    refine ⟨length :: more, by simp [same, asked], by simp only [List.length_cons]; omega, ?_⟩
    exact List.forall_mem_cons.2 ⟨⟨longEnough, atMost⟩, lengths⟩

/-- A check ends the wait, or it leaves some time, and the pause behind it takes up a whole interval
or all of that time. -/
theorem tallied_round (lasts : clock.Lasts) (positive : 0 < interval)
    (forward : ∀ state, clock.now state ≤ clock.now (check.perform state).2)
    (deadline : ℚ) (expired : Failure) (start : Tally σ) :
    (∃ result after, (∀ granted, (waitUntil clock.tallied (tallied check) deadline interval expired
        (granted + 1)).perform start = (result, after)) ∧
      Ended check expired result ∧ after.checks = start.checks + 1 ∧
      after.pauses = start.pauses) ∨
    ∃ length resumed, (∀ granted, (waitUntil clock.tallied (tallied check) deadline interval expired
        (granted + 1)).perform start =
          (waitUntil clock.tallied (tallied check) deadline interval expired
            granted).perform resumed) ∧
      resumed.checks = start.checks + 1 ∧ resumed.pauses = start.pauses ++ [length] ∧
      0 < length ∧ length ≤ interval ∧ clock.now start.state < deadline ∧
      (deadline ≤ clock.now resumed.state ∨
        clock.now start.state + interval ≤ clock.now resumed.state) := by
  have later := forward start.state
  have round (granted : Nat) := perform_waitUntil_succ clock.tallied (tallied check) deadline
    interval expired granted start
  rcases made : check.perform start.state with ⟨failure | _ | _, middle⟩
  · simp only [perform_tallied, made] at round
    exact .inl ⟨_, _, round, .failed (congrArg Prod.fst made), rfl, rfl⟩
  · rw [made] at later
    simp only [perform_tallied, made, Clock.tallied_now, Clock.perform_tallied_pause,
      Tally.withState] at round
    by_cases past : deadline - clock.now middle ≤ 0
    · simp only [past, if_true] at round
      exact .inl ⟨_, _, round, .expired, rfl, rfl⟩
    · obtain ⟨longEnough, atMost, -⟩ := pauseLength_bounds positive (not_le.1 past)
      obtain ⟨resumed, paused, now⟩ := lasts.pauses _ middle longEnough
      simp only [past, if_false, paused] at round
      refine .inr ⟨_, _, round, rfl, rfl, longEnough, atMost, by linarith, ?_⟩
      simp only
      unfold pauseLength at now
      split at now
      · exact .inl (by linarith)
      · exact .inr (by linarith)
  · simp only [perform_tallied, made] at round
    exact .inl ⟨_, _, round, .satisfied, rfl, rfl⟩

/-- So a wait checks at most once more than there are intervals in its time, by induction on
these. -/
theorem waitUntil_bounded (lasts : clock.Lasts) (positive : 0 < interval)
    (forward : ∀ state, clock.now state ≤ clock.now (check.perform state).2)
    (expired : Failure) {intervals : Nat} {start : Tally σ}
    (enough : deadline - clock.now start.state ≤ intervals * interval) :
    ∃ result after,
      Bounded clock check deadline interval expired (intervals + 1) start result after := by
  induction intervals generalizing start with
  | zero =>
    obtain ⟨result, after, runs, ended, once, same⟩ | ⟨length, resumed, -, -, -, -, -, inTime, -⟩ :=
      tallied_round lasts positive forward deadline expired start
    · exact ⟨result, after, .single runs ended once same 0⟩
    · simp only [Nat.cast_zero, zero_mul] at enough
      linarith
  | succ intervals inductionHypothesis =>
    obtain ⟨result, after, runs, ended, once, same⟩ | ⟨length, resumed, goesOn, once, asked,
      longEnough, atMost, inTime, now⟩ :=
      tallied_round lasts positive forward deadline expired start
    · exact ⟨result, after, .single runs ended once same _⟩
    · have left : deadline - clock.now resumed.state ≤ intervals * interval := by
        have notNegative : 0 ≤ intervals * interval := by positivity
        push_cast at enough
        rcases now with past | moved
        · linarith
        · linarith
      obtain ⟨result, after, rest⟩ := inductionHypothesis left
      exact ⟨result, after, rest.again goesOn once asked longEnough atMost⟩

/-- The checks that a wait may take: one more than the intervals that its time has begun. -/
def mostChecks (timeout interval : ℚ) : Nat := ⌈max timeout 0 / interval⌉₊ + 1

/-- Whatever a condition is, and however long its checks and its pauses take: a wait ends, with the
condition, or with the failure of a check, or over the timeout, and nothing depends on the number of
checks that it is granted. It checks at least once, also when there is no time at all, and at most
once more than intervals are begun in its time; and it asks for one pause between any two checks, of
some time, and of an interval at most. -/
theorem waitWithin_bounded (clock : Clock σ ℚ) (lasts : clock.Lasts) (check : Act σ Bool)
    (forward : ∀ state, clock.now state ≤ clock.now (check.perform state).2)
    (timeout interval : ℚ) (positive : 0 < interval) (expired : Failure) (start : σ) :
    ∃ result after,
      (∀ granted, mostChecks timeout interval ≤ granted →
        (waitWithin clock.tallied (tallied check) timeout interval expired granted).perform
          { state := start } = (result, after) ∧
        (waitWithin clock check timeout interval expired granted).perform start =
          (result, after.state)) ∧
      Ended check expired result ∧
      1 ≤ after.checks ∧ after.checks ≤ mostChecks timeout interval ∧
      after.checks = after.pauses.length + 1 ∧
      ∀ length ∈ after.pauses, 0 < length ∧ length ≤ interval := by
  let untouched : Tally σ := { state := start }
  have enough : clock.now start + timeout - clock.now untouched.state ≤
      (⌈max timeout 0 / interval⌉₊ : ℚ) * interval := by
    have whole := (div_le_iff₀ positive).1 (Nat.le_ceil (max timeout 0 / interval))
    have atLeast := le_max_left timeout 0
    have same : clock.now untouched.state = clock.now start := rfl
    linarith
  obtain ⟨result, after, bounded⟩ := waitUntil_bounded lasts positive forward expired enough
  obtain ⟨more, same, count, lengths⟩ := bounded.pauses
  obtain rfl : more = after.pauses := same.symm
  refine ⟨result, after, fun granted granting => ?_, bounded.ended, ?_, ?_, ?_, lengths⟩
  · have runs := bounded.runs granted granting
    have plain := waitUntil_tallied clock check (clock.now start + timeout) interval expired granted
      untouched
    simp only [runs] at plain
    rw [perform_waitWithin, perform_waitWithin]
    exact ⟨runs, plain⟩
  · simpa [untouched] using bounded.least
  · simpa [untouched, mostChecks] using bounded.most
  · simpa [untouched] using count

/-- A wait of one second for what takes two makes three checks, and a wait of less than no time for
it makes one. -/
theorem waitWithin_bounded_pastTwo :
    let expired := Failure.plain (.waitExpired 1 "two seconds")
    timeAlone.Lasts ∧ (∀ time, timeAlone.now time ≤ timeAlone.now (pastTwo.perform time).2) ∧
      (0 : ℚ) < 2 / 5 ∧ mostChecks 1 (2 / 5) = 4 ∧ mostChecks (-1) (2 / 5) = 1 ∧
      (waitWithin timeAlone.tallied (tallied pastTwo) 1 (2 / 5) expired 4).perform { state := 0 } =
        (.error expired, { state := 5 / 4, checks := 3, pauses := [2 / 5, 1 / 10] }) ∧
      ∃ result after,
        (waitWithin timeAlone.tallied (tallied pastTwo) (-1) (2 / 5) expired 1).perform
          { state := 0 } = (result, after) ∧ after.checks = 1 ∧ after.pauses = [] := by
  intro expired
  have exact : timeAlone.Exact := ⟨fun length time _ => ⟨time + length, rfl, rfl⟩⟩
  have forward (time : ℚ) : timeAlone.now time ≤ timeAlone.now (pastTwo.perform time).2 := by
    show time ≤ time + 1 / 4
    linarith
  have positive : (0 : ℚ) < 2 / 5 := by norm_num
  have whole : ⌈max (1 : ℚ) 0 / (2 / 5)⌉₊ = 3 := (Nat.ceil_eq_iff (by decide)).2 (by norm_num)
  have four : mostChecks 1 (2 / 5) = 4 := congrArg (· + 1) whole
  have one : mostChecks (-1) (2 / 5) = 1 := by norm_num [mostChecks]
  obtain ⟨result, after, runs, -, least, most, count, -⟩ :=
    waitWithin_bounded timeAlone exact.lasts pastTwo forward (-1) (2 / 5) positive expired 0
  have once : after.checks = 1 := by omega
  refine ⟨exact.lasts, forward, positive, four, one, by decide +kernel, result, after,
    (runs 1 one.le).1, once, ?_⟩
  rw [← List.length_eq_zero_iff]
  omega

end ThreadHost.Waiting
