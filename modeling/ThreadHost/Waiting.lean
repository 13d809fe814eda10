import ThreadHost.Host
/-!
# Waiting for a condition

A condition is checked until it holds or the deadline has passed; between two checks there is one
pause, of one interval or of the time that is left. Time may be any type with these operations, so
that the rule can be stated for exact time as well.
-/

namespace ThreadHost.Waiting

/-- How a wait without failure ends: the condition came true, or the number of checks granted was
used up. -/
inductive Waited where
  | satisfied
  | unfinished
  deriving Repr, DecidableEq

variable {σ τ : Type} [Sub τ] [OfNat τ 0] [LE τ] [LT τ] [DecidableLE τ] [DecidableLT τ]

/-- The interval, or what is left of the time when that is less. -/
def pauseLength (interval remaining : τ) : τ := if remaining < interval then remaining else interval

/-- How a state tells the time and how to pause in it. -/
structure Clock (σ τ : Type) where
  now : σ → τ
  pause : τ → Act σ Unit

/-- The same clock, on which no pause can be made. -/
def Clock.stuck (clock : Clock σ τ) (fault : Fault) : Clock σ τ :=
  { clock with pause := fun _ => Act.refuse fault }

/-- Check a condition at most a given number of times, failing as told once the deadline has
passed. -/
def waitUntil (clock : Clock σ τ) (check : Act σ Bool) (deadline interval : τ)
    (expired : Failure) : Nat → Act σ Waited
  | 0 => pure .unfinished
  | checks + 1 => do
    if ← check then pure .satisfied
    else
      let remaining := deadline - clock.now (← get)
      if remaining ≤ 0 then throw expired
      else
        clock.pause (pauseLength interval remaining)
        waitUntil clock check deadline interval expired checks

/-- Wait from now on, for a time in seconds. -/
def waitFor (clock : Clock σ Float) (check : Act σ Bool) (timeout interval : Float)
    (description : String) (checks : Nat) : Act σ Waited := do
  let deadline := clock.now (← get) + timeout
  waitUntil clock check deadline interval (.plain (.waitExpired timeout description)) checks

/-- The interval between two checks, unless told otherwise. -/
def defaultInterval : Float := 0.05

end ThreadHost.Waiting
