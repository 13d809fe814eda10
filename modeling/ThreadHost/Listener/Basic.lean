/-!
# Versioned listeners

A listener hands the events of a source to a callback while it is listening. Each start makes a
receiver with a number of its own, and each stop moves the number on, so that an event which still
reaches an earlier receiver is dropped.
-/

namespace ThreadHost

/-- What a listener attaches to a source: the listener's tag, and the number it was made with. -/
structure Receiver where
  tag : String
  generation : Nat
  deriving Repr, DecidableEq

/-- A listener: its current number, and its receiver while it is listening. -/
structure Listener where
  tag : String
  generation : Nat := 0
  receiver : Option Receiver := none
  deriving Repr, DecidableEq

namespace Listener

/-- Whether the listener is listening. -/
def isListening (listener : Listener) : Bool := listener.receiver.isSome

/-- Make the receiver of a start; nothing when the listener is listening already. -/
def start? (listener : Listener) : Option (Receiver × Listener) :=
  match listener.receiver with
  | some _ => none
  | none =>
    let receiver := ⟨listener.tag, listener.generation + 1⟩
    some (receiver, { listener with
      generation := listener.generation + 1
      receiver := some receiver })

/-- Invalidate the receiver before it is detached; nothing when the listener is idle. -/
def stop? (listener : Listener) : Option (Receiver × Listener) :=
  match listener.receiver with
  | none => none
  | some receiver => some (receiver, { listener with generation := listener.generation + 1 })

/-- Forget the receiver after it was detached. -/
def release (listener : Listener) : Listener := { listener with receiver := none }

/-- Whether an event that reaches a receiver goes on to the callback. -/
def forwards (listener : Listener) (receiver : Receiver) : Bool :=
  receiver.generation = listener.generation

end Listener

end ThreadHost
