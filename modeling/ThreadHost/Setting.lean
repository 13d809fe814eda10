import ThreadHost.Datum.Shown
import ThreadHost.Seconds
/-!
# Settings that may hold anything

A setting has a kind, and a checked setting holds a value of it. An assignment is not checked, so
that a setting may hold any other datum as well; it is kept as it is and shows its kind where it is
used.
-/

namespace ThreadHost

/-- The kinds of values that settings hold, each a part of all data. -/
class Settable (α : Type) where
  ofDatum? : Datum → Option α
  toDatum : α → Datum

instance : Settable String where
  ofDatum? | .text value => some value | _ => none
  toDatum := .text

instance : Settable Int where
  ofDatum? | .whole value => some value | _ => none
  toDatum := .whole

instance : Settable Seconds where
  ofDatum? | .whole count => some (.whole count) | .real value => some (.real value) | _ => none
  toDatum | .whole count => .whole count | .real value => .real value

/-- A setting: a value of its kind, or whatever else was put there. -/
inductive Setting (α : Type) where
  | proper (value : α)
  | stray (datum : Datum)
  deriving Repr, DecidableEq

/-- The number of a datum, if it stands for one: a truth value stands for one or zero. -/
def Datum.number? : Datum → Option Seconds
  | .truth value => some (.whole (if value then 1 else 0))
  | .whole value => some (.whole value)
  | .real value => some (.real value)
  | _ => none

/-- Whether two data count as the same: numbers by their value, all else part by part. -/
def Datum.agrees (left right : Datum) : Bool :=
  match left.number?, right.number? with
  | some left, some right => left.agrees right
  | none, none => left = right
  | _, _ => false

namespace Setting

variable {α : Type} [Settable α]

/-- The setting that holds a datum. -/
def ofDatum (datum : Datum) : Setting α :=
  match Settable.ofDatum? datum with
  | some value => .proper value
  | none => .stray datum

/-- What a setting holds, whatever it is. -/
def datum : Setting α → Datum
  | .proper value => Settable.toDatum value
  | .stray datum => datum

/-- The text that shows what a setting holds. -/
def shown (setting : Setting α) : String := setting.datum.shown

/-- Whether there is such a text. -/
def isShowable (setting : Setting α) : Bool := setting.datum.isShowable

/-- The value of a setting, or a fault that depends on what is there instead. -/
def require {ε : Type} (fault : Datum → ε) : Setting α → Except ε α
  | .proper value => .ok value
  | .stray datum => .error (fault datum)

end Setting

end ThreadHost
