/-!
# Data without fixed types

What a settings file or a caller may give for a setting, before it is checked. Equality of data is
decidable; it takes the parts one by one.
-/

namespace ThreadHost

/-- A piece of data without a fixed type. -/
inductive Datum where
  | nothing
  | truth (value : Bool)
  | whole (value : Int)
  | real (value : Float)
  | text (value : String)
  /-- A date, a time of day, or both; no setting takes one. -/
  | moment
  | list (items : List Datum)
  | table (entries : List (String × Datum))
  deriving Inhabited, Repr

namespace Datum

/-- The kinds of data. -/
inductive Kind where
  | nothing
  | truth
  | whole
  | real
  | text
  | moment
  | list
  | table
  deriving Repr, DecidableEq

/-- The name of a kind in messages. -/
def Kind.name : Kind → String
  | .nothing => "NoneType"
  | .truth => "bool"
  | .whole => "int"
  | .real => "float"
  | .text => "str"
  | .moment => "datetime"
  | .list => "list"
  | .table => "dict"

/-- The kind of a datum. -/
def kind : Datum → Kind
  | .nothing => .nothing
  | .truth _ => .truth
  | .whole _ => .whole
  | .real _ => .real
  | .text _ => .text
  | .moment => .moment
  | .list _ => .list
  | .table _ => .table

/-- Whether a datum counts as true: anything but nothing, zero, and what is empty. -/
def isTrue : Datum → Bool
  | .nothing => false
  | .truth value => value
  | .whole value => value ≠ 0
  | .real value => value != 0
  | .text value => value ≠ ""
  | .moment => true
  | .list items => !items.isEmpty
  | .table entries => !entries.isEmpty

/-! ## Equality -/

mutual

/-- Whether two data are the same, part by part. -/
def same : Datum → Datum → Bool
  | .nothing, .nothing | .moment, .moment => true
  | .truth left, .truth right => decide (left = right)
  | .whole left, .whole right => decide (left = right)
  | .real left, .real right => decide (left = right)
  | .text left, .text right => decide (left = right)
  | .list left, .list right => sameItems left right
  | .table left, .table right => sameEntries left right
  | _, _ => false

/-- Whether two lists of data are the same. -/
def sameItems : List Datum → List Datum → Bool
  | [], [] => true
  | left :: lefts, right :: rights => same left right && sameItems lefts rights
  | _, _ => false

/-- Whether two tables are the same, their order included. -/
def sameEntries : List (String × Datum) → List (String × Datum) → Bool
  | [], [] => true
  | (name, left) :: lefts, (other, right) :: rights =>
    decide (name = other) && same left right && sameEntries lefts rights
  | _, _ => false

end

mutual

theorem same_iff : ∀ left right : Datum, same left right = true ↔ left = right := by
  intro left right
  cases left <;> cases right <;> simp [same]
  · exact sameItems_iff _ _
  · exact sameEntries_iff _ _

theorem sameItems_iff : ∀ left right : List Datum, sameItems left right = true ↔ left = right
  | [], [] => by simp [sameItems]
  | [], _ :: _ => by simp [sameItems]
  | _ :: _, [] => by simp [sameItems]
  | left :: lefts, right :: rights => by
    simp [sameItems, same_iff left right, sameItems_iff lefts rights]

theorem sameEntries_iff :
    ∀ left right : List (String × Datum), sameEntries left right = true ↔ left = right
  | [], [] => by simp [sameEntries]
  | [], _ :: _ => by simp [sameEntries]
  | _ :: _, [] => by simp [sameEntries]
  | (name, left) :: lefts, (other, right) :: rights => by
    simp [sameEntries, same_iff left right, sameEntries_iff lefts rights, and_assoc]

end

instance : DecidableEq Datum := fun left right =>
  decidable_of_iff (same left right = true) (same_iff left right)

end Datum

/-! ## Tables -/

/-- The entries of a table, in order, each name once. -/
abbrev Table := List (String × Datum)

namespace Table

/-- The value of a name. -/
def get? (table : Table) (name : String) : Option Datum :=
  (table.find? (·.1 = name)).map Prod.snd

/-- Give a name a value: in its place, or at the end. -/
def put (table : Table) (name : String) (value : Datum) : Table :=
  if table.any (·.1 = name) then
    table.map fun entry => if entry.1 = name then (name, value) else entry
  else table ++ [(name, value)]

end Table

end ThreadHost
