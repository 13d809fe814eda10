import ThreadHost.Datum
import ThreadHost.Decimal.Shortest
import ThreadHost.Text.Quoted
import ThreadHost.Text.WholeNumber
/-!
# Data as text

How a datum is shown inside a message. A text by itself is shown as it is; inside a list or a table
it is quoted. A whole number of too many digits cannot be shown, nor can a datum that holds one.
-/

namespace ThreadHost.Datum

mutual

/-- A datum as part of another one. -/
def quoted : Datum → String
  | .nothing => "None"
  | .truth value => if value then "True" else "False"
  | .whole value => toString value
  | .real value => Decimal.text value
  | .text value => Text.Quoted.quote value
  | .moment => "datetime"
  | .list items => "[" ++ ", ".intercalate (quotedItems items) ++ "]"
  | .table entries => "\x7b" ++ ", ".intercalate (quotedEntries entries) ++ "\x7d"

/-- The items of a list. -/
def quotedItems : List Datum → List String
  | [] => []
  | item :: rest => quoted item :: quotedItems rest

/-- The entries of a table. -/
def quotedEntries : List (String × Datum) → List String
  | [] => []
  | (name, value) :: rest =>
    (Text.Quoted.quote name ++ ": " ++ quoted value) :: quotedEntries rest

end

/-- A datum by itself. -/
def shown : Datum → String
  | .text value => value
  | datum => datum.quoted

mutual

/-- Whether a datum can be shown. -/
def isShowable : Datum → Bool
  | .whole value => value.natAbs < Nat.pow 10 Text.WholeNumber.mostDigits
  | .list items => itemsShowable items
  | .table entries => entriesShowable entries
  | _ => true

/-- Whether all items of a list can be shown. -/
def itemsShowable : List Datum → Bool
  | [] => true
  | item :: rest => isShowable item && itemsShowable rest

/-- Whether all entries of a table can be shown. -/
def entriesShowable : List (String × Datum) → Bool
  | [] => true
  | (_, value) :: rest => isShowable value && entriesShowable rest

end

/-- A whole number can be shown that has no more digits than are written. -/
theorem isShowable_whole_iff {value : Int} :
    (Datum.whole value).isShowable = true ↔
      value.natAbs < Nat.pow 10 Text.WholeNumber.mostDigits := by
  rw [isShowable, decide_eq_true_iff]

end ThreadHost.Datum
