/-!
# Cutting text at a separator

The pieces between the separators, empty ones included: one more piece than there are separators.
-/

namespace ThreadHost.Text

/-- The pieces of a sequence between the occurrences of a separator. -/
def pieces {α : Type} [DecidableEq α] (separator : α) : List α → List (List α)
  | [] => [[]]
  | x :: rest =>
    if x = separator then [] :: pieces separator rest
    else match pieces separator rest with
      | [] => [[x]]
      | piece :: others => (x :: piece) :: others

/-- The part before the first separator and the part behind it, if there is a separator. -/
def partition {α : Type} [DecidableEq α] (separator : α) (items : List α) :
    List α × Option (List α) :=
  (items.takeWhile (· ≠ separator), (items.dropWhile (· ≠ separator)).tail?)

end ThreadHost.Text
