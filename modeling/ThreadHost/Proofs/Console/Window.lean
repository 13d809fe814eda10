import ThreadHost.Console.Monitor
/-!
# The window of the monitor

Adding a line to a monitor keeps the last so many of all lines that were ever added, and not only of
those that it still held (`entries_addAll`).
-/

namespace ThreadHost.Console

variable {α β : Type} {count : Int}

/-- What is kept of a list is an ending of it. -/
theorem lastItems_of_pos (positive : 0 < count) (items : List α) :
    lastItems count items = items.drop (items.length - count.toNat) := if_pos positive

/-- Nothing is dropped while there is room. -/
theorem lastItems_of_room (positive : 0 < count) {items : List α} (room : items.length ≤ count) :
    lastItems count items = items := by
  rw [lastItems_of_pos positive, Nat.sub_eq_zero_of_le (by omega), List.drop_zero]

/-- A count of zero keeps everything. -/
theorem lastItems_zero (items : List α) : lastItems 0 items = items := rfl

theorem lastItems_map (change : α → β) (items : List α) :
    lastItems count (items.map change) = (lastItems count items).map change := by
  unfold lastItems
  split <;> simp

/-- What was dropped before is not missed after more has come. -/
theorem lastItems_append (natural : 0 ≤ count) (items more : List α) :
    lastItems count (lastItems count items ++ more) = lastItems count (items ++ more) := by
  rcases Int.lt_or_eq_of_le natural with positive | rfl
  · simp only [lastItems_of_pos positive, List.drop_append, List.length_append, List.length_drop,
      List.drop_drop]
    congr 2 <;> omega
  · simp only [lastItems_zero]

/-- What is kept are the items at the end. -/
theorem lastItems_suffix (count : Int) (items : List α) : lastItems count items <:+ items := by
  unfold lastItems
  split <;> exact List.drop_suffix _ _

/-- As many items are kept as there is room for. -/
theorem length_lastItems (positive : 0 < count) (items : List α) :
    (lastItems count items).length = min count.toNat items.length := by
  rw [lastItems_of_pos positive, List.length_drop]
  omega

namespace Monitor

variable {monitor : Monitor}

/-- A line is added, and only the last ones stay. -/
theorem entries_add (natural : 0 ≤ monitor.capacity) (entry : MonitorEntry) :
    (monitor.add entry).entries = lastItems monitor.capacity (monitor.entries ++ [entry]) := by
  by_cases room : ((monitor.entries ++ [entry]).length : Int) ≤ monitor.capacity
  · have positive : 0 < monitor.capacity := by
      rw [List.length_append, List.length_singleton] at room
      omega
    rw [lastItems_of_room positive room]
    exact if_neg (Int.not_lt.2 room)
  · exact if_pos (Int.not_le.1 room)

@[simp] theorem capacity_addAll (entries : List MonitorEntry) (monitor : Monitor) :
    (entries.foldl add monitor).capacity = monitor.capacity := by
  induction entries generalizing monitor with
  | nil => rfl
  | cons entry entries inductionHypothesis => exact inductionHypothesis (monitor.add entry)

/-- A monitor that holds the last lines of some history holds the last lines of all of it when more
lines have been added, by induction on these. -/
theorem entries_addAll (natural : 0 ≤ monitor.capacity) (shown : MonitorEntry → β)
    {history : List β} (holds : monitor.entries.map shown = lastItems monitor.capacity history)
    (entries : List MonitorEntry) :
    (entries.foldl add monitor).entries.map shown =
      lastItems monitor.capacity (history ++ entries.map shown) := by
  induction entries generalizing monitor history with
  | nil => simpa using holds
  | cons entry entries inductionHypothesis =>
    have first : (monitor.add entry).entries.map shown =
        lastItems monitor.capacity (history ++ [shown entry]) := by
      rw [entries_add natural, ← lastItems_map, List.map_append, holds, List.map_singleton,
        lastItems_append natural]
    have rest := @inductionHypothesis (monitor.add entry) natural _ first
    rw [List.append_assoc] at rest
    exact rest

end Monitor

end ThreadHost.Console
