import Mathlib.Data.List.DropRight
import ThreadHost.Proofs.Console.Window
/-!
# What the monitor displays

A monitor is given lines and told to forget them, in any order. Which lines it ought to hold is told
from these edits alone: `sinceClear` are the lines that came since it was cleared last. The monitor
holds the last of them, as many as it has room for, and shows each in a row of its own, the newest
one first (`displays_afterEdits`). A monitor without any room is the exception: it holds every line
(`keeps_without_room`).
-/

namespace ThreadHost.Console

/-- What is done to a monitor. -/
inductive Edit where
  | add (entry : MonitorEntry)
  | clear
  deriving Repr, DecidableEq

/-- The line that an edit adds, if it adds one. -/
def Edit.added? : Edit → Option MonitorEntry
  | .add entry => some entry
  | .clear => none

/-- The lines that were added since all were forgotten last. -/
def sinceClear (edits : List Edit) : List MonitorEntry :=
  (edits.rtakeWhile fun edit => edit.added?.isSome).filterMap Edit.added?

theorem sinceClear_add (edits : List Edit) (entry : MonitorEntry) :
    sinceClear (edits ++ [.add entry]) = sinceClear edits ++ [entry] := by
  unfold sinceClear
  rw [List.rtakeWhile_concat_pos _ _ _ rfl, List.filterMap_append]
  rfl

theorem sinceClear_clear (edits : List Edit) : sinceClear (edits ++ [.clear]) = [] := by
  unfold sinceClear
  rw [List.rtakeWhile_concat_neg _ _ _ Bool.false_ne_true]
  rfl

/-- The part of a line that is shown. -/
def shownPart (line : String) : List Char :=
  if 70 < line.length then line.toList.take 67 ++ ['.', '.', '.'] else line.toList

/-- What stands in front of the line in the row of an entry. -/
def MonitorEntry.mark (entry : MonitorEntry) : String :=
  Calendar.clockText entry.time ++ " " ++
    (if entry.direction = "TX" then "[cyan]→[/cyan]" else "[green]←[/green]") ++ " " ++
    Text.padEnd 2 entry.direction ++ " "

/-- The row of an entry is its mark and the part of its line that is shown. -/
theorem MonitorEntry.toList_row (entry : MonitorEntry) :
    entry.row.toList = entry.mark.toList ++ shownPart entry.line := by
  have cut : (shortened entry.line).toList = shownPart entry.line := by
    unfold shortened shownPart longestLine
    split <;> simp
  rw [← cut, row, mark, String.toList_append]

/-- A line feed is no digit. -/
theorem feed_not_mem_toDigits (number : Nat) : '\n' ∉ Nat.toDigits 10 number := fun member =>
  absurd (Nat.isDigit_of_mem_toDigits (by decide) (by decide) member) (by decide)

theorem feed_not_mem_padded (width number : Nat) :
    '\n' ∉ (Calendar.padded width number).toList := by
  simp [Calendar.padded, feed_not_mem_toDigits, List.mem_replicate]

theorem feed_not_mem_clockText (time : Int) : '\n' ∉ (Calendar.clockText time).toList := by
  simp [Calendar.clockText, feed_not_mem_padded]

/-- The row of an entry is one line, if its texts are. -/
theorem MonitorEntry.feed_not_mem_row {entry : MonitorEntry}
    (direction : '\n' ∉ entry.direction.toList) (line : '\n' ∉ entry.line.toList) :
    '\n' ∉ entry.row.toList := by
  have shown : '\n' ∉ shownPart entry.line := by
    unfold shownPart
    split
    · simpa using fun among => line (List.mem_of_mem_take among)
    · exact line
  have front : '\n' ∉ entry.mark.toList := by
    unfold mark
    split <;> simp [feed_not_mem_clockText, Text.padEnd, Text.missingSpaces, direction,
      List.mem_replicate]
  rw [toList_row, List.mem_append]
  exact not_or.2 ⟨front, shown⟩

namespace Monitor

/-- The monitor after an edit. -/
def edited (monitor : Monitor) : Edit → Monitor
  | .add entry => monitor.add entry
  | .clear => monitor.clear

/-- An empty monitor with room for so many lines, after some edits. -/
def afterEdits (room : Nat) (edits : List Edit) : Monitor := edits.foldl edited { capacity := room }

/-- The first line of what a monitor with so much room shows. -/
def heading (room : Nat) : String :=
  "[bold]CLI MONITOR[/bold] (Last " ++ toString room ++ " Lines)"

theorem feed_not_mem_heading (room : Nat) : '\n' ∉ (heading room).toList := by
  have before : '\n' ∉ "[bold]CLI MONITOR[/bold] (Last ".toList := by decide
  have behind : '\n' ∉ " Lines)".toList := by decide
  unfold heading
  rw [String.toList_append, String.toList_append, List.mem_append, List.mem_append,
    Nat.toString_eq_repr, Nat.toList_repr]
  exact not_or.2 ⟨not_or.2 ⟨before, feed_not_mem_toDigits room⟩, behind⟩

variable {monitor : Monitor} {room : Nat}

@[simp] theorem capacity_edited (monitor : Monitor) (edit : Edit) :
    (monitor.edited edit).capacity = monitor.capacity := by
  cases edit <;> rfl

/-- A monitor that holds the last lines since it was cleared does so after any edits, by induction
on these from the end. -/
theorem entries_afterEdits (room : Nat) (edits : List Edit) :
    (afterEdits room edits).capacity = room ∧
      (afterEdits room edits).entries = lastItems room (sinceClear edits) := by
  induction edits using List.reverseRecOn with
  | nil =>
    refine ⟨rfl, ?_⟩
    unfold lastItems
    split <;> exact (List.drop_nil).symm
  | append_singleton edits edit inductionHypothesis =>
    obtain ⟨capacity, holds⟩ := inductionHypothesis
    have last : afterEdits room (edits ++ [edit]) = (afterEdits room edits).edited edit := by
      simp [afterEdits, List.foldl_append]
    rw [last]
    refine ⟨(capacity_edited _ _).trans capacity, ?_⟩
    cases edit with
    | add entry =>
      have natural : 0 ≤ (afterEdits room edits).capacity := by omega
      rw [sinceClear_add, edited, entries_add natural, holds, capacity,
        lastItems_append (Int.natCast_nonneg room)]
    | clear =>
      rw [sinceClear_clear]
      unfold lastItems
      split <;> exact (List.drop_nil).symm

/-- What a monitor shows is its heading, an empty line, and its rows. -/
theorem toList_text (capacity : monitor.capacity = room) :
    monitor.text.toList =
      ['\n'].intercalate ((heading room).toList :: [] :: monitor.rows.map String.toList) := by
  unfold text
  rw [String.toList_intercalate, capacity]
  rfl

/-- What a monitor displays, with room for so many lines, of the lines that came. -/
structure Displays (room : Nat) (came : List MonitorEntry) (monitor : Monitor) : Prop where
  /-- It holds lines that came last, in the order in which they came. -/
  last : monitor.entries <:+ came
  /-- It holds as many as it has room for, and all of them if it has none. -/
  held : monitor.entries.length = if room = 0 then came.length else min room came.length
  /-- Each line that it holds has one row, the newest line the first one. -/
  rows : monitor.entries ≠ [] → monitor.rows = monitor.entries.reverse.map MonitorEntry.row
  /-- Behind what does not depend on the line, a row shows the line, or the beginning of one that is
  too long. -/
  shown : ∀ entry ∈ monitor.entries, entry.row.toList = entry.mark.toList ++ shownPart entry.line
  /-- The rows are what is shown below the heading and an empty line. -/
  text : (∀ entry ∈ monitor.entries, '\n' ∉ entry.direction.toList ∧ '\n' ∉ entry.line.toList) →
    monitor.text.toList.splitOn '\n' =
      (heading room).toList :: [] :: monitor.rows.map String.toList

/-- Where there is something to show, there is a row for each line. -/
theorem rows_of_ne_nil (some : monitor.entries ≠ []) :
    monitor.rows = monitor.entries.reverse.map MonitorEntry.row :=
  if_neg (by simpa using some)

/-- Rows of lines are lines. -/
theorem feed_not_mem_rows (oneLine : ∀ entry ∈ monitor.entries,
    '\n' ∉ entry.direction.toList ∧ '\n' ∉ entry.line.toList) :
    ∀ row ∈ monitor.rows.map String.toList, '\n' ∉ row := by
  by_cases nothing : monitor.entries = []
  · have rows : monitor.rows = ["[dim]No traffic yet...[/dim]"] := if_pos (by simp [nothing])
    rw [rows]
    decide
  · rw [rows_of_ne_nil nothing]
    intro row member
    simp only [List.map_map, List.mem_map, List.mem_reverse] at member
    obtain ⟨entry, held, rfl⟩ := member
    exact entry.feed_not_mem_row (oneLine entry held).1 (oneLine entry held).2

/-- Whatever was done to a monitor, it holds the last of the lines that came since it was cleared,
as many as it has room for, and shows each of them in one row, the newest one first. A monitor with
room for no line at all holds every line. -/
theorem displays_afterEdits (room : Nat) (edits : List Edit) :
    Displays room (sinceClear edits) (afterEdits room edits) := by
  obtain ⟨capacity, holds⟩ := entries_afterEdits room edits
  refine {
    last := holds ▸ lastItems_suffix _ _
    held := ?_
    rows := rows_of_ne_nil
    shown := fun entry _ => entry.toList_row
    text := ?_ }
  · rw [holds]
    by_cases none : room = 0
    · subst none
      rfl
    · rw [if_neg none, length_lastItems (by omega), Int.toNat_natCast]
  · intro oneLine
    rw [toList_text capacity]
    refine List.splitOn_intercalate _ ?_ (List.cons_ne_nil _ _)
    exact List.forall_mem_cons.2 ⟨feed_not_mem_heading room,
      List.forall_mem_cons.2 ⟨List.not_mem_nil, feed_not_mem_rows oneLine⟩⟩

/-- So a monitor does not always hold only as many lines as it has room for. -/
theorem keeps_without_room :
    ¬∀ (room : Nat) (edits : List Edit), (afterEdits room edits).entries.length =
      min room (sinceClear edits).length := by
  intro always
  have none := always 0 [.add ⟨0, "TX", "state"⟩]
  revert none
  decide

end Monitor

end ThreadHost.Console
