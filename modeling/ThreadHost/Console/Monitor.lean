import ThreadHost.Calendar
import ThreadHost.Session.Basic
import ThreadHost.Text.Padded
/-!
# The traffic monitor

The last lines that were sent and received, newest first.
-/

namespace ThreadHost

/-- The word for a direction. -/
def Direction.word : Direction → String
  | .sent => "TX"
  | .received => "RX"

namespace Console

/-- A line in the monitor. -/
structure MonitorEntry where
  /-- Microseconds after a midnight. -/
  time : Int
  direction : String
  line : String
  deriving Repr, DecidableEq

/-- The monitor: how many lines it keeps, and the lines, oldest first. -/
structure Monitor where
  capacity : Int := 20
  entries : List MonitorEntry := []
  /-- How many lines were added since the beginning. -/
  added : Nat := 0
  deriving Repr, DecidableEq

/-- The last so many items; all of them for zero, and for a number below zero all but so many at
the front. -/
def lastItems {α : Type} (count : Int) (items : List α) : List α :=
  if 0 < count then items.drop (items.length - count.toNat) else items.drop (-count).toNat

/-- The most characters that are shown of a line. -/
def longestLine : Nat := 70

/-- A line as it is shown: one that is too long ends in three points. -/
def shortened (line : String) : String :=
  if longestLine < line.length then String.ofList (line.toList.take 67) ++ "..." else line

/-- The row of an entry. -/
def MonitorEntry.row (entry : MonitorEntry) : String :=
  let arrow := if entry.direction = "TX" then "[cyan]→[/cyan]" else "[green]←[/green]"
  Calendar.clockText entry.time ++ " " ++ arrow ++ " " ++ Text.padEnd 2 entry.direction ++ " " ++
    shortened entry.line

namespace Monitor

/-- Add a line; when there are more than the monitor keeps, only the last ones stay. -/
def add (monitor : Monitor) (entry : MonitorEntry) : Monitor :=
  let entries := monitor.entries ++ [entry]
  { monitor with
    entries := if monitor.capacity < entries.length then lastItems monitor.capacity entries
      else entries
    added := monitor.added + 1 }

/-- Forget all lines. -/
def clear (monitor : Monitor) : Monitor := { monitor with entries := [] }

/-- The rows of the monitor below its title. -/
def rows (monitor : Monitor) : List String :=
  if monitor.entries.isEmpty then ["[dim]No traffic yet...[/dim]"]
  else monitor.entries.reverse.map MonitorEntry.row

/-- The text of the monitor. -/
def text (monitor : Monitor) : String :=
  "\n".intercalate
    (["[bold]CLI MONITOR[/bold] (Last " ++ toString monitor.capacity ++ " Lines)", ""] ++
      monitor.rows)

end Monitor

end Console

end ThreadHost
