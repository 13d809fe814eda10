/-!
# Log levels

The level of a log by its name, in letters of either case. Among the names is that of the layout of
log lines, which stands for a text instead of a number.
-/

namespace ThreadHost.Log

/-- The capital of a letter that can occur in the name of a level. The dotless i and the long s
have plain capitals too. -/
def capital (character : Char) : Char :=
  if character = 'ı' then 'I' else if character = 'ſ' then 'S' else character.toUpper

/-- A level: the number from which on lines are logged, or a text in its place. -/
inductive Level where
  | number (least : Nat)
  | text (text : String)
  deriving Repr, DecidableEq

/-- The layout of log lines. -/
def layout : String := "%(levelname)s:%(name)s:%(message)s"

/-- The levels by name. -/
def levels : List (String × Level) := [
  ("CRITICAL", .number 50), ("FATAL", .number 50), ("ERROR", .number 40), ("WARNING", .number 30),
  ("WARN", .number 30), ("INFO", .number 20), ("DEBUG", .number 10), ("NOTSET", .number 0),
  ("BASIC_FORMAT", .text layout)]

/-- The level at which everything is logged that helps to find a mistake. -/
def debugLevel : Level := .number 10

/-- The level that stands for a name nobody knows. -/
def defaultLevel : Level := .number 20

/-- The level of a name. -/
def level (name : String) : Level :=
  (levels.lookup (String.ofList (name.toList.map capital))).getD defaultLevel

end ThreadHost.Log
