import ThreadHost.Failure
import ThreadHost.Line
import ThreadHost.Text.Utf8
/-!
# Commands

A command is one line of text; on the way to the device it is UTF-8 with a line feed behind it.
-/

namespace ThreadHost.Command

/-- Whether a text is a single line. -/
def isSingleLine (command : String) : Bool := !command.toList.any Line.isLineEnd

/-- The bytes sent for a command. -/
def encode (command : String) : Except Fault (List UInt8) :=
  if isSingleLine command then .ok (Text.Utf8.encode command.toList ++ [Line.feed])
  else .error (.severalLines command)

end ThreadHost.Command
