import ThreadHost.Tool.Basic
/-!
# Sending one command

The words of the command line make one command; the lines of the answer are printed when all of
them have come.
-/

namespace ThreadHost.Tool.Send

/-- The command line. -/
def form : CommandLine.Form := ⟨deviceOptions, true⟩

/-- An error of the device is shown as the device put it. -/
def complain (failure : Failure) : Option Complaint :=
  if failure.isDeviceError then some ⟨2, "Device error: " ++ failure.detail⟩
  else if failure.isLink || failure.isRejection then some (complaint failure)
  else none

/-- The command that words make. -/
def commandOf (words : List String) : String := " ".intercalate words

/-- Send a command and print the answer. -/
def work (command : String) : Act Work Conclusion := do
  (← onSession (Session.execute command)).forM print
  pure {}

/-- Run the tool. -/
def run (texts : List String) (device : Device) (platform : Platform := {}) : Run :=
  onDevice form complain (fun arguments => work (commandOf arguments.operands)) texts device platform

end ThreadHost.Tool.Send
