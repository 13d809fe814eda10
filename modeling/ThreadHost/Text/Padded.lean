/-!
# Padded text

Text brought to a width with spaces; text that is wider stays as it is.
-/

namespace ThreadHost.Text

/-- The spaces that a text lacks to be of a width. -/
def missingSpaces (width : Nat) (text : String) : String :=
  String.ofList (List.replicate (width - text.length) ' ')

/-- A text with spaces behind it. -/
def padEnd (width : Nat) (text : String) : String := text ++ missingSpaces width text

/-- A text with spaces in front of it. -/
def padStart (width : Nat) (text : String) : String := missingSpaces width text ++ text

end ThreadHost.Text
