import ThreadHost.Text.Hex
import ThreadHost.Text.Printable
/-!
# Quoted text

Text shown inside a message: in single quotes, or in double quotes when it holds a single quote
and no double one. The quote in use and the backslash are escaped, line ends and tabs have short
escapes, and any other character that is not printable is written by its code point.
-/

namespace ThreadHost.Text.Quoted

/-- The digits of a number in base sixteen, padded with zeros to a width. -/
def hexDigits (width value : Nat) : List Char :=
  let shown := Nat.toDigits 16 value
  List.replicate (width - shown.length) '0' ++ shown

/-- The escape of a character that is not printable. -/
def codePoint (character : Char) : List Char :=
  let code := character.toNat
  if code < 0x100 then '\\' :: 'x' :: hexDigits 2 code
  else if code < 0x10000 then '\\' :: 'u' :: hexDigits 4 code
  else '\\' :: 'U' :: hexDigits 8 code

/-- One character inside quotes of a given kind. -/
def character (quote c : Char) : List Char :=
  if c = quote || c = '\\' then ['\\', c]
  else if c = '\n' then ['\\', 'n']
  else if c = '\r' then ['\\', 'r']
  else if c = '\t' then ['\\', 't']
  else if Printable.isPrintable c then [c]
  else codePoint c

/-- The quote that a text is put in. -/
def quoteFor (characters : List Char) : Char :=
  if characters.contains '\'' && !characters.contains '"' then '"' else '\''

/-- A text in quotes. -/
def quote (text : String) : String :=
  let mark := quoteFor text.toList
  String.ofList (mark :: (text.toList.flatMap (character mark) ++ [mark]))

/-- Several texts, quoted, in brackets and separated by commas. -/
def quoteAll (texts : List String) : String :=
  "[" ++ ", ".intercalate (texts.map quote) ++ "]"

end ThreadHost.Text.Quoted
