/-!
# Blank characters

Two sets of white space. `isBlank` is the one that trims lines and typed input: the Unicode
property together with the four information separators. `isSpace` is the property alone.
-/

namespace ThreadHost.Text.Blank

/-- The Unicode white space property. -/
def isSpace (character : Char) : Bool :=
  let code := character.toNat
  (9 ≤ code && code ≤ 13) || code = 0x20 || code = 0x85 || code = 0xA0 || code = 0x1680 ||
    (0x2000 ≤ code && code ≤ 0x200A) || code = 0x2028 || code = 0x2029 || code = 0x202F ||
    code = 0x205F || code = 0x3000

/-- White space or an information separator. -/
def isBlank (character : Char) : Bool :=
  isSpace character || (0x1C ≤ character.toNat && character.toNat ≤ 0x1F)

/-- Drop the characters of a class from the end. -/
def dropEndWhile (inClass : Char → Bool) (characters : List Char) : List Char :=
  (characters.reverse.dropWhile inClass).reverse

/-- Drop the characters of a class from both ends. -/
def trimWhile (inClass : Char → Bool) (characters : List Char) : List Char :=
  dropEndWhile inClass (characters.dropWhile inClass)

/-- Text without blanks at either end. -/
def strip (text : String) : String :=
  String.ofList (trimWhile isBlank text.toList)

end ThreadHost.Text.Blank
