import ThreadHost.Datum
/-!
# Misused data

What goes wrong when a datum is used for something that data of its kind cannot do, or a number for
something that it is too large for.
-/

namespace ThreadHost

/-- Why a datum cannot be used as it was meant to be. -/
inductive Misuse where
  /-- Two kinds between which there is no order. -/
  | unordered (left right : Datum.Kind)
  /-- Two kinds that no operator of this sign combines. -/
  | notCombined (sign : String) (left right : Datum.Kind)
  /-- No whole number, where something is to be repeated so often. -/
  | notRepeated (count : Datum.Kind)
  /-- No whole number, where so many steps are to be made. -/
  | notCounted (count : Datum.Kind)
  /-- An operation or a part that the thing does not have. -/
  | lacks (holder name : String)
  /-- No text, where hexadecimal digits are read. -/
  | notDigits (kind : Datum.Kind)
  /-- A kind that cannot be brought to a width. -/
  | notAligned (kind : Datum.Kind)
  /-- A kind that a settings file cannot hold. -/
  | notWritable (kind : Datum.Kind)
  /-- A value that an operation was given twice. -/
  | givenTwice (operation name : String)
  /-- A value that an operation does not take. -/
  | notTaken (operation name : String)
  /-- A whole number above all doubles. -/
  | aboveDoubles
  /-- A quotient of whole numbers above all doubles. -/
  | quotientAboveDoubles
  /-- A whole number above all lengths. -/
  | aboveLengths
  /-- A length above what memory holds. -/
  | aboveMemory
  deriving Repr, DecidableEq

/-- The wording of a misuse. -/
def Misuse.message : Misuse → String
  | .unordered left right =>
    "'<' not supported between instances of '" ++ left.name ++ "' and '" ++ right.name ++ "'"
  | .notCombined sign left right =>
    "unsupported operand type(s) for " ++ sign ++ ": '" ++ left.name ++ "' and '" ++ right.name ++
      "'"
  | .notRepeated count =>
    "can't multiply sequence by non-int of type '" ++ count.name ++ "'"
  | .notCounted count => "'" ++ count.name ++ "' object cannot be interpreted as an integer"
  | .lacks holder name => "'" ++ holder ++ "' object has no attribute '" ++ name ++ "'"
  | .notDigits kind =>
    "fromhex() argument must be str, not " ++
      (if kind = .nothing then "None" else kind.name)
  | .notAligned kind => "unsupported format string passed to " ++ kind.name ++ ".__format__"
  | .notWritable kind => "Object of type '" ++ kind.name ++ "' is not TOML serializable"
  | .givenTwice operation name =>
    operation ++ "() got multiple values for argument '" ++ name ++ "'"
  | .notTaken operation name =>
    operation ++ "() got an unexpected keyword argument '" ++ name ++ "'"
  | .aboveDoubles => "int too large to convert to float"
  | .quotientAboveDoubles => "integer division result too large for a float"
  | .aboveLengths => "cannot fit 'int' into an index-sized integer"
  | .aboveMemory => ""

end ThreadHost
