/-!
# Hexadecimal text

Bytes written as two lowercase digits each, and read back from text in which blanks may stand
between the pairs.
-/

namespace ThreadHost.Text.Hex

/-- The sixteen digits in order of value. -/
def digits : List Char := "0123456789abcdef".toList

/-- The lowercase digit of a value below sixteen. -/
def digit (value : Nat) : Char := digits.getD value '0'

/-- The value of a digit of either case. -/
def value? (character : Char) : Option Nat :=
  let code := character.toNat
  if 48 ≤ code ∧ code ≤ 57 then some (code - 48)
  else if 97 ≤ code ∧ code ≤ 102 then some (code - 87)
  else if 65 ≤ code ∧ code ≤ 70 then some (code - 55)
  else none

/-- The two digits of one byte, high half first. -/
def pair (byte : UInt8) : List Char :=
  [digit (byte.toNat / 16), digit (byte.toNat % 16)]

/-- The lowercase text of a byte sequence. -/
def encode (bytes : List UInt8) : String :=
  String.ofList (bytes.flatMap pair)

/-- The characters that may stand between two pairs. -/
def isBlank (character : Char) : Bool :=
  character = ' ' || (9 ≤ character.toNat && character.toNat ≤ 13)

/-- Read pairs from the character at `position` on; a failure gives the position at which a digit
was expected and not found. -/
def decodeFrom (position : Nat) : List Char → Except Nat (List UInt8)
  | [] => .ok []
  | c :: rest =>
    if isBlank c then decodeFrom (position + 1) rest
    else match value? c with
      | none => .error position
      | some high =>
        match rest with
        | [] => .error (position + 1)
        | d :: tail =>
          match value? d with
          | none => .error (position + 1)
          | some low => (decodeFrom (position + 2) tail).map (UInt8.ofNat (high * 16 + low) :: ·)

/-- Read the bytes of a hexadecimal text. A character outside ASCII is refused wherever it
stands, before any digit is looked at. -/
def decode (text : String) : Except Nat (List UInt8) :=
  match text.toList.findIdx? (fun c => 128 ≤ c.toNat) with
  | some position => .error position
  | none => decodeFrom 0 text.toList

end ThreadHost.Text.Hex
