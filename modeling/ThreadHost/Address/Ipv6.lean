import ThreadHost.Address.Fault
import ThreadHost.Text.Pieces
import ThreadHost.Text.DecimalDigit
/-!
# IPv6 addresses

The 128-bit value of an address with its scope, read from and written as text. Reading takes
eight groups, one run of groups left out as `::`, and a dotted quad in place of the last two
groups; writing leaves out the longest run of zero groups.
-/

namespace ThreadHost.Address

/-- An address: its value and the scope named behind `%`. -/
structure Ipv6 where
  value : Nat
  scope : Option String
  deriving Repr, DecidableEq

namespace Ipv6

/-- The value of one decimal part of a dotted quad. -/
def octet (text : List Char) : Except OctetFault Nat :=
  let shown := String.ofList text
  if text = [] then .error .empty
  else match text.mapM Text.DecimalDigit.ascii? with
    | none => .error (.notDecimal shown)
    | some digits =>
      if 3 < text.length then .error (.tooLong shown)
      else if 1 < text.length ∧ digits.head? = some 0 then .error (.leadingZero shown)
      else
        let value := digits.foldl (fun sum digit => sum * 10 + digit) 0
        if 255 < value then .error (.tooLarge value) else .ok value

/-- The two groups that a dotted quad stands for. -/
def quadGroups (address quad : List Char) : Except Fault (List (List Char)) :=
  let parts := Text.pieces '.' quad
  if parts.length ≠ 4 then .error (.quadParts (String.ofList quad) (String.ofList address))
  else match parts.mapM octet with
    | .error fault => .error (.octet fault (String.ofList quad) (String.ofList address))
    | .ok octets =>
      let value := octets.foldl (fun sum octet => sum * 256 + octet) 0
      .ok [Nat.toDigits 16 (value / 65536), Nat.toDigits 16 (value % 65536)]

/-- The value of one group of hexadecimal digits. -/
def group (address text : List Char) : Except Fault Nat :=
  match text.mapM Text.Hex.value? with
  | none => .error (.groupNotHex (String.ofList text) (String.ofList address))
  | some digits =>
    if 4 < text.length then .error (.groupTooLong (String.ofList text) (String.ofList address))
    else .ok (digits.foldl (fun sum digit => sum * 16 + digit) 0)

/-- Split the parts of an address at the place where groups are left out: the groups before it,
the number left out, and the groups behind it. -/
def layOut (address : List Char) (parts : List (List Char)) :
    Except Fault (List (List Char) × Nat × List (List Char)) :=
  let shown := String.ofList address
  let inner := (parts.drop 1).dropLast
  let first := parts.headD []
  let last := parts.getLastD []
  let gap := (inner.takeWhile (· ≠ [])).length
  if gap = inner.length then
    if parts.length ≠ 8 then .error (.wrongPartCount shown)
    else if first = [] then .error (.leadingColon shown)
    else if last = [] then .error (.trailingColon shown)
    else .ok (parts, 0, [])
  else if (inner.drop (gap + 1)).contains [] then .error (.severalGaps shown)
  else
    let before := parts.take (gap + 1)
    let after := parts.drop (gap + 2)
    let high := if first = [] then before.drop 1 else before
    let low := if last = [] then after.dropLast else after
    if first = [] ∧ high ≠ [] then .error (.leadingColon shown)
    else if last = [] ∧ low ≠ [] then .error (.trailingColon shown)
    else if 8 ≤ high.length + low.length then .error (.gapTooShort shown)
    else .ok (high, 8 - (high.length + low.length), low)

/-- The value of an address text without scope. -/
def valueOf (address : List Char) : Except Fault Nat :=
  let shown := String.ofList address
  if address = [] then .error .empty
  else do
    let parts := Text.pieces ':' address
    if parts.length < 3 then throw (.tooFewParts shown)
    let last := parts.getLastD []
    let parts ←
      if last.contains '.' then do pure (parts.dropLast ++ (← quadGroups address last))
      else pure parts
    if 9 < parts.length then throw (.tooManyColons shown)
    let (high, skipped, low) ← layOut address parts
    let high ← high.mapM (group address)
    let low ← low.mapM (group address)
    let sum := fun (start : Nat) (groups : List Nat) =>
      groups.foldl (fun value group => value * 65536 + group) start
    pure (sum (sum 0 high * Nat.pow 65536 skipped) low)

/-- Read an address. -/
def parse (text : String) : Except Fault Ipv6 :=
  if text.toList.contains '/' then .error (.slash text)
  else match Text.partition '%' text.toList with
    | (address, none) => (valueOf address).map (⟨·, none⟩)
    | (address, some scope) =>
      if scope = [] || scope.contains '%' then .error (.scope text)
      else (valueOf address).map (⟨·, some (String.ofList scope)⟩)

/-- The eight groups of an address, first to last. -/
def groups (address : Ipv6) : List Nat :=
  (List.range 8).map fun index => address.value / Nat.pow 65536 (7 - index) % 65536

/-- How many zeros a list begins with. -/
def zerosAhead (groups : List Nat) : Nat := (groups.takeWhile (· = 0)).length

/-- Where the longest run of zero groups begins; the first of several equally long ones. -/
def longestRun (groups : List Nat) : Nat :=
  (List.range groups.length).foldl (fun best start =>
    if zerosAhead (groups.drop best) < zerosAhead (groups.drop start) then start else best) 0

/-- Groups in lowercase without leading zeros, separated by colons. -/
def joined (groups : List Nat) : String :=
  ":".intercalate (groups.map fun group => String.ofList (Nat.toDigits 16 group))

/-- The text of an address without its scope. -/
def valueText (address : Ipv6) : String :=
  let groups := address.groups
  let start := longestRun groups
  let run := zerosAhead (groups.drop start)
  if run < 2 then joined groups
  else joined (groups.take start) ++ "::" ++ joined (groups.drop (start + run))

/-- The text of an address. -/
def text (address : Ipv6) : String :=
  match address.scope with
  | none => address.valueText
  | some scope => address.valueText ++ "%" ++ scope

/-- Whether an address is link-local: its top ten bits are `1111111010`. -/
def isLinkLocal (address : Ipv6) : Bool := address.value / Nat.pow 2 118 = 0b1111111010

end Ipv6

end ThreadHost.Address
