import ThreadHost.Address.Ipv6
/-!
# IPv6 networks

A network is an address with a length: the leading bits that its members share. The remaining
bits of the address are zero.
-/

namespace ThreadHost.Address

/-- A network of addresses. -/
structure Network where
  address : Ipv6
  length : Nat
  deriving Repr, DecidableEq

namespace Network

/-- The text of a network. -/
def text (network : Network) : String := network.address.text ++ "/" ++ toString network.length

/-- Read the length behind the slash: ASCII digits, at most 128. -/
def parseLength (text : List Char) : Except Fault Nat :=
  match text.mapM Text.DecimalDigit.ascii? with
  | some (first :: rest) =>
    let value := rest.foldl (fun sum digit => sum * 10 + digit) first
    if 128 < value then .error (.mask (String.ofList text)) else .ok value
  | _ => .error (.mask (String.ofList text))

/-- A network from its parts; bits of the address behind the length are refused. -/
def make (address : Ipv6) (length : Nat) : Except Fault Network :=
  if address.value % Nat.pow 2 (128 - length) = 0 then .ok ⟨address, length⟩
  else .error (.hostBits (Network.text ⟨address, length⟩))

/-- Read a network; without a slash it is the one address alone. -/
def parse (text : String) : Except Fault Network :=
  match Text.pieces '/' text.toList with
  | [address] => do make (← Ipv6.parse (String.ofList address)) 128
  | [address, length] => do
    let address ← Ipv6.parse (String.ofList address)
    make address (← parseLength length)
  | _ => .error (.severalSlashes text)

/-- The network of the one address that has a number. -/
def ofNumber (number : Int) : Except Fault Network :=
  if number < 0 then .error (.numberNegative number)
  else if Nat.pow 2 128 ≤ number.toNat then .error (.numberTooBig number)
  else .ok ⟨⟨number.toNat, none⟩, 128⟩

/-- Whether an address lies in a network; scopes do not matter. -/
def contains (network : Network) (address : Ipv6) : Bool :=
  let size := Nat.pow 2 (128 - network.length)
  address.value / size = network.address.value / size

end Network

end ThreadHost.Address
