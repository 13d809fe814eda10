import ThreadHost.Text.Quoted
/-!
# What is wrong with an address or network text
-/

namespace ThreadHost.Address

/-- What is wrong with one decimal part of a dotted quad. -/
inductive OctetFault where
  | empty
  | notDecimal (octet : String)
  | tooLong (octet : String)
  | leadingZero (octet : String)
  | tooLarge (value : Nat)
  deriving Repr, DecidableEq

/-- Why a text is no address, no network, or no mask. The last argument of most constructors is
the address text without its scope. -/
inductive Fault where
  | empty
  | slash (text : String)
  | severalSlashes (text : String)
  | scope (text : String)
  | tooFewParts (address : String)
  | quadParts (quad address : String)
  | octet (fault : OctetFault) (quad address : String)
  | tooManyColons (address : String)
  | severalGaps (address : String)
  | leadingColon (address : String)
  | trailingColon (address : String)
  | gapTooShort (address : String)
  | wrongPartCount (address : String)
  | groupNotHex (group address : String)
  | groupTooLong (group address : String)
  | mask (text : String)
  | hostBits (network : String)
  /-- A number below all addresses. -/
  | numberNegative (number : Int)
  /-- A number above all addresses. -/
  | numberTooBig (number : Int)
  deriving Repr, DecidableEq

open Text.Quoted (quote)

/-- The wording of an octet fault. -/
def OctetFault.message : OctetFault → String
  | .empty => "Empty octet not permitted"
  | .notDecimal octet => "Only decimal digits permitted in " ++ quote octet
  | .tooLong octet => "At most 3 characters permitted in " ++ quote octet
  | .leadingZero octet => "Leading zeros are not permitted in " ++ quote octet
  | .tooLarge value => s!"Octet {value} (> 255) not permitted"

/-- The wording of an address or network fault. -/
def Fault.message : Fault → String
  | .empty => "Address cannot be empty"
  | .slash text => "Unexpected '/' in " ++ quote text
  | .severalSlashes text => "Only one '/' permitted in " ++ quote text
  | .scope text => "Invalid IPv6 address: \"" ++ quote text ++ "\""
  | .tooFewParts address => "At least 3 parts expected in " ++ quote address
  | .quadParts quad address => "Expected 4 octets in " ++ quote quad ++ " in " ++ quote address
  | .octet fault quad address =>
    fault.message ++ " in " ++ quote quad ++ " in " ++ quote address
  | .tooManyColons address => "At most 8 colons permitted in " ++ quote address
  | .severalGaps address => "At most one '::' permitted in " ++ quote address
  | .leadingColon address => "Leading ':' only permitted as part of '::' in " ++ quote address
  | .trailingColon address => "Trailing ':' only permitted as part of '::' in " ++ quote address
  | .gapTooShort address => "Expected at most 7 other parts with '::' in " ++ quote address
  | .wrongPartCount address => "Exactly 8 parts expected without '::' in " ++ quote address
  | .groupNotHex group address =>
    "Only hex digits permitted in " ++ quote group ++ " in " ++ quote address
  | .groupTooLong group address =>
    "At most 4 characters permitted in " ++ quote group ++ " in " ++ quote address
  | .mask text => quote text ++ " is not a valid netmask"
  | .hostBits network => network ++ " has host bits set"
  | .numberNegative number => s!"{number} (< 0) is not permitted as an IPv6 address"
  | .numberTooBig number => s!"{number} (>= 2**128) is not permitted as an IPv6 address"

end ThreadHost.Address
