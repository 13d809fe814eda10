import ThreadHost.Address.Fault
import ThreadHost.Misuse
/-!
# What is wrong with a dataset
-/

namespace ThreadHost.Dataset

/-- Why a dataset cannot be read, written or built. -/
inductive Fault where
  /-- A digit was expected at this position of a hexadecimal text. -/
  | notHex (position : Nat)
  /-- A single byte is left where a record should begin. -/
  | shortHeader (offset : Nat)
  /-- A record announces more bytes than there are. -/
  | shortValue (type offset needed available : Nat)
  | longValue (type : Int) (length : Nat)
  | nameLength (name : String)
  | extendedPanIdLength
  | networkKeyLength
  /-- The mesh-local prefix given is no network. -/
  | meshNetwork (fault : Address.Fault)
  /-- The mesh-local prefix given is a network of another length. -/
  | meshLength (network : String)
  /-- The mesh-local prefix of the dataset has the wrong number of bytes. -/
  | meshBytes (length : Nat)
  | numberTooBig
  | numberNegative
  /-- A parameter is of a kind that the dataset cannot use. -/
  | misuse (how : Misuse)
  deriving Repr, DecidableEq

/-- The wording of a dataset fault. -/
def Fault.message : Fault → String
  | .notHex position =>
    s!"non-hexadecimal number found in fromhex() arg at position {position}"
  | .shortHeader offset => s!"Truncated TLV header at offset {offset}"
  | .shortValue type offset needed available =>
    s!"TLV type {type} at offset {offset} needs {needed} bytes, {available} available"
  | .longValue type length => s!"TLV type {type} too long: {length} bytes"
  | .nameLength name => "Network name must be 1-16 bytes: " ++ Text.Quoted.quote name
  | .extendedPanIdLength => "Extended PAN ID must be 8 bytes"
  | .networkKeyLength => "Network key must be 16 bytes"
  | .meshNetwork fault => fault.message
  | .meshLength network => "Mesh-local prefix must be a /64: " ++ network
  | .meshBytes length => s!"Mesh-local prefix TLV must be 8 bytes, got {length}"
  | .numberTooBig => "int too big to convert"
  | .numberNegative => "can't convert negative int to unsigned"
  | .misuse how => how.message

end ThreadHost.Dataset
