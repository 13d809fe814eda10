import ThreadHost.Address.Network
import ThreadHost.Dataset.Basic
import ThreadHost.Dataset.Fault
import ThreadHost.Text.Hex
import ThreadHost.Text.Utf8
/-!
# The parameters of a network

Reading single parameters out of a dataset, and building a dataset from all of them.
-/

namespace ThreadHost

/-- The number that bytes stand for, first byte highest. -/
def Bytes.toNumber (bytes : Bytes) : Nat :=
  bytes.foldl (fun sum byte => sum * 256 + byte.toNat) 0

/-- The bytes of a number, first byte highest, on a fixed width. -/
def Bytes.ofNumber (width value : Nat) : Bytes :=
  (List.range width).map fun index => UInt8.ofNat (value / Nat.pow 256 (width - 1 - index))

/-- The bytes of an integer that fits the width. -/
def Bytes.ofInteger (width : Nat) (value : Int) : Except Dataset.Fault Bytes :=
  if value < 0 then .error .numberNegative
  else if Nat.pow 256 width ≤ value.toNat then .error .numberTooBig
  else .ok (Bytes.ofNumber width value.toNat)

namespace Dataset

/-- The channel number behind the page byte; an empty value counts as none. -/
def channel (dataset : Dataset) : Option Nat :=
  match dataset.get? RecordType.channel.code with
  | none | some [] => none
  | some value => some (Bytes.toNumber ((value.drop 1).take 2))

/-- The PAN ID; an empty value counts as none. -/
def panId (dataset : Dataset) : Option Nat :=
  match dataset.get? RecordType.panId.code with
  | none | some [] => none
  | some value => some (Bytes.toNumber value)

/-- The extended PAN ID. -/
def extendedPanId (dataset : Dataset) : Option Bytes := dataset.get? RecordType.extendedPanId.code

/-- The network name. -/
def networkName (dataset : Dataset) : Option String :=
  (dataset.get? RecordType.networkName.code).map fun value =>
    String.ofList (Text.Utf8.decodeLossy value)

/-- The network key. -/
def networkKey (dataset : Dataset) : Option Bytes := dataset.get? RecordType.networkKey.code

/-- The network that mesh-local addresses belong to. -/
def meshLocalPrefix (dataset : Dataset) : Except Fault (Option Address.Network) :=
  match dataset.get? RecordType.meshLocalPrefix.code with
  | none => .ok none
  | some value =>
    if value.length = 8 then
      .ok (some ⟨⟨Bytes.toNumber value * Nat.pow 2 64, none⟩, 64⟩)
    else .error (.meshBytes value.length)

/-- The parameters that a dataset is built from. -/
structure Parameters where
  networkName : String
  channel : Int
  panId : Int
  extendedPanId : Bytes
  networkKey : Bytes
  meshLocalPrefix : String
  activeTimestamp : Int := 1

/-- Key rotation after 672 hours, and the default flags. -/
def defaultSecurityPolicy : Bytes := [0x02, 0xA0, 0xF7, 0xF8]

/-- A network that was given as mesh-local prefix, in the form shown, must be a /64. -/
def requireMeshLength (shown : String) :
    Except Address.Fault Address.Network → Except Fault Address.Network
  | .error fault => .error (.meshNetwork fault)
  | .ok network => if network.length = 64 then .ok network else .error (.meshLength shown)

/-- The network given as mesh-local prefix. -/
def parseMeshLocalPrefix (text : String) : Except Fault Address.Network :=
  requireMeshLength text (Address.Network.parse text)

/-- The bytes of a timestamp of so many whole seconds; the low two bytes are the parts of a second
and flags. -/
def timestampBytes (seconds : Int) : Except Fault Bytes := Bytes.ofInteger 8 (seconds * 65536)

/-- A dataset about to be built. What has a length to be checked is there as it was given; all else
is there in the form it is stored in, or with what is wrong with it. -/
structure Draft where
  networkName : String
  extendedPanId : Bytes
  networkKey : Bytes
  mesh : Except Fault Address.Network
  timestamp : Except Fault Bytes
  channel : Except Fault Bytes
  panId : Except Fault Bytes

/-- Build a dataset. The lengths are checked first, then the prefix, then the widths of the
numbers. -/
def Draft.build (draft : Draft) : Except Fault Dataset := do
  let name := Text.Utf8.encode draft.networkName.toList
  if ¬(1 ≤ name.length ∧ name.length ≤ 16) then throw (.nameLength draft.networkName)
  if draft.extendedPanId.length ≠ 8 then throw .extendedPanIdLength
  if draft.networkKey.length ≠ 16 then throw .networkKeyLength
  let network ← draft.mesh
  let timestamp ← draft.timestamp
  let channel ← draft.channel
  let panId ← draft.panId
  pure (ofList [
    (RecordType.activeTimestamp.code, timestamp),
    (RecordType.channel.code, 0 :: channel),
    (RecordType.extendedPanId.code, draft.extendedPanId),
    (RecordType.meshLocalPrefix.code, Bytes.ofNumber 8 (network.address.value / Nat.pow 2 64)),
    (RecordType.networkKey.code, draft.networkKey),
    (RecordType.networkName.code, name),
    (RecordType.panId.code, panId),
    (RecordType.securityPolicy.code, defaultSecurityPolicy)])

/-- Build a dataset from parameters. -/
def create (parameters : Parameters) : Except Fault Dataset :=
  Draft.build {
    networkName := parameters.networkName
    extendedPanId := parameters.extendedPanId
    networkKey := parameters.networkKey
    mesh := parseMeshLocalPrefix parameters.meshLocalPrefix
    timestamp := timestampBytes parameters.activeTimestamp
    channel := Bytes.ofInteger 2 parameters.channel
    panId := Bytes.ofInteger 2 parameters.panId }

end Dataset

end ThreadHost
