import ThreadHost.Dataset.Basic
import ThreadHost.Dataset.Fault
import ThreadHost.Text.Hex
/-!
# Datasets as bytes

A dataset travels as a sequence of records: one byte for the type, one for the length, and the
value. Reading takes every length a byte can hold; writing refuses values of more than 254 bytes,
since the last length marks an extended record. A type is written as its low byte.
-/

namespace ThreadHost.Dataset

/-- The longest value that is written. -/
def maxLength : Nat := 0xFE

/-- Read records from `offset` on, setting their types in a dataset one after another. The bound
is the number of records that may still come. -/
def readRecords (dataset : Dataset) (offset : Nat) : Nat → Bytes → Except Fault Dataset
  | _, [] => .ok dataset
  | _, [_] => .error (.shortHeader offset)
  | 0, _ => .error (.shortHeader offset)
  | bound + 1, type :: length :: rest =>
    if rest.length < length.toNat then
      .error (.shortValue type.toNat offset length.toNat rest.length)
    else
      readRecords (dataset.set type.toNat (rest.take length.toNat)) (offset + 2 + length.toNat)
        bound (rest.drop length.toNat)

/-- The dataset that a byte sequence holds. Each record takes at least two bytes, so the sequence
bounds their number. -/
def ofBytes (bytes : Bytes) : Except Fault Dataset := readRecords empty 0 bytes.length bytes

/-- The bytes of one record. -/
def writeRecord (type : Int) (value : Bytes) : Except Fault Bytes :=
  if maxLength < value.length then .error (.longValue type value.length)
  else .ok (UInt8.ofNat (type % 256).toNat :: UInt8.ofNat value.length :: value)

/-- The bytes of a dataset. -/
def toBytes (dataset : Dataset) : Except Fault Bytes := do
  let records ← dataset.entries.mapM fun entry => writeRecord entry.1 entry.2
  pure records.flatten

/-- The dataset that a hexadecimal text holds. -/
def ofHex (text : String) : Except Fault Dataset :=
  match Text.Hex.decode text with
  | .error position => .error (.notHex position)
  | .ok bytes => ofBytes bytes

/-- The hexadecimal text of a dataset. -/
def toHex (dataset : Dataset) : Except Fault String := dataset.toBytes.map Text.Hex.encode

end ThreadHost.Dataset
