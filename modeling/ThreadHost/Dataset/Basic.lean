/-!
# Active operational datasets

The parameters of a Thread network as an ordered mapping from record types to values. Setting a
type that is present keeps its place; a new type goes to the end.
-/

namespace ThreadHost

/-- The value of a record. -/
abbrev Bytes := List UInt8

/-- The entries with the value of a type replaced, or with a new entry at the end. -/
def Dataset.setEntry (type : Int) (value : Bytes) : List (Int × Bytes) → List (Int × Bytes)
  | [] => [(type, value)]
  | entry :: rest =>
    if entry.1 = type then (type, value) :: rest
    else entry :: Dataset.setEntry type value rest

/-- The types after setting one: it is added at the end unless it is there. -/
theorem Dataset.keys_setEntry (type : Int) (value : Bytes) (entries : List (Int × Bytes)) :
    (Dataset.setEntry type value entries).map Prod.fst =
      if type ∈ entries.map Prod.fst then entries.map Prod.fst
      else entries.map Prod.fst ++ [type] := by
  induction entries with
  | nil => rfl
  | cons entry rest inductionHypothesis =>
    by_cases same : entry.1 = type
    · simp [Dataset.setEntry, same]
    · have other : ¬type = entry.1 := fun equal => same equal.symm
      simp only [Dataset.setEntry, same, if_false, List.map_cons, inductionHypothesis,
        List.mem_cons, other, false_or]
      split <;> simp

/-- Setting a type keeps the types distinct. -/
theorem Dataset.nodup_setEntry {type : Int} {value : Bytes} {entries : List (Int × Bytes)}
    (distinct : (entries.map Prod.fst).Nodup) :
    ((Dataset.setEntry type value entries).map Prod.fst).Nodup := by
  rw [Dataset.keys_setEntry]
  split
  · exact distinct
  · rename_i absent
    rw [List.nodup_append]
    refine ⟨distinct, by simp, ?_⟩
    intro present presentIn only onlyIn equal
    exact absent ((equal.trans (List.mem_singleton.1 onlyIn)) ▸ presentIn)

/-- A dataset: values by record type, each type once, in order of first setting. -/
structure Dataset where
  entries : List (Int × Bytes)
  distinct : (entries.map Prod.fst).Nodup
  deriving Repr, DecidableEq

namespace Dataset

/-- The dataset without records. -/
def empty : Dataset := ⟨[], by simp⟩

/-- The value of a type. -/
def get? (dataset : Dataset) (type : Int) : Option Bytes :=
  (dataset.entries.find? (·.1 = type)).map Prod.snd

/-- Whether a type is present. -/
def contains (dataset : Dataset) (type : Int) : Bool := dataset.entries.any (·.1 = type)

/-- Give a type a value. -/
def set (dataset : Dataset) (type : Int) (value : Bytes) : Dataset :=
  ⟨setEntry type value dataset.entries, nodup_setEntry dataset.distinct⟩

/-- Drop a type. -/
def remove (dataset : Dataset) (type : Int) : Dataset :=
  ⟨dataset.entries.filter (·.1 ≠ type),
    (List.filter_sublist.map Prod.fst).nodup dataset.distinct⟩

/-- The dataset that results from setting entries one after another. -/
def ofList (entries : List (Int × Bytes)) : Dataset :=
  entries.foldl (fun dataset entry => dataset.set entry.1 entry.2) empty

/-- Whether two datasets give the same types the same values, in whatever order. -/
def agrees (left right : Dataset) : Bool :=
  left.entries.length = right.entries.length &&
    left.entries.all fun entry => right.get? entry.1 = some entry.2

end Dataset

/-- The record types a dataset is read by. -/
inductive RecordType where
  | channel
  | panId
  | extendedPanId
  | networkName
  | pskc
  | networkKey
  | meshLocalPrefix
  | securityPolicy
  | activeTimestamp
  | channelMask
  deriving Repr, DecidableEq

/-- The number that stands for a record type in a dataset. -/
def RecordType.code : RecordType → Int
  | .channel => 0
  | .panId => 1
  | .extendedPanId => 2
  | .networkName => 3
  | .pskc => 4
  | .networkKey => 5
  | .meshLocalPrefix => 7
  | .securityPolicy => 12
  | .activeTimestamp => 14
  | .channelMask => 53

/-- The record types by name. -/
def RecordType.names : List (String × RecordType) := [
  ("CHANNEL", .channel),
  ("PAN_ID", .panId),
  ("EXTENDED_PAN_ID", .extendedPanId),
  ("NETWORK_NAME", .networkName),
  ("PSKC", .pskc),
  ("NETWORK_KEY", .networkKey),
  ("MESH_LOCAL_PREFIX", .meshLocalPrefix),
  ("SECURITY_POLICY", .securityPolicy),
  ("ACTIVE_TIMESTAMP", .activeTimestamp),
  ("CHANNEL_MASK", .channelMask)]

end ThreadHost
