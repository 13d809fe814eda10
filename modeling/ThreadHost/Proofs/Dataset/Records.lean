import ThreadHost.Dataset.Records
import ThreadHost.Proofs.Text.Hex
/-!
# Records there and back

A byte sequence is a dataset exactly if it is divided into records: a type, a length and a value
of this length each (`ofBytes_eq_ok_iff`). From it both round trips follow: a dataset that can be
written is read again as it was, and a sequence without repeated types and without the length of
an extended record is written again as it was.
-/

namespace ThreadHost.Dataset

/-- A record: a type of one byte and a value whose length fits into one byte. -/
structure Record where
  type : UInt8
  value : Bytes
  fits : value.length < 256

namespace Record

/-- The bytes of a record. -/
def bytes (record : Record) : Bytes :=
  record.type :: UInt8.ofNat record.value.length :: record.value

/-- What a record sets in a dataset. -/
def entry (record : Record) : Int × Bytes := (record.type.toNat, record.value)

/-- The bytes of records one after another. -/
def join (records : List Record) : Bytes := records.flatMap bytes

@[simp] theorem join_cons (record : Record) (records : List Record) :
    join (record :: records) = record.bytes ++ join records := rfl

/-- The length byte of a record is read as the length of its value. -/
theorem toNat_length (record : Record) :
    (UInt8.ofNat record.value.length).toNat = record.value.length :=
  UInt8.toNat_ofNat_of_lt' record.fits

/-- There are at least as many bytes as records. -/
theorem length_le_length_join (records : List Record) : records.length ≤ (join records).length := by
  induction records with
  | nil => simp [join]
  | cons record records inductionHypothesis =>
    rw [join_cons, List.length_append, List.length_cons, bytes, List.length_cons]
    omega

end Record

/-- Some entries set one after another. -/
def setAll (dataset : Dataset) (entries : List (Int × Bytes)) : Dataset :=
  entries.foldl (fun dataset entry => dataset.set entry.1 entry.2) dataset

/-- One record in front of others is read and set. -/
theorem readRecords_append (record : Record) (dataset : Dataset) (offset bound : Nat)
    (rest : Bytes) :
    readRecords dataset offset (bound + 1) (record.bytes ++ rest) =
      readRecords (dataset.set record.type.toNat record.value)
        (offset + 2 + record.value.length) bound rest := by
  have enough : ¬(record.value ++ rest).length < record.value.length := by
    rw [List.length_append]
    omega
  rw [Record.bytes, List.cons_append, List.cons_append, readRecords, record.toNat_length,
    if_neg enough, List.take_left, List.drop_left]

/-- Records are read one after another. -/
theorem readRecords_join (records : List Record) (dataset : Dataset) (offset : Nat) {bound : Nat}
    (enough : records.length ≤ bound) :
    readRecords dataset offset bound (Record.join records) =
      .ok (dataset.setAll (records.map Record.entry)) := by
  induction records generalizing dataset offset bound with
  | nil => cases bound <;> rfl
  | cons record records inductionHypothesis =>
    cases bound with
    | zero => simp at enough
    | succ bound =>
      have fewer : records.length ≤ bound := by simpa using enough
      rw [Record.join_cons, readRecords_append, inductionHypothesis _ _ fewer]
      rfl

/-- What is read as a dataset is divided into records. -/
theorem exists_records_of_readRecords {dataset result : Dataset} {offset bound : Nat}
    {bytes : Bytes} (accepted : readRecords dataset offset bound bytes = .ok result) :
    ∃ records, bytes = Record.join records ∧
      result = dataset.setAll (records.map Record.entry) := by
  fun_induction readRecords dataset offset bound bytes with
  | case1 dataset => exact ⟨[], rfl, (Except.ok.inj accepted).symm⟩
  | case2 => cases accepted
  | case3 => cases accepted
  | case4 => cases accepted
  | case5 dataset offset bound type length rest enough inductionHypothesis =>
    obtain ⟨records, divided, rfl⟩ := inductionHypothesis accepted
    have count : (rest.take length.toNat).length = length.toNat := by
      rw [List.length_take]
      omega
    have fits : (rest.take length.toNat).length < 256 := by
      rw [count]
      exact length.toNat_lt
    refine ⟨⟨type, rest.take length.toNat, fits⟩ :: records, ?_, rfl⟩
    rw [Record.join_cons, ← divided, Record.bytes]
    simp only [count, UInt8.ofNat_toNat, List.cons_append, List.take_append_drop]

/-- A byte sequence holds a dataset exactly if it is divided into records, and the dataset is what
they set. -/
theorem ofBytes_eq_ok_iff {bytes : Bytes} {dataset : Dataset} :
    ofBytes bytes = .ok dataset ↔
      ∃ records, bytes = Record.join records ∧ dataset = ofList (records.map Record.entry) := by
  constructor
  · exact exists_records_of_readRecords
  · rintro ⟨records, rfl, rfl⟩
    exact readRecords_join records empty 0 (Record.length_le_length_join records)

/-- A type that is new goes to the end. -/
theorem setEntry_of_absent {type : Int} {value : Bytes} {entries : List (Int × Bytes)}
    (absent : type ∉ entries.map Prod.fst) :
    setEntry type value entries = entries ++ [(type, value)] := by
  induction entries with
  | nil => rfl
  | cons entry entries inductionHypothesis =>
    rw [List.map_cons, List.mem_cons, not_or] at absent
    rw [setEntry, if_neg (Ne.symm absent.1), inductionHypothesis absent.2, List.cons_append]

/-- Entries of new and distinct types are set in their order. -/
theorem entries_setAll (dataset : Dataset) {entries : List (Int × Bytes)}
    (distinct : ((dataset.entries ++ entries).map Prod.fst).Nodup) :
    (dataset.setAll entries).entries = dataset.entries ++ entries := by
  induction entries generalizing dataset with
  | nil => exact (List.append_nil _).symm
  | cons entry entries inductionHypothesis =>
    have absent : entry.1 ∉ dataset.entries.map Prod.fst := by
      intro present
      rw [List.map_append, List.nodup_append] at distinct
      exact distinct.2.2 entry.1 present entry.1 (by simp) rfl
    have first : (dataset.set entry.1 entry.2).entries = dataset.entries ++ [entry] :=
      setEntry_of_absent absent
    have others : (((dataset.set entry.1 entry.2).entries ++ entries).map Prod.fst).Nodup := by
      rw [first, List.append_assoc]
      exact distinct
    have all := inductionHypothesis _ others
    rw [first, List.append_assoc] at all
    exact all

/-- Entries of distinct types are a dataset as they are. -/
theorem entries_ofList {entries : List (Int × Bytes)} (distinct : (entries.map Prod.fst).Nodup) :
    (ofList entries).entries = entries :=
  entries_setAll empty distinct

/-- A dataset results from setting its own entries. -/
theorem ofList_entries (dataset : Dataset) : ofList dataset.entries = dataset := by
  have same := entries_ofList dataset.distinct
  generalize ofList dataset.entries = other at same
  cases dataset
  cases other
  cases same
  rfl

/-- A record whose value is not too long is written as its bytes. -/
theorem writeRecord_entry {record : Record} (short : record.value.length ≤ maxLength) :
    writeRecord record.entry.1 record.entry.2 = .ok record.bytes := by
  have type : UInt8.ofNat ((record.type.toNat : Int) % 256).toNat = record.type := by
    have small : ((record.type.toNat : Int) % 256).toNat = record.type.toNat := by
      have bound := record.type.toNat_lt
      omega
    rw [small, UInt8.ofNat_toNat]
  have fits : ¬maxLength < record.entry.2.length := Nat.not_lt.2 short
  rw [writeRecord, if_neg fits]
  simp only [Record.entry, type]
  rfl

/-- Records that are not too long are written one after another. -/
theorem writeRecords_entry {records : List Record}
    (short : ∀ record ∈ records, record.value.length ≤ maxLength) :
    (records.map Record.entry).mapM (fun entry => writeRecord entry.1 entry.2) =
      (.ok (records.map Record.bytes) : Except Fault (List Bytes)) := by
  induction records with
  | nil => rfl
  | cons record records inductionHypothesis =>
    have first := writeRecord_entry (short record List.mem_cons_self)
    have others := inductionHypothesis fun other member =>
      short other (List.mem_cons_of_mem _ member)
    rw [List.map_cons, List.mapM_cons, first, others]
    rfl

/-- A dataset of records that are not too long is written as their bytes. -/
theorem toBytes_of_entries {dataset : Dataset} {records : List Record}
    (entries : dataset.entries = records.map Record.entry)
    (short : ∀ record ∈ records, record.value.length ≤ maxLength) :
    dataset.toBytes = .ok (Record.join records) := by
  rw [toBytes, entries, writeRecords_entry short]
  rfl

/-- Entries whose types and lengths fit into a byte are those of records. -/
theorem exists_records_of_entries {entries : List (Int × Bytes)}
    (fit : ∀ entry ∈ entries, 0 ≤ entry.1 ∧ entry.1 ≤ 255 ∧ entry.2.length ≤ maxLength) :
    ∃ records : List Record, entries = records.map Record.entry ∧
      ∀ record ∈ records, record.value.length ≤ maxLength := by
  induction entries with
  | nil => exact ⟨[], rfl, by simp⟩
  | cons entry entries inductionHypothesis =>
    obtain ⟨nonnegative, small, short⟩ := fit entry List.mem_cons_self
    obtain ⟨records, rfl, others⟩ := inductionHypothesis fun other member =>
      fit other (List.mem_cons_of_mem _ member)
    have fits : entry.2.length < 256 := Nat.lt_of_le_of_lt short (by decide)
    have type : ((UInt8.ofNat entry.1.toNat).toNat : Int) = entry.1 := by
      rw [UInt8.toNat_ofNat_of_lt' (by change entry.1.toNat < 256; omega)]
      omega
    refine ⟨⟨UInt8.ofNat entry.1.toNat, entry.2, fits⟩ :: records, ?_,
      List.forall_mem_cons.2 ⟨short, others⟩⟩
    rw [List.map_cons, Record.entry, type]

/-- A dataset whose types and lengths fit is written, and read again as it was; from hexadecimal
text also when letters have changed their case. -/
theorem round_trip_of_fit {dataset : Dataset}
    (fit : ∀ entry ∈ dataset.entries, 0 ≤ entry.1 ∧ entry.1 ≤ 255 ∧ entry.2.length ≤ maxLength) :
    ∃ bytes hex, dataset.toBytes = .ok bytes ∧ dataset.toHex = .ok hex ∧
      ofBytes bytes = .ok dataset ∧ ofHex hex = .ok dataset ∧
      ∀ text : String, text.toList.map Char.toLower = hex.toList.map Char.toLower →
        ofHex text = .ok dataset := by
  obtain ⟨records, entries, short⟩ := exists_records_of_entries fit
  have bytes := toBytes_of_entries entries short
  have hex : dataset.toHex = .ok (Text.Hex.encode (Record.join records)) := by
    rw [toHex, bytes]
    rfl
  have read : ofBytes (Record.join records) = .ok dataset := by
    rw [ofBytes_eq_ok_iff]
    refine ⟨records, rfl, ?_⟩
    rw [← entries, ofList_entries]
  have anyCase : ∀ text : String, text.toList.map Char.toLower =
      (Text.Hex.encode (Record.join records)).toList.map Char.toLower →
      ofHex text = .ok dataset := by
    intro text same
    rw [ofHex, Text.Hex.decode_congr_toLower same, Text.Hex.decode_encode]
    exact read
  exact ⟨_, _, bytes, hex, read, anyCase _ rfl, anyCase⟩

/-- A sequence of records with distinct types that are not too long is written again as it was. -/
theorem toBytes_of_ofBytes {dataset : Dataset} {records : List Record}
    (accepted : ofBytes (Record.join records) = .ok dataset)
    (distinct : (records.map Record.type).Nodup)
    (short : ∀ record ∈ records, record.value.length ≤ maxLength) :
    dataset.toBytes = .ok (Record.join records) := by
  have read : ofBytes (Record.join records) = .ok (ofList (records.map Record.entry)) :=
    ofBytes_eq_ok_iff.2 ⟨records, rfl, rfl⟩
  obtain rfl : ofList (records.map Record.entry) = dataset :=
    Except.ok.inj (read.symm.trans accepted)
  have types : ((records.map Record.entry).map Prod.fst).Nodup := by
    have numbers : (records.map Record.entry).map Prod.fst =
        (records.map Record.type).map fun type => (type.toNat : Int) := by
      rw [List.map_map, List.map_map]
      rfl
    rw [numbers]
    refine List.Pairwise.map _ ?_ distinct
    intro one other differ same
    exact differ (UInt8.toNat_inj.1 (Int.ofNat_inj.1 same))
  exact toBytes_of_entries (entries_ofList types) short

/-- Datasets survive both ways. One whose types are bytes and whose values have at most 254 bytes
is written, and read again with the same records in the same order, from hexadecimal text in any
case. And a byte sequence that is accepted is divided into records; if no type occurs twice among
them and no length is 255, it is written again as it was. -/
theorem codec_round_trip :
    (∀ dataset : Dataset,
      (∀ entry ∈ dataset.entries, 0 ≤ entry.1 ∧ entry.1 ≤ 255 ∧ entry.2.length ≤ 254) →
        ∃ bytes hex, dataset.toBytes = .ok bytes ∧ dataset.toHex = .ok hex ∧
          ofBytes bytes = .ok dataset ∧ ofHex hex = .ok dataset ∧
          ∀ text : String, text.toList.map Char.toLower = hex.toList.map Char.toLower →
            ofHex text = .ok dataset) ∧
    ∀ (bytes : Bytes) (dataset : Dataset), ofBytes bytes = .ok dataset →
      (∃ records, bytes = Record.join records) ∧
        ∀ records : List Record, bytes = Record.join records → (records.map Record.type).Nodup →
          (∀ record ∈ records, record.value.length ≠ 255) → dataset.toBytes = .ok bytes := by
  constructor
  · intro dataset fit
    exact round_trip_of_fit fit
  · intro bytes dataset accepted
    obtain ⟨divided, whole, -⟩ := ofBytes_eq_ok_iff.1 accepted
    refine ⟨⟨divided, whole⟩, ?_⟩
    rintro records rfl distinct noExtended
    refine toBytes_of_ofBytes accepted distinct fun record member => ?_
    have other := noExtended record member
    have fits := record.fits
    change record.value.length ≤ 254
    omega

/-- Three records out of order, one of them empty. -/
def someDataset : Dataset := ⟨[(53, [0x0A, 0xFF]), (0, []), (255, [1])], by decide⟩

/-- The records of this dataset. -/
def someRecords : List Record :=
  [⟨53, [0x0A, 0xFF], by decide⟩, ⟨0, [], by decide⟩, ⟨255, [1], by decide⟩]

theorem codec_round_trip_someDataset :
    someDataset.toHex = .ok "35020aff0000ff0101" ∧
      ofHex "35020AfF0000Ff0101" = .ok someDataset ∧
      someDataset.toBytes = .ok (Record.join someRecords) := by
  have hex : someDataset.toHex = .ok "35020aff0000ff0101" := by rfl
  obtain ⟨bytes, text, -, written, -, -, anyCase⟩ := codec_round_trip.1 someDataset (by decide)
  obtain rfl : text = "35020aff0000ff0101" := Except.ok.inj (written.symm.trans hex)
  have accepted : ofBytes (Record.join someRecords) = .ok someDataset := by rfl
  exact ⟨hex, anyCase _ (by decide),
    (codec_round_trip.2 _ _ accepted).2 someRecords rfl (by decide) (by decide)⟩

end ThreadHost.Dataset
