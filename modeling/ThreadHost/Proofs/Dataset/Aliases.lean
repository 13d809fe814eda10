import ThreadHost.Proofs.Dataset.Accepted
import ThreadHost.Proofs.Dataset.Grammar
/-!
# Datasets that are written alike

Values that are too long for the length byte are refused, but a type that is too large for the type
byte is written as its low byte. So two datasets have the same bytes exactly if they have the same
values in the same order under the same low bytes, and what is read from these bytes has the low
bytes for its types (`toBytes_alike_iff`). Types of one byte are their own low bytes: among datasets
with such types none is written like another.
-/

namespace ThreadHost.Dataset

variable {dataset left right : Dataset} {entry : Int × Bytes} {entries : List (Int × Bytes)}
  {records others : List Record} {bytes : Bytes}

/-- An entry under the low byte of its type. -/
def underLowByte (entry : Int × Bytes) : Int × Bytes := (entry.1 % 256, entry.2)

/-- A type of one byte is its own low byte. -/
theorem underLowByte_of_fits (fits : 0 ≤ entry.1 ∧ entry.1 ≤ 255) : underLowByte entry = entry := by
  have same : entry.1 % 256 = entry.1 := by omega
  rw [underLowByte, same]

/-- So entries with such types are under their low bytes already. -/
theorem map_underLowByte_of_fits (fit : ∀ entry ∈ entries, 0 ≤ entry.1 ∧ entry.1 ≤ 255) :
    entries.map underLowByte = entries := by
  have each : ∀ entry ∈ entries, underLowByte entry = id entry := fun entry member =>
    underLowByte_of_fits (fit entry member)
  rw [List.map_congr_left each, List.map_id]

/-- A record whose value is not too long is written under the low byte of its type. -/
theorem writeRecord_underLowByte (short : entry.2.length ≤ maxLength) :
    writeRecord entry.1 entry.2 = writeRecord (underLowByte entry).1 (underLowByte entry).2 := by
  have fits : ¬maxLength < entry.2.length := Nat.not_lt.2 short
  have same : entry.1 % 256 % 256 = entry.1 % 256 := Int.emod_emod _ _
  rw [writeRecord, writeRecord, underLowByte, if_neg fits, if_neg fits, same]

/-- And so are records one after another. -/
theorem writeRecords_underLowByte (short : ∀ entry ∈ entries, entry.2.length ≤ maxLength) :
    entries.mapM (fun entry => writeRecord entry.1 entry.2) =
      (entries.map underLowByte).mapM fun entry => writeRecord entry.1 entry.2 := by
  induction entries with
  | nil => rfl
  | cons entry entries inductionHypothesis =>
    obtain ⟨first, others⟩ := List.forall_mem_cons.1 short
    rw [List.map_cons, List.mapM_cons, List.mapM_cons, writeRecord_underLowByte first,
      inductionHypothesis others]

/-- A dataset is written exactly if no value is too long, whatever its types are. -/
theorem exists_toBytes_iff :
    (∃ bytes, dataset.toBytes = .ok bytes) ↔
      ∀ entry ∈ dataset.entries, entry.2.length ≤ maxLength := by
  rcases toBytes_cases dataset with ⟨short, written⟩ | ⟨entry, member, long, refused⟩
  · exact ⟨fun _ => short, fun _ => written⟩
  · constructor
    · rintro ⟨bytes, written⟩
      cases refused.symm.trans written
    · intro short
      exact absurd (short entry member) (Nat.not_le.2 long)

/-- Datasets without values that are too long, and with the same entries under their low bytes, are
written alike. -/
theorem toBytes_congr (short : ∀ entry ∈ left.entries, entry.2.length ≤ maxLength)
    (shortToo : ∀ entry ∈ right.entries, entry.2.length ≤ maxLength)
    (same : left.entries.map underLowByte = right.entries.map underLowByte) :
    left.toBytes = right.toBytes := by
  rw [toBytes, toBytes, writeRecords_underLowByte short, writeRecords_underLowByte shortToo, same]

/-- The bytes of a dataset are records, of which each sets an entry under its low byte. -/
theorem exists_records_of_toBytes (written : dataset.toBytes = .ok bytes) :
    ∃ records, bytes = Record.join records ∧
      dataset.entries.map underLowByte = records.map Record.entry := by
  have short := exists_toBytes_iff.1 ⟨bytes, written⟩
  have fit : ∀ entry ∈ dataset.entries.map underLowByte,
      0 ≤ entry.1 ∧ entry.1 ≤ 255 ∧ entry.2.length ≤ maxLength := by
    intro entry member
    obtain ⟨origin, there, rfl⟩ := List.mem_map.1 member
    have value := short origin there
    simp only [underLowByte]
    omega
  obtain ⟨records, entries, shortRecords⟩ := exists_records_of_entries fit
  refine ⟨records, ?_, entries⟩
  rw [toBytes, writeRecords_underLowByte short, entries, writeRecords_entry shortRecords] at written
  exact (Except.ok.inj written).symm

/-- Records with the same bytes are the same. -/
theorem Record.join_inj (same : Record.join records = Record.join others) : records = others := by
  have divisions : Record.join records ++ [] = Record.join others ++ [] := by rw [same]
  exact (division_unique divisions unfit_nil unfit_nil).1

/-- A dataset is written exactly if no value is too long, and reading it again gives its entries
under the low bytes of their types. Another dataset has the same bytes exactly if it has the same
values in the same order under the same low bytes, and it is the same dataset if all types fit into
one byte. -/
theorem toBytes_alike_iff (left right : Dataset) :
    ((∃ bytes, left.toBytes = .ok bytes) ↔
      ∀ entry ∈ left.entries, entry.2.length ≤ maxLength) ∧
    ∀ bytes, left.toBytes = .ok bytes →
      ofBytes bytes = .ok (ofList (left.entries.map underLowByte)) ∧
      (right.toBytes = .ok bytes ↔
        left.entries.map underLowByte = right.entries.map underLowByte) ∧
      ((∀ entry ∈ left.entries ++ right.entries, 0 ≤ entry.1 ∧ entry.1 ≤ 255) →
        right.toBytes = .ok bytes → left = right) := by
  refine ⟨exists_toBytes_iff, fun bytes written => ?_⟩
  obtain ⟨records, divided, entries⟩ := exists_records_of_toBytes written
  have lowBytes : right.toBytes = .ok bytes →
      left.entries.map underLowByte = right.entries.map underLowByte := by
    intro writtenToo
    obtain ⟨others, dividedToo, entriesToo⟩ := exists_records_of_toBytes writtenToo
    obtain rfl := Record.join_inj (divided.symm.trans dividedToo)
    exact entries.trans entriesToo.symm
  refine ⟨?_, ⟨lowBytes, fun same => ?_⟩, fun fit writtenToo => ?_⟩
  · rw [ofBytes_eq_ok_iff]
    exact ⟨records, divided, by rw [entries]⟩
  · have short := exists_toBytes_iff.1 ⟨bytes, written⟩
    have values : left.entries.map Prod.snd = right.entries.map Prod.snd := by
      simpa [underLowByte, Function.comp_def] using congrArg (List.map Prod.snd) same
    have shortToo : ∀ entry ∈ right.entries, entry.2.length ≤ maxLength := by
      intro entry member
      have value : entry.2 ∈ left.entries.map Prod.snd := values ▸ List.mem_map_of_mem member
      obtain ⟨origin, there, equal⟩ := List.mem_map.1 value
      exact equal ▸ short origin there
    rw [← toBytes_congr short shortToo same, written]
  · have same := lowBytes writtenToo
    rw [map_underLowByte_of_fits fun entry member => fit entry (List.mem_append_left _ member),
      map_underLowByte_of_fits fun entry member => fit entry (List.mem_append_right _ member)]
      at same
    cases left
    cases right
    cases same
    rfl

/-- Types above and below those of one byte. -/
def outsideOneByte : Dataset := ⟨[(256, [0, 0, 11]), (-1, [])], by decide⟩

/-- The types that these have for their low bytes. -/
def withinOneByte : Dataset := ⟨[(0, [0, 0, 11]), (255, [])], by decide⟩

theorem toBytes_alike_iff_outsideOneByte :
    ∃ bytes, outsideOneByte.toBytes = .ok bytes ∧ withinOneByte.toBytes = .ok bytes ∧
      ofBytes bytes = .ok (ofList (outsideOneByte.entries.map underLowByte)) ∧
      withinOneByte = ofList (outsideOneByte.entries.map underLowByte) := by
  obtain ⟨written, all⟩ := toBytes_alike_iff outsideOneByte withinOneByte
  obtain ⟨bytes, ok⟩ := written.2 (by decide)
  obtain ⟨read, alike, -⟩ := all bytes ok
  have okToo := alike.2 (by decide)
  obtain ⟨-, alikeAgain, only⟩ := (toBytes_alike_iff withinOneByte
    (ofList (outsideOneByte.entries.map underLowByte))).2 bytes okToo
  exact ⟨bytes, ok, okToo, read, only (by decide) (alikeAgain.2 (by decide))⟩

/-- So a type that is too large is not refused like a value that is too long: what it is written as
stands for another dataset. -/
theorem toBytes_not_injective :
    ¬∀ (left right : Dataset) (bytes : Bytes), left.toBytes = .ok bytes →
      right.toBytes = .ok bytes → left.entries = right.entries := by
  intro always
  have same := always outsideOneByte withinOneByte [0, 3, 0, 0, 11, 255, 0] (by rfl) (by rfl)
  exact absurd same (by decide)

end ThreadHost.Dataset
