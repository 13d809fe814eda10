import ThreadHost.Proofs.Dataset.Records
import ThreadHost.Session.Operations
/-!
# Sending on what was read

Reading takes every length that a byte can hold, writing takes one less: the last length marks an
extended record. `toBytes_cases` says exactly when a dataset is written. Types that were read
always fit again, so a dataset that was read is written, sent to the device and read again as it
was, unless a record with the last length is among those it kept (`join_of_accepted`).
-/

namespace ThreadHost.Dataset

variable {dataset : Dataset} {entries : List (Int × Bytes)} {entry : Int × Bytes}

/-- An entry that is there after one was set is that one, or was there before. -/
theorem mem_setEntry {type : Int} {value : Bytes} (member : entry ∈ setEntry type value entries) :
    entry = (type, value) ∨ entry ∈ entries := by
  induction entries with
  | nil => exact .inl (List.mem_singleton.1 member)
  | cons other entries inductionHypothesis =>
    rw [setEntry] at member
    split at member
    · exact (List.mem_cons.1 member).imp_right (List.mem_cons_of_mem _)
    · rcases List.mem_cons.1 member with rfl | later
      · exact .inr List.mem_cons_self
      · exact (inductionHypothesis later).imp_right (List.mem_cons_of_mem _)

/-- Setting entries one after another brings in no others. -/
theorem mem_setAll (member : entry ∈ (dataset.setAll entries).entries) :
    entry ∈ dataset.entries ∨ entry ∈ entries := by
  induction entries generalizing dataset with
  | nil => exact .inl member
  | cons first entries inductionHypothesis =>
    rcases inductionHypothesis member with before | later
    · rcases mem_setEntry before with rfl | there
      · exact .inr List.mem_cons_self
      · exact .inl there
    · exact .inr (List.mem_cons_of_mem _ later)

/-- What a dataset that was read holds comes from records. -/
theorem exists_record_of_ofBytes {bytes : Bytes} (accepted : ofBytes bytes = .ok dataset)
    (member : entry ∈ dataset.entries) : ∃ record : Record, record.entry = entry := by
  obtain ⟨records, -, rfl⟩ := ofBytes_eq_ok_iff.1 accepted
  have origin : entry ∈ empty.entries ∨ entry ∈ records.map Record.entry := mem_setAll member
  rcases origin with none | inRecords
  · cases none
  · obtain ⟨record, -, same⟩ := List.mem_map.1 inRecords
    exact ⟨record, same⟩

/-- What is read from a hexadecimal text is read from bytes. -/
theorem exists_ofBytes_of_ofHex {text : String} (accepted : ofHex text = .ok dataset) :
    ∃ bytes, ofBytes bytes = .ok dataset := by
  unfold ofHex at accepted
  split at accepted
  · cases accepted
  · exact ⟨_, accepted⟩

/-- Records are written if no value is too long; otherwise the first that is too long is
refused. -/
theorem writeRecords_cases (entries : List (Int × Bytes)) :
    ((∀ entry ∈ entries, entry.2.length ≤ maxLength) ∧
      ∃ records, entries.mapM (fun entry => writeRecord entry.1 entry.2) = .ok records) ∨
    ∃ entry ∈ entries, maxLength < entry.2.length ∧
      entries.mapM (fun entry => writeRecord entry.1 entry.2) =
        .error (.longValue entry.1 entry.2.length) := by
  induction entries with
  | nil => exact .inl ⟨by simp, [], rfl⟩
  | cons first entries inductionHypothesis =>
    by_cases long : maxLength < first.2.length
    · refine .inr ⟨first, List.mem_cons_self, long, ?_⟩
      rw [List.mapM_cons, writeRecord, if_pos long]
      rfl
    · rcases inductionHypothesis with ⟨short, records, others⟩ | ⟨other, member, tooLong, refused⟩
      · refine .inl ⟨List.forall_mem_cons.2 ⟨Nat.le_of_not_lt long, short⟩, ?_⟩
        rw [List.mapM_cons, writeRecord, if_neg long, others]
        exact ⟨_, rfl⟩
      · refine .inr ⟨other, List.mem_cons_of_mem _ member, tooLong, ?_⟩
        rw [List.mapM_cons, writeRecord, if_neg long, refused]
        rfl

/-- A dataset is written if no value is too long, and otherwise refused for one that is. -/
theorem toBytes_cases (dataset : Dataset) :
    ((∀ entry ∈ dataset.entries, entry.2.length ≤ maxLength) ∧
      ∃ bytes, dataset.toBytes = .ok bytes) ∨
    ∃ entry ∈ dataset.entries, maxLength < entry.2.length ∧
      dataset.toBytes = .error (.longValue entry.1 entry.2.length) := by
  unfold toBytes
  rcases writeRecords_cases dataset.entries with
    ⟨short, records, written⟩ | ⟨entry, member, long, refused⟩
  · rw [written]
    exact .inl ⟨short, _, rfl⟩
  · rw [refused]
    exact .inr ⟨entry, member, long, rfl⟩

/-- A text is refused only for a value that is too long. -/
theorem toHex_eq_error {fault : Fault} (refused : dataset.toHex = .error fault) :
    ∃ entry ∈ dataset.entries, maxLength < entry.2.length ∧
      fault = .longValue entry.1 entry.2.length := by
  unfold toHex at refused
  rcases toBytes_cases dataset with ⟨-, bytes, written⟩ | ⟨entry, member, long, tooLong⟩
  · rw [written] at refused
    cases refused
  · rw [tooLong] at refused
    cases refused
    exact ⟨entry, member, long, rfl⟩

/-- A join whose dataset has a text runs its commands. -/
theorem perform_join {hex : String} (text : dataset.toHex = .ok hex) (session : Session) :
    (Session.join dataset).perform session =
      (Session.executeAll (Session.joinCommands hex)).perform
        { session with activeDataset := some dataset } := by
  simp [Session.join, Act.perform_bind, text, Session.ofDataset]

/-- A dataset that was read, from bytes or from text, and that has no value with the last length
is written and read again as it was, and a join sends it. If it has such a value, it is refused. -/
theorem join_of_accepted (dataset : Dataset)
    (accepted : (∃ bytes, ofBytes bytes = .ok dataset) ∨ ∃ text, ofHex text = .ok dataset) :
    ((∀ entry ∈ dataset.entries, entry.2.length ≠ 255) →
      ∃ bytes hex, dataset.toBytes = .ok bytes ∧ ofBytes bytes = .ok dataset ∧
        dataset.toHex = .ok hex ∧ ofHex hex = .ok dataset ∧
        ∀ session : Session, (Session.join dataset).perform session =
          (Session.executeAll (Session.joinCommands hex)).perform
            { session with activeDataset := some dataset }) ∧
      ((∃ entry ∈ dataset.entries, entry.2.length = 255) →
        ∃ type, dataset.toBytes = .error (.longValue type 255)) := by
  obtain ⟨bytes, read⟩ : ∃ bytes, ofBytes bytes = .ok dataset := by
    rcases accepted with fromBytes | ⟨text, fromText⟩
    · exact fromBytes
    · exact exists_ofBytes_of_ofHex fromText
  have fits : ∀ entry ∈ dataset.entries,
      0 ≤ entry.1 ∧ entry.1 ≤ 255 ∧ entry.2.length ≤ 255 := by
    intro entry member
    obtain ⟨record, rfl⟩ := exists_record_of_ofBytes read member
    have type := record.type.toNat_lt
    have value := record.fits
    simp only [Record.entry]
    omega
  constructor
  · intro noLast
    have short : ∀ entry ∈ dataset.entries,
        0 ≤ entry.1 ∧ entry.1 ≤ 255 ∧ entry.2.length ≤ maxLength := by
      intro entry member
      have other := noLast entry member
      obtain ⟨nonnegative, small, bound⟩ := fits entry member
      refine ⟨nonnegative, small, ?_⟩
      change entry.2.length ≤ 254
      omega
    obtain ⟨bytes, hex, written, text, again, fromText, -⟩ := round_trip_of_fit short
    exact ⟨bytes, hex, written, again, text, fromText, perform_join text⟩
  · rintro ⟨last, member, isLast⟩
    rcases toBytes_cases dataset with ⟨short, -⟩ | ⟨entry, inDataset, long, refused⟩
    · have tooLong := short last member
      rw [isLast] at tooLong
      exact absurd tooLong (by decide)
    · have bound := (fits entry inDataset).2.2
      have more : 254 < entry.2.length := long
      have whole : entry.2.length = 255 := by omega
      rw [whole] at refused
      exact ⟨entry.1, refused⟩

/-- A type that comes twice, and an empty value between. -/
def repeatedRecords : Bytes := [1, 1, 0xAA, 0, 0, 1, 2, 0xBE, 0xEF]

theorem join_of_accepted_repeatedRecords :
    ∃ dataset : Dataset, ofBytes repeatedRecords = .ok dataset ∧
      dataset.entries = [(1, [0xBE, 0xEF]), (0, [])] ∧
      ∃ bytes hex, dataset.toBytes = .ok bytes ∧ ofBytes bytes = .ok dataset ∧
        dataset.toHex = .ok hex ∧ ofHex hex = .ok dataset ∧
        ∀ session : Session, (Session.join dataset).perform session =
          (Session.executeAll (Session.joinCommands hex)).perform
            { session with activeDataset := some dataset } := by
  have read : ofBytes repeatedRecords = .ok ⟨[(1, [0xBE, 0xEF]), (0, [])], by decide⟩ := by rfl
  exact ⟨_, read, rfl, (join_of_accepted _ (.inl ⟨_, read⟩)).1 (by decide)⟩

/-- One record with the last length. -/
def lastLength : Record where
  type := 0
  value := List.replicate 255 0
  fits := by rw [List.length_replicate]; decide

/-- A record with the last length is read, and cannot be written. -/
theorem accepted_not_written_of_lastLength :
    ¬∀ (bytes : Bytes) (dataset : Dataset), ofBytes bytes = .ok dataset →
      ∃ written, dataset.toBytes = .ok written := by
  intro always
  have read : ofBytes (Record.join [lastLength]) = .ok (ofList [lastLength.entry]) :=
    ofBytes_eq_ok_iff.2 ⟨[lastLength], rfl, rfl⟩
  obtain ⟨written, ok⟩ := always _ _ read
  rcases toBytes_cases (ofList [lastLength.entry]) with ⟨short, -⟩ | ⟨entry, -, -, refused⟩
  · have entries : (ofList [lastLength.entry]).entries = [lastLength.entry] :=
      entries_ofList (by simp)
    rw [entries] at short
    have tooLong : lastLength.value.length ≤ maxLength := short lastLength.entry List.mem_cons_self
    rw [lastLength, List.length_replicate] at tooLong
    exact absurd tooLong (by decide)
  · cases refused.symm.trans ok

end ThreadHost.Dataset
