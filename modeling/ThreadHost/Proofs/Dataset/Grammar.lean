import Mathlib.Data.List.Induction
import ThreadHost.Failure
import ThreadHost.Proofs.Dataset.Records
/-!
# The grammar of datasets

A byte sequence is divided into records from its front in one way only, and the division stops at
its end or where no record fits (`division_unique`). Reading accepts a sequence exactly if the
division reaches the end. The dataset then has the types in the order of their first records with
the values of their last ones; otherwise the fault says where the division stops and what is missing
there (`ofBytes_grammar`).
-/

namespace ThreadHost.Dataset

variable {dataset : Dataset} {records others : List Record} {rest left bytes : Bytes}
  {fault : Fault} {offset bound : Nat}

namespace Record

/-- The types of some records, in the order of their first records. -/
def types (records : List Record) : List Int :=
  (records.map fun record => (record.type.toNat : Int)).eraseDups

/-- The value of the last record of a type, if there is one. -/
def lastValue? (records : List Record) (type : Int) : Option Bytes :=
  (records.filter fun record => (record.type.toNat : Int) = type).getLast?.map Record.value

/-- A record behind the others changes the last value of its own type only. -/
theorem lastValue?_append (records : List Record) (record : Record) (type : Int) :
    lastValue? (records ++ [record]) type =
      if (record.type.toNat : Int) = type then some record.value else lastValue? records type := by
  unfold lastValue?
  rw [List.filter_append]
  by_cases same : (record.type.toNat : Int) = type
  · simp [same]
  · simp [same]

/-- A record behind the others brings its type in, unless it is there. -/
theorem types_append (records : List Record) (record : Record) :
    types (records ++ [record]) =
      if (record.type.toNat : Int) ∈ types records then types records
      else types records ++ [(record.type.toNat : Int)] := by
  unfold types
  rw [List.map_append, List.map_singleton]
  generalize records.map (fun record => (record.type.toNat : Int)) = known
  rw [List.eraseDups_append, List.removeAll]
  by_cases there : (record.type.toNat : Int) ∈ known
  · simp [List.mem_eraseDups, there]
  · simp [List.mem_eraseDups, there, List.eraseDups_cons]

/-- Two records that stand at the front of the same bytes are one, with the same bytes behind. -/
theorem eq_of_bytes_append {record other : Record}
    (same : record.bytes ++ rest = other.bytes ++ left) : record = other ∧ rest = left := by
  simp only [bytes, List.cons_append, List.cons.injEq] at same
  obtain ⟨type, length, values⟩ := same
  have lengths : record.value.length = other.value.length := by
    rw [← record.toNat_length, ← other.toNat_length, length]
  obtain ⟨value, behind⟩ := List.append_inj values lengths
  refine ⟨?_, behind⟩
  cases record
  cases other
  cases type
  cases value
  rfl

end Record

/-- Setting a type gives it a value, and no other type. -/
theorem get?_set (dataset : Dataset) (type other : Int) (value : Bytes) :
    (dataset.set type value).get? other =
      if type = other then some value else dataset.get? other := by
  obtain ⟨entries, distinct⟩ := dataset
  simp only [get?, set]
  clear distinct
  induction entries with
  | nil => by_cases same : type = other <;> simp [setEntry, same]
  | cons entry entries inductionHypothesis =>
    by_cases here : entry.1 = type
    · by_cases same : type = other <;> simp [setEntry, here, same]
    · by_cases found : entry.1 = other
      · have differ : ¬other = type := fun same => here (found.trans same)
        simp [setEntry, found, differ, Ne.symm differ]
      · simpa [setEntry, here, found] using inductionHypothesis

/-- Setting one entry more comes last. -/
theorem ofList_append (entries : List (Int × Bytes)) (entry : Int × Bytes) :
    ofList (entries ++ [entry]) = (ofList entries).set entry.1 entry.2 :=
  List.foldl_append

/-- Records that are set one after another leave each type at the place of its first record. -/
theorem keys_ofRecords (records : List Record) :
    (ofList (records.map Record.entry)).entries.map Prod.fst = Record.types records := by
  induction records using List.reverseRecOn with
  | nil => rfl
  | append_singleton records record inductionHypothesis =>
    rw [List.map_append, List.map_singleton, ofList_append, Record.types_append,
      ← inductionHypothesis]
    exact keys_setEntry _ _ _

/-- Records that are set one after another leave each type with the value of its last record. -/
theorem get?_ofRecords (records : List Record) (type : Int) :
    (ofList (records.map Record.entry)).get? type = Record.lastValue? records type := by
  induction records using List.reverseRecOn with
  | nil => rfl
  | append_singleton records record inductionHypothesis =>
    rw [List.map_append, List.map_singleton, ofList_append, Record.lastValue?_append,
      ← inductionHypothesis]
    exact get?_set _ _ _ _

/-- No record stands at the front of these bytes. -/
def Unfit (rest : Bytes) : Prop := ∀ (record : Record) (more : Bytes), rest ≠ record.bytes ++ more

/-- What is wrong with bytes at an offset at which no record fits: there is a single byte, or fewer
bytes than the length announces. -/
inductive Misfit (offset : Nat) : Bytes → Fault → Prop where
  | header (type : UInt8) : Misfit offset [type] (.shortHeader offset)
  | value {type length : UInt8} {rest : Bytes} (short : rest.length < length.toNat) :
      Misfit offset (type :: length :: rest)
        (.shortValue type.toNat offset length.toNat rest.length)

/-- At the end there is no record. -/
theorem unfit_nil : Unfit [] := by
  intro record more same
  cases same

/-- Where something is wrong there is no record. -/
theorem Misfit.unfit (misfit : Misfit offset rest fault) : Unfit rest := by
  intro record more same
  cases misfit with
  | header type => simp [Record.bytes] at same
  | value short =>
    simp only [Record.bytes, List.cons_append, List.cons.injEq] at same
    obtain ⟨-, rfl, rfl⟩ := same
    rw [record.toNat_length, List.length_append] at short
    omega

/-- A byte sequence is divided in one way into records and bytes at whose front no record stands. -/
theorem division_unique (same : Record.join records ++ rest = Record.join others ++ left)
    (stops : Unfit rest) (stopsToo : Unfit left) : records = others ∧ rest = left := by
  induction records generalizing others with
  | nil =>
    cases others with
    | nil => exact ⟨rfl, same⟩
    | cons other others =>
      rw [Record.join_cons, List.append_assoc] at same
      exact absurd same (stops other _)
  | cons record records inductionHypothesis =>
    cases others with
    | nil =>
      rw [Record.join_cons, List.append_assoc] at same
      exact absurd same.symm (stopsToo record _)
    | cons other others =>
      rw [Record.join_cons, Record.join_cons, List.append_assoc, List.append_assoc] at same
      obtain ⟨rfl, behind⟩ := Record.eq_of_bytes_append same
      obtain ⟨rfl, sameRest⟩ := inductionHypothesis behind
      exact ⟨rfl, sameRest⟩

/-- Reading that fails has read records up to bytes with which something is wrong. -/
theorem exists_misfit_of_readRecords (enough : bytes.length ≤ bound)
    (refused : readRecords dataset offset bound bytes = .error fault) :
    ∃ records rest, bytes = Record.join records ++ rest ∧
      Misfit (offset + (Record.join records).length) rest fault := by
  fun_induction readRecords dataset offset bound bytes with
  | case1 => cases refused
  | case2 dataset offset bound type =>
    cases refused
    exact ⟨[], [type], rfl, .header type⟩
  | case3 dataset offset bytes none single =>
    cases bytes with
    | nil => exact absurd rfl none
    | cons byte bytes => simp at enough
  | case4 dataset offset bound type length rest short =>
    cases refused
    exact ⟨[], type :: length :: rest, rfl, .value short⟩
  | case5 dataset offset bound type length rest whole inductionHypothesis =>
    have fewer : (rest.drop length.toNat).length ≤ bound := by
      simp only [List.length_cons, List.length_drop] at enough ⊢
      omega
    obtain ⟨records, left, divided, misfit⟩ := inductionHypothesis fewer refused
    have count : (rest.take length.toNat).length = length.toNat := by
      rw [List.length_take]
      omega
    have fits : (rest.take length.toNat).length < 256 := by
      rw [count]
      exact length.toNat_lt
    let record : Record := ⟨type, rest.take length.toNat, fits⟩
    have bytes : record.bytes = type :: length :: rest.take length.toNat := by
      simp only [record, Record.bytes, count, UInt8.ofNat_toNat]
    refine ⟨record :: records, left, ?_, ?_⟩
    · rw [Record.join_cons, List.append_assoc, ← divided, bytes]
      simp
    · have position : offset + (Record.join (record :: records)).length =
          offset + 2 + length.toNat + (Record.join records).length := by
        rw [Record.join_cons, List.length_append, bytes]
        simp only [List.length_cons, count]
        omega
      rw [position]
      exact misfit

/-- A fault of reading is a rejected value. -/
theorem Misfit.isRejection (misfit : Misfit offset rest fault) :
    (Failure.plain (.dataset fault)).isRejection = true := by
  cases misfit <;> rfl

/-- The numbers that a fault of reading is about: the offset, and the bytes that are needed and
available there. -/
def Fault.places : Fault → List Nat
  | .shortHeader offset => [offset]
  | .shortValue _ offset needed available => [offset, needed, available]
  | _ => []

/-- A text shows what it is put together from. -/
theorem infix_append (before text behind : String) :
    text.toList <:+: (before ++ text ++ behind).toList :=
  ⟨before.toList, behind.toList, by rw [String.toList_append, String.toList_append]⟩

/-- The wording of a fault of reading shows its numbers. -/
theorem Misfit.named (misfit : Misfit offset rest fault) :
    ∀ number ∈ fault.places, (toString number).toList <:+: fault.message.toList := by
  cases misfit with
  | header type =>
    have wording : (Fault.shortHeader offset).message =
        "Truncated TLV header at offset " ++ toString offset ++ "" :=
      (String.append_empty ..).symm
    rw [wording]
    exact List.forall_mem_singleton.2 (infix_append _ _ _)
  | @value type length rest short =>
    have wording : (Fault.shortValue type.toNat offset length.toNat rest.length).message =
        "TLV type " ++ toString type.toNat ++ " at offset " ++ toString offset ++ " needs " ++
          toString length.toNat ++ " bytes, " ++ toString rest.length ++ " available" := rfl
    rw [wording]
    generalize "TLV type " ++ toString type.toNat ++ " at offset " = before
    refine List.forall_mem_cons.2 ⟨?_, List.forall_mem_cons.2 ⟨?_, ?_⟩⟩
    · simp only [String.append_assoc]
      rw [← String.append_assoc]
      exact infix_append _ _ _
    · rw [String.append_assoc, String.append_assoc]
      exact infix_append _ _ _
    · exact List.forall_mem_singleton.2 (infix_append _ _ _)

/-- Reading accepts a byte sequence exactly if it is divided into records. There is no other
division of it then, and the dataset has the types of the records in the order of their first
occurrence, each with the value of its last record. A sequence that is not divided into records is
refused: behind the records at its front, and no others can be there, stand bytes with which
something is wrong, and the fault tells what, at this offset. -/
theorem ofBytes_grammar (bytes : Bytes) :
    ((∃ dataset, ofBytes bytes = .ok dataset) ↔ ∃ records, bytes = Record.join records) ∧
    (∀ records, bytes = Record.join records →
      (∀ others, bytes = Record.join others → others = records) ∧
      ∃ dataset, ofBytes bytes = .ok dataset ∧
        dataset.entries.map Prod.fst = Record.types records ∧
        ∀ type, dataset.get? type = Record.lastValue? records type) ∧
    ((¬∃ records, bytes = Record.join records) →
      ∃ records rest fault, bytes = Record.join records ++ rest ∧
        (∀ others left, bytes = Record.join others ++ left → Unfit left →
          others = records ∧ left = rest) ∧
        Misfit (Record.join records).length rest fault ∧ ofBytes bytes = .error fault ∧
        (Failure.plain (.dataset fault)).isRejection = true ∧
        ∀ number ∈ fault.places, (toString number).toList <:+: fault.message.toList) := by
  refine ⟨?_, ?_, ?_⟩
  · constructor
    · rintro ⟨dataset, accepted⟩
      obtain ⟨records, divided, -⟩ := ofBytes_eq_ok_iff.1 accepted
      exact ⟨records, divided⟩
    · rintro ⟨records, divided⟩
      exact ⟨_, ofBytes_eq_ok_iff.2 ⟨records, divided, rfl⟩⟩
  · rintro records rfl
    refine ⟨fun others same => ?_, _, ofBytes_eq_ok_iff.2 ⟨records, rfl, rfl⟩,
      keys_ofRecords records, get?_ofRecords records⟩
    have divisions : Record.join others ++ [] = Record.join records ++ [] := by
      rw [List.append_nil, List.append_nil, same]
    exact (division_unique divisions unfit_nil unfit_nil).1
  · intro undivided
    cases result : ofBytes bytes with
    | ok dataset =>
      obtain ⟨records, divided, -⟩ := ofBytes_eq_ok_iff.1 result
      exact absurd ⟨records, divided⟩ undivided
    | error fault =>
      obtain ⟨records, rest, divided, misfit⟩ :=
        exists_misfit_of_readRecords (Nat.le_refl bytes.length) result
      rw [Nat.zero_add] at misfit
      refine ⟨records, rest, fault, divided, fun others left other stops => ?_, misfit, rfl,
        misfit.isRejection, misfit.named⟩
      exact division_unique (other.symm.trans divided) stops misfit.unfit

/-- A type that comes twice, with another between. -/
def recurringRecords : List Record :=
  [⟨1, [0xAA], Nat.le_of_ble_eq_true rfl⟩, ⟨0, [], Nat.le_of_ble_eq_true rfl⟩,
    ⟨1, [0xBE, 0xEF], Nat.le_of_ble_eq_true rfl⟩]

/-- These records, and a record behind them that announces three bytes and has one. -/
theorem ofBytes_grammar_recurringRecords :
    (∃ dataset, ofBytes (Record.join recurringRecords) = .ok dataset ∧
      dataset.entries.map Prod.fst = [1, 0] ∧ dataset.get? 1 = some [0xBE, 0xEF]) ∧
    (¬∃ records, Record.join recurringRecords ++ [53, 3, 7] = Record.join records) ∧
    ∃ fault, ofBytes (Record.join recurringRecords ++ [53, 3, 7]) = .error fault ∧
      fault = .shortValue 53 9 3 1 ∧ (Failure.plain (.dataset fault)).isRejection = true := by
  have refused : ofBytes (Record.join recurringRecords ++ [53, 3, 7]) =
      .error (.shortValue 53 9 3 1) := by rfl
  have undivided : ¬∃ records, Record.join recurringRecords ++ [53, 3, 7] =
      Record.join records := by
    intro divided
    obtain ⟨dataset, accepted⟩ := (ofBytes_grammar _).1.2 divided
    cases refused.symm.trans accepted
  obtain ⟨-, dataset, accepted, types, values⟩ := (ofBytes_grammar _).2.1 recurringRecords rfl
  obtain ⟨-, -, fault, -, -, -, result, rejection, -⟩ := (ofBytes_grammar _).2.2 undivided
  exact ⟨⟨dataset, accepted, types, values 1⟩, undivided, fault, result,
    Except.error.inj (result.symm.trans refused), rejection⟩

end ThreadHost.Dataset
