import ThreadHost.Config.Basic
import ThreadHost.Proofs.Dataset.Accepted
import ThreadHost.Proofs.Text.Readers
import ThreadHost.Proofs.Text.Utf8
/-!
# Datasets that are built

A dataset that is built has its eight records in order, each of them short enough to be written. So
it has a text, and its mesh-local prefix is of use (`Dataset.Draft.of_build_ok`).
-/

namespace ThreadHost

/-- An integer is written on the width that it is given. -/
theorem Bytes.length_ofInteger {width : Nat} {value : Int} {bytes : Bytes}
    (written : Bytes.ofInteger width value = .ok bytes) : bytes.length = width := by
  unfold Bytes.ofInteger at written
  split at written
  · cases written
  · split at written
    · cases written
    · cases written
      simp [Bytes.ofNumber]

namespace Dataset

variable {draft : Draft} {dataset : Dataset}

/-- What a dataset that was built is made of. -/
theorem Draft.of_build_ok (built : draft.build = .ok dataset) :
    ∃ network timestamp channel panId, draft.mesh = .ok network ∧
      draft.timestamp = .ok timestamp ∧ draft.channel = .ok channel ∧ draft.panId = .ok panId ∧
      (Text.Utf8.encode draft.networkName.toList).length ≤ 16 ∧ draft.extendedPanId.length = 8 ∧
      draft.networkKey.length = 16 ∧
      dataset.entries = [
        (RecordType.activeTimestamp.code, timestamp),
        (RecordType.channel.code, 0 :: channel),
        (RecordType.extendedPanId.code, draft.extendedPanId),
        (RecordType.meshLocalPrefix.code, Bytes.ofNumber 8 (network.address.value / Nat.pow 2 64)),
        (RecordType.networkKey.code, draft.networkKey),
        (RecordType.networkName.code, Text.Utf8.encode draft.networkName.toList),
        (RecordType.panId.code, panId),
        (RecordType.securityPolicy.code, defaultSecurityPolicy)] := by
  unfold Draft.build at built
  simp only at built
  split at built
  case isTrue => cases built
  case isFalse name =>
    split at built
    case isTrue => cases built
    case isFalse extended =>
      split at built
      case isTrue => cases built
      case isFalse key =>
        obtain ⟨network, mesh, built⟩ := Text.bind_eq_ok_iff.1 built
        obtain ⟨timestamp, stamped, built⟩ := Text.bind_eq_ok_iff.1 built
        obtain ⟨channel, tuned, built⟩ := Text.bind_eq_ok_iff.1 built
        obtain ⟨panId, named, built⟩ := Text.bind_eq_ok_iff.1 built
        cases built
        exact ⟨network, timestamp, channel, panId, mesh, stamped, tuned, named,
          (not_not.1 name).2, not_not.1 extended, not_not.1 key,
          entries_ofList (by simp [RecordType.code])⟩

/-- The numbers of a draft have the widths of their records. -/
structure Draft.Aligned (draft : Draft) : Prop where
  timestamp : ∀ bytes, draft.timestamp = .ok bytes → bytes.length = 8
  channel : ∀ bytes, draft.channel = .ok bytes → bytes.length = 2
  panId : ∀ bytes, draft.panId = .ok bytes → bytes.length = 2

/-- The records of a dataset that was built can be written, and read again. -/
theorem Draft.entries_fit (aligned : draft.Aligned) (built : draft.build = .ok dataset) :
    ∀ entry ∈ dataset.entries, 0 ≤ entry.1 ∧ entry.1 ≤ 255 ∧ entry.2.length ≤ maxLength := by
  obtain ⟨network, timestamp, channel, panId, -, stamped, tuned, named, name, extended, key,
    entries⟩ := of_build_ok built
  have stampedLength := aligned.timestamp _ stamped
  have tunedLength := aligned.channel _ tuned
  have namedLength := aligned.panId _ named
  have limit : maxLength = 254 := rfl
  rw [entries]
  simp only [List.forall_mem_cons, List.not_mem_nil, false_implies, implies_true, and_true,
    RecordType.code, List.length_cons, Bytes.ofNumber, List.length_map, List.length_range,
    defaultSecurityPolicy, List.length_nil]
  omega

/-- A dataset that was built shows its name. -/
theorem networkName_of_build (built : draft.build = .ok dataset) :
    dataset.networkName = some draft.networkName := by
  obtain ⟨_, _, _, _, -, -, -, -, -, -, -, entries⟩ := Draft.of_build_ok built
  have stored : dataset.get? RecordType.networkName.code =
      some (Text.Utf8.encode draft.networkName.toList) := by
    rw [get?, entries]
    rfl
  simp [networkName, stored, Text.Utf8.decodeLossy_encode]

/-- A dataset whose mesh-local prefix has eight bytes, if it is there, is of use. -/
theorem exists_meshLocalPrefix
    (eight : ∀ value, dataset.get? RecordType.meshLocalPrefix.code = some value →
      value.length = 8) : ∃ mesh, dataset.meshLocalPrefix = .ok mesh := by
  unfold Dataset.meshLocalPrefix
  cases present : dataset.get? RecordType.meshLocalPrefix.code with
  | none => exact ⟨none, rfl⟩
  | some value => exact ⟨_, if_pos (eight value present)⟩

end Dataset

namespace NetworkSettings

/-- A number of the settings takes two bytes. -/
theorem length_numberBytes {setting : Setting Int} {bytes : Bytes}
    (written : numberBytes setting = .ok bytes) : bytes.length = 2 := by
  unfold numberBytes at written
  split at written
  · exact Bytes.length_ofInteger written
  · cases written

/-- A timestamp of the settings takes eight bytes. -/
theorem length_timestampBytes {setting : Setting Int} {bytes : Bytes}
    (written : timestampBytes setting = .ok bytes) : bytes.length = 8 := by
  unfold timestampBytes at written
  split at written
  · exact Bytes.length_ofInteger written
  · cases written

/-- What the dataset of a network in the settings is built from. -/
theorem of_toDataset_ok {network : NetworkSettings} {timestamp : Setting Int} {dataset : Dataset}
    (answered : network.toDataset timestamp = .ok dataset) :
    ∃ draft : Dataset.Draft, draft.build = .ok dataset ∧ draft.Aligned ∧
      network.networkName = .proper draft.networkName := by
  unfold toDataset at answered
  obtain ⟨extendedPanId, -, answered⟩ := Text.bind_eq_ok_iff.1 answered
  obtain ⟨networkKey, -, answered⟩ := Text.bind_eq_ok_iff.1 answered
  obtain ⟨networkName, named, built⟩ := Text.bind_eq_ok_iff.1 answered
  refine ⟨_, built, ⟨fun _ => length_timestampBytes, fun _ => length_numberBytes,
    fun _ => length_numberBytes⟩, ?_⟩
  cases given : network.networkName with
  | proper value =>
    rw [given] at named
    cases named
    rfl
  | stray datum =>
    rw [given] at named
    cases named

/-- The dataset of a network in the settings has a text, and its mesh-local prefix is of use. -/
theorem usable_of_toDataset {network : NetworkSettings} {timestamp : Setting Int}
    {dataset : Dataset} (answered : network.toDataset timestamp = .ok dataset) :
    (∃ hex, dataset.toHex = .ok hex) ∧ ∃ mesh, dataset.meshLocalPrefix = .ok mesh := by
  obtain ⟨draft, built, aligned, -⟩ := of_toDataset_ok answered
  constructor
  · obtain ⟨-, hex, -, text, -⟩ := Dataset.round_trip_of_fit (Dataset.Draft.entries_fit aligned built)
    exact ⟨hex, text⟩
  · obtain ⟨mesh, _, _, _, -, -, -, -, -, -, -, entries⟩ := Dataset.Draft.of_build_ok built
    apply Dataset.exists_meshLocalPrefix
    intro value present
    rw [Dataset.get?, entries] at present
    have bytes : Bytes.ofNumber 8 (mesh.address.value / Nat.pow 2 64) = value := by
      simpa [RecordType.code] using present
    rw [← bytes]
    simp [Bytes.ofNumber]

/-- The dataset of a network in the settings has the name that is set. -/
theorem networkName_of_toDataset {network : NetworkSettings} {timestamp : Setting Int}
    {dataset : Dataset} (answered : network.toDataset timestamp = .ok dataset) :
    ∃ name, network.networkName = .proper name ∧ dataset.networkName = some name := by
  obtain ⟨draft, built, -, named⟩ := of_toDataset_ok answered
  exact ⟨draft.networkName, named, Dataset.networkName_of_build built⟩

end NetworkSettings

end ThreadHost
