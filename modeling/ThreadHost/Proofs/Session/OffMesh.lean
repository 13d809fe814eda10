import ThreadHost.Proofs.Address.Bits
import ThreadHost.Proofs.Dataset.Built
import ThreadHost.Proofs.Session.Reference
import ThreadHost.Session.Operations
/-!
# The choice of an off-mesh-routable address

The reference knows nothing of networks and masks: among the lines that the device lists, it looks
for the first one that decides, which is one that is no address, or an address whose leading bits
are neither those of link-local addresses nor the mesh-local prefix of the dataset. The operation
makes the same choice, and asks the device only if it has a dataset whose prefix is of use.
-/

namespace ThreadHost.Session

open Address (Ipv6)

/-- The address on a line, or what is wrong with it. -/
def listed (line : String) : Except Address.Fault Ipv6 := Ipv6.parse (Text.Blank.strip line)

/-- An address that does not begin with the ten bits of link-local addresses, nor with the bits of
the mesh-local prefix that is in the dataset. -/
def Qualifies (dataset : Dataset) (address : Ipv6) : Prop :=
  address.bits.take 10 ≠ Ipv6.linkLocalBits ∧
    ∀ value ∈ dataset.get? RecordType.meshLocalPrefix.code, address.bits.take 64 ≠ Bytes.bits value

instance (dataset : Dataset) (address : Ipv6) : Decidable (Qualifies dataset address) :=
  inferInstanceAs (Decidable (_ ∧ _))

/-- A line that is no address, or one that qualifies. -/
def decides (dataset : Dataset) (line : String) : Bool :=
  match listed line with
  | .error _ => true
  | .ok address => decide (Qualifies dataset address)

/-- The choice among the lines that a device lists. -/
def selection (dataset : Dataset) (lines : List String) : Except Failure (Option Ipv6) :=
  match lines.find? (decides dataset) with
  | none => .ok none
  | some line =>
    match listed line with
    | .error fault =>
      .error (.deviceError "ipaddr" (some line)
        (some ("invalid IPv6 address: " ++ Text.Quoted.quote line)) (some (.address fault)))
    | .ok address => .ok (some address)

variable {dataset : Dataset} {mesh : Option Address.Network}

/-- With a prefix of use, an address is off the mesh if it qualifies. -/
theorem isOffMesh_iff (usable : dataset.meshLocalPrefix = .ok mesh) {address : Ipv6}
    (fits : address.Fits) : isOffMesh mesh address = true ↔ Qualifies dataset address := by
  have linkLocal := Ipv6.isLinkLocal_iff fits
  unfold Dataset.meshLocalPrefix at usable
  unfold isOffMesh Qualifies
  cases present : dataset.get? RecordType.meshLocalPrefix.code with
  | none =>
    rw [present] at usable
    cases usable
    simp [← linkLocal]
  | some value =>
    rw [present] at usable
    simp only at usable
    split at usable
    case isFalse => cases usable
    case isTrue eight =>
      cases usable
      have inside := Ipv6.contains_iff fits eight
      simp [← linkLocal, ← inside]

/-- The search is the choice of the reference, by induction on the lines. -/
theorem firstOffMesh_eq_selection (usable : dataset.meshLocalPrefix = .ok mesh)
    (lines : List String) : firstOffMesh mesh lines = selection dataset lines := by
  induction lines with
  | nil => rfl
  | cons line lines inductionHypothesis =>
    rw [firstOffMesh, selection, List.find?_cons, decides, listed]
    cases read : Ipv6.parse (Text.Blank.strip line) with
    | error fault => simp [listed, read]
    | ok address =>
      have same := isOffMesh_iff usable (Ipv6.parse_fits read)
      by_cases qualifies : Qualifies dataset address
      · simp [same.2 qualifies, qualifies, listed, read]
      · have onMesh : isOffMesh mesh address = false := by
          rw [← Bool.not_eq_true, same]
          exact qualifies
        simp [onMesh, qualifies, inductionHypothesis, selection]

/-- Without a dataset there is no answer, and with a mesh-local prefix that has not eight bytes the
dataset is rejected, both without a word to the device. Otherwise the device is asked for its
addresses, and the outcome is the choice of the reference among the lines of its answer. -/
theorem getOffMeshAddress_selects (given : Option Dataset) (session : Session) :
    (given.or session.activeDataset = none →
      (getOffMeshAddress given).perform session = (.ok none, session)) ∧
    ∀ dataset, given.or session.activeDataset = some dataset →
      (∀ value ∈ dataset.get? RecordType.meshLocalPrefix.code, value.length ≠ 8 →
        (getOffMeshAddress given).perform session =
          (.error (.plain (.dataset (.meshBytes value.length))), session)) ∧
      ((∀ value ∈ dataset.get? RecordType.meshLocalPrefix.code, value.length = 8) →
        (getOffMeshAddress given).perform session =
          match getAddresses.perform session with
          | (.ok lines, after) => (selection dataset lines, after)
          | (.error failure, after) => (.error failure, after)) := by
  refine ⟨fun unknown => ?_, fun dataset known => ⟨fun value present length => ?_, fun eight => ?_⟩⟩
  · rw [getOffMeshAddress, Act.perform_bind, Act.perform_get]
    simp only [unknown]
    rfl
  · have rejected : dataset.meshLocalPrefix = .error (.meshBytes value.length) := by
      simp [Dataset.meshLocalPrefix, Option.mem_def.1 present, length]
    rw [getOffMeshAddress, Act.perform_bind, Act.perform_get]
    simp only [known, rejected]
    rfl
  · obtain ⟨mesh, usable⟩ := Dataset.exists_meshLocalPrefix eight
    rw [getOffMeshAddress, Act.perform_bind, Act.perform_get]
    simp only [known, usable, ofDataset, Act.perform_bind, Act.perform_pure]
    rcases getAddresses.perform session with ⟨failure | lines, after⟩
    · rfl
    · simp only [firstOffMesh_eq_selection usable]
      cases selection dataset lines <;> rfl

/-- A dataset with a mesh-local prefix of so many bytes. -/
def withPrefix (value : Bytes) : Dataset := ⟨[(RecordType.meshLocalPrefix.code, value)], by simp⟩

/-- A device that lists an address of each kind, the last one behind blanks. -/
def listing : Session :=
  onOutput (Text.Utf8.encode "fe80::1\nfd00:1234::5\n 2001:db8::5\nDone\n".toList) []

/-- The address of the third line is chosen. A prefix of one byte is rejected, and without a dataset
there is no address. -/
theorem getOffMeshAddress_selects_listing :
    ((getOffMeshAddress (some (withPrefix [0xFD, 0, 0x12, 0x34, 0, 0, 0, 0]))).perform listing).1 =
        .ok (some ⟨0x20010DB8000000000000000000000005, none⟩) ∧
      (getOffMeshAddress (some (withPrefix [0xFD]))).perform listing =
        (.error (.plain (.dataset (.meshBytes 1))), listing) ∧
      (getOffMeshAddress none).perform listing = (.ok none, listing) := by
  refine ⟨?_, ?_, (getOffMeshAddress_selects none listing).1 rfl⟩
  · have chosen := ((getOffMeshAddress_selects
      (some (withPrefix [0xFD, 0, 0x12, 0x34, 0, 0, 0, 0])) listing).2 _ rfl).2 (by decide)
    rw [chosen]
    decide +kernel
  · exact ((getOffMeshAddress_selects (some (withPrefix [0xFD])) listing).2 _ rfl).1 [0xFD]
      (by decide) (by decide)

end ThreadHost.Session
