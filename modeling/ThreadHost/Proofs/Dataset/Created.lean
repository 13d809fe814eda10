import ThreadHost.Failure
import ThreadHost.Proofs.Address.Bits
import ThreadHost.Proofs.Dataset.Built
import ThreadHost.Proofs.Text.Utf8
/-!
# Parameters there and back

A dataset that is created from parameters survives the way to the device and back, and its fields
show the parameters as they were given (`create_readsBack`). Whether there is a dataset at all
depends on two things that are checked one after the other: lengths and prefix, whose faults are
rejected values, and behind them the widths of the numbers, whose faults are of another kind
(`create_outcome`).
-/

namespace ThreadHost

namespace Bytes

/-- What is wrong with an integer that has to fit some bits. -/
def misfit? (bits : Nat) (value : Int) : Option Dataset.Fault :=
  if value < 0 then some .numberNegative
  else if Nat.pow 2 bits ≤ value.toNat then some .numberTooBig
  else none

/-- An integer is written exactly if it fits the bits of the width. -/
theorem ofInteger_eq (width : Nat) (value : Int) :
    ofInteger width value =
      match misfit? (8 * width) value with
      | some fault => .error fault
      | none => .ok (ofNumber width value.toNat) := by
  have bits : Nat.pow 2 (8 * width) = Nat.pow 256 width := Nat.pow_mul 2 8 width
  unfold ofInteger misfit?
  rw [bits]
  split
  · rfl
  · split <;> rfl

/-- Bytes that an integer was written as stand for it. -/
theorem toNumber_ofInteger {width : Nat} {value : Int} {bytes : Bytes}
    (written : ofInteger width value = .ok bytes) : (toNumber bytes : Int) = value := by
  unfold ofInteger at written
  split at written
  case isTrue => cases written
  case isFalse nonnegative =>
    split at written
    case isTrue => cases written
    case isFalse fits =>
      cases written
      rw [toNumber_ofNumber, Nat.mod_eq_of_lt (not_le.1 fits)]
      omega

end Bytes

namespace Dataset

variable {parameters : Parameters} {dataset : Dataset}

/-! ## What a dataset shows -/

/-- The fields of a dataset show the parameters. -/
structure Shows (parameters : Parameters) (dataset : Dataset) : Prop where
  networkName : dataset.networkName = some parameters.networkName
  channel : dataset.channel.map Int.ofNat = some parameters.channel
  panId : dataset.panId.map Int.ofNat = some parameters.panId
  extendedPanId : dataset.extendedPanId = some parameters.extendedPanId
  networkKey : dataset.networkKey = some parameters.networkKey

/-- A dataset that was created shows its parameters. -/
theorem shows_of_create (created : create parameters = .ok dataset) : Shows parameters dataset := by
  obtain ⟨_, _, channelBytes, panIdBytes, -, -, tuned, named, -, -, -, entries⟩ :=
    Draft.of_build_ok created
  have value (type : RecordType) : dataset.get? type.code =
      (dataset.entries.find? (·.1 = type.code)).map Prod.snd := rfl
  rw [entries] at value
  constructor
  · exact networkName_of_build created
  · have stored : dataset.get? RecordType.channel.code = some (0 :: channelBytes) := value .channel
    have whole : channelBytes.take 2 = channelBytes :=
      List.take_of_length_le (Bytes.length_ofInteger tuned).le
    simp [channel, stored, whole, Bytes.toNumber_ofInteger tuned]
  · have stored : dataset.get? RecordType.panId.code = some panIdBytes := value .panId
    have two := Bytes.length_ofInteger named
    have number := Bytes.toNumber_ofInteger named
    cases panIdBytes with
    | nil => cases two
    | cons first others => simp [panId, stored, number]
  · exact value .extendedPanId
  · exact value .networkKey

/-- A prefix that is taken is a network of 64 bits. -/
theorem of_parseMeshLocalPrefix {text : String} {network : Address.Network}
    (taken : parseMeshLocalPrefix text = .ok network) :
    Address.Network.parse text = .ok network ∧ network.length = 64 := by
  unfold parseMeshLocalPrefix requireMeshLength at taken
  split at taken
  case h_1 => cases taken
  case h_2 given parsed =>
    split at taken
    case isFalse => cases taken
    case isTrue length =>
      cases taken
      exact ⟨parsed, length⟩

/-- The mesh-local prefix of a dataset that was created begins like the network that was given. -/
theorem mesh_of_create (created : create parameters = .ok dataset) :
    ∃ given mesh, Address.Network.parse parameters.meshLocalPrefix = .ok given ∧
      dataset.meshLocalPrefix = .ok (some mesh) ∧ mesh.length = 64 ∧
      mesh.address.bits.take 64 = given.address.bits.take 64 := by
  obtain ⟨given, _, _, _, taken, -, -, -, -, -, -, entries⟩ := Draft.of_build_ok created
  obtain ⟨parsed, -⟩ := of_parseMeshLocalPrefix taken
  have upper : given.address.value / Nat.pow 2 64 < Nat.pow 256 8 :=
    Nat.div_lt_of_lt_mul (Address.Network.parse_fits parsed)
  have stored : dataset.get? RecordType.meshLocalPrefix.code =
      some (Bytes.ofNumber 8 (given.address.value / Nat.pow 2 64)) := by
    rw [get?, entries]
    rfl
  have eight : (Bytes.ofNumber 8 (given.address.value / Nat.pow 2 64)).length = 8 := by
    simp [Bytes.ofNumber]
  refine ⟨given, ⟨⟨given.address.value / Nat.pow 2 64 * Nat.pow 2 64, none⟩, 64⟩, parsed, ?_, rfl,
    ?_⟩
  · rw [meshLocalPrefix, stored]
    simp only [eight, if_true, Bytes.toNumber_ofNumber, Nat.mod_eq_of_lt upper]
  · rw [Address.Ipv6.bits, Address.Ipv6.bits, Address.take_bits (by decide),
      Address.take_bits (by decide)]
    congr 1
    exact Nat.mul_div_cancel _ (by decide)

/-! ## There and back -/

/-- A dataset that was created from parameters has a text, and is read from it again as it was. Its
fields show the parameters; its mesh-local prefix is a network of 64 bits that begins like the
one given, and its timestamp stands for the seconds with two bytes behind them. -/
theorem create_readsBack (parameters : Parameters) (dataset : Dataset)
    (created : create parameters = .ok dataset) :
    Shows parameters dataset ∧
    (∃ hex, dataset.toHex = .ok hex ∧ ofHex hex = .ok dataset) ∧
    (∃ given mesh, Address.Network.parse parameters.meshLocalPrefix = .ok given ∧
      dataset.meshLocalPrefix = .ok (some mesh) ∧ mesh.length = 64 ∧
      mesh.address.bits.take 64 = given.address.bits.take 64) ∧
    ∃ stamp, dataset.get? RecordType.activeTimestamp.code = some stamp ∧
      (Bytes.toNumber stamp : Int) = parameters.activeTimestamp * 65536 := by
  refine ⟨shows_of_create created, ?_, mesh_of_create created, ?_⟩
  · obtain ⟨-, hex, -, text, -, again, -⟩ := round_trip_of_fit
      (Draft.entries_fit ⟨fun _ => Bytes.length_ofInteger, fun _ => Bytes.length_ofInteger,
        fun _ => Bytes.length_ofInteger⟩ created)
    exact ⟨hex, text, again⟩
  · obtain ⟨_, stamp, _, _, -, stamped, -, -, -, -, -, entries⟩ := Draft.of_build_ok created
    refine ⟨stamp, ?_, Bytes.toNumber_ofInteger stamped⟩
    rw [get?, entries]
    rfl

/-- A name of sixteen bytes and fewer characters, and numbers at the ends of their ranges. -/
def widest : Parameters where
  networkName := "Fädnetz-Straße"
  channel := 65535
  panId := 0
  extendedPanId := [0, 1, 2, 3, 4, 5, 6, 255]
  networkKey := List.replicate 16 0x5A
  meshLocalPrefix := "fd00:1234::/64"
  activeTimestamp := 281474976710655

theorem create_readsBack_widest :
    ∃ dataset, create widest = .ok dataset ∧ Shows widest dataset ∧
      (∃ hex, dataset.toHex = .ok hex ∧ ofHex hex = .ok dataset) ∧
      (∃ given mesh, Address.Network.parse widest.meshLocalPrefix = .ok given ∧
        dataset.meshLocalPrefix = .ok (some mesh) ∧ mesh.length = 64 ∧
        mesh.address.bits.take 64 = given.address.bits.take 64) ∧
      ∃ stamp, dataset.get? RecordType.activeTimestamp.code = some stamp ∧
        (Bytes.toNumber stamp : Int) = widest.activeTimestamp * 65536 := by
  have answers : (create widest).toOption.isSome = true := by decide +kernel
  cases created : create widest with
  | error fault =>
    rw [created] at answers
    cases answers
  | ok dataset => exact ⟨dataset, rfl, create_readsBack widest dataset created⟩

/-! ## What is refused -/

/-- The lengths of the parameters are those of their records, and the prefix is a network of 64
bits. -/
structure Parameters.Sized (parameters : Parameters) : Prop where
  networkName : 1 ≤ (Text.Utf8.encode parameters.networkName.toList).length ∧
    (Text.Utf8.encode parameters.networkName.toList).length ≤ 16
  extendedPanId : parameters.extendedPanId.length = 8
  networkKey : parameters.networkKey.length = 16
  meshLocalPrefix : ∃ network, Address.Network.parse parameters.meshLocalPrefix = .ok network ∧
    network.length = 64

/-- What is wrong with the first number that does not fit its field. The seconds of a timestamp
have six of its bytes. -/
def Parameters.misfit? (parameters : Parameters) : Option Fault :=
  (Bytes.misfit? 48 parameters.activeTimestamp).or
    ((Bytes.misfit? 16 parameters.channel).or (Bytes.misfit? 16 parameters.panId))

/-- Seconds fit a timestamp if they fit the bytes above the low two. -/
theorem timestampBytes_eq (seconds : Int) :
    timestampBytes seconds =
      match Bytes.misfit? 48 seconds with
      | some fault => .error fault
      | none => .ok (Bytes.ofNumber 8 (seconds * 65536).toNat) := by
  have same : Bytes.misfit? (8 * 8) (seconds * 65536) = Bytes.misfit? 48 seconds := by
    have most : Nat.pow 2 (8 * 8) = Nat.pow 2 48 * 65536 := by decide
    have below : seconds * 65536 < 0 ↔ seconds < 0 := by omega
    have above : Nat.pow 2 (8 * 8) ≤ (seconds * 65536).toNat ↔ Nat.pow 2 48 ≤ seconds.toNat := by
      rw [most]
      omega
    unfold Bytes.misfit?
    simp only [below, above]
  rw [timestampBytes, Bytes.ofInteger_eq, same]

/-- A prefix that is not taken is a rejected value. -/
theorem isRejection_of_parseMeshLocalPrefix {text : String} {fault : Fault}
    (refused : parseMeshLocalPrefix text = .error fault) :
    (ThreadHost.Fault.dataset fault).isRejection = true := by
  unfold parseMeshLocalPrefix requireMeshLength at refused
  split at refused
  · cases refused
    rfl
  · split at refused
    · cases refused
    · cases refused
      rfl

/-- Creating looks at the lengths and the prefix first, which are rejected values if they are
wrong, and then writes the numbers. -/
theorem create_cases (parameters : Parameters) :
    (¬parameters.Sized ∧ ∃ fault, create parameters = .error fault ∧
      (ThreadHost.Fault.dataset fault).isRejection = true) ∨
    (parameters.Sized ∧ ∃ build : Bytes → Bytes → Bytes → Dataset, create parameters = do
      let timestamp ← timestampBytes parameters.activeTimestamp
      let channel ← Bytes.ofInteger 2 parameters.channel
      let panId ← Bytes.ofInteger 2 parameters.panId
      pure (build timestamp channel panId)) := by
  unfold create Draft.build
  simp only
  split
  case isTrue named => exact .inl ⟨fun sized => named sized.networkName, _, rfl, rfl⟩
  case isFalse named =>
    split
    case isTrue extended => exact .inl ⟨fun sized => extended sized.extendedPanId, _, rfl, rfl⟩
    case isFalse extended =>
      split
      case isTrue key => exact .inl ⟨fun sized => key sized.networkKey, _, rfl, rfl⟩
      case isFalse key =>
        cases taken : parseMeshLocalPrefix parameters.meshLocalPrefix with
        | error fault =>
          refine .inl ⟨fun sized => ?_, fault, rfl, isRejection_of_parseMeshLocalPrefix taken⟩
          obtain ⟨network, parsed, length⟩ := sized.meshLocalPrefix
          rw [parseMeshLocalPrefix, parsed, requireMeshLength, if_pos length] at taken
          cases taken
        | ok network =>
          exact .inr ⟨⟨not_not.1 named, not_not.1 extended, not_not.1 key, network,
            of_parseMeshLocalPrefix taken⟩, _, rfl⟩

/-- Parameters that are sized well are refused for the first number that does not fit, and only for
that. -/
theorem create_of_sized (sized : parameters.Sized) :
    (∀ fault, parameters.misfit? = some fault → create parameters = .error fault) ∧
    (parameters.misfit? = none → ∃ dataset, create parameters = .ok dataset) := by
  have twoBytes (value : Int) : Bytes.ofInteger 2 value =
      match Bytes.misfit? 16 value with
      | some fault => .error fault
      | none => .ok (Bytes.ofNumber 2 value.toNat) := Bytes.ofInteger_eq 2 value
  rcases create_cases parameters with ⟨unsized, -⟩ | ⟨-, build, writes⟩
  · exact absurd sized unsized
  · rw [writes, timestampBytes_eq, twoBytes, twoBytes, Parameters.misfit?]
    cases Bytes.misfit? 48 parameters.activeTimestamp with
    | some fault => simp [bind, Except.bind]
    | none =>
      cases Bytes.misfit? 16 parameters.channel with
      | some fault => simp [bind, Except.bind]
      | none =>
        cases Bytes.misfit? 16 parameters.panId with
        | some fault => simp [bind, Except.bind]
        | none => simp [bind, Except.bind, pure, Except.pure]

/-- A number that does not fit is no rejected value. -/
theorem Parameters.isRejection_of_misfit {fault : Fault}
    (misfit : parameters.misfit? = some fault) :
    (ThreadHost.Fault.dataset fault).isRejection = false := by
  have number {bits : Nat} {value : Int} (misfit : Bytes.misfit? bits value = some fault) :
      (ThreadHost.Fault.dataset fault).isRejection = false := by
    unfold Bytes.misfit? at misfit
    split at misfit
    · cases misfit
      rfl
    · split at misfit
      · cases misfit
        rfl
      · cases misfit
  rcases Option.or_eq_some_iff.1 misfit with timestamp | ⟨-, others⟩
  · exact number timestamp
  · rcases Option.or_eq_some_iff.1 others with channel | ⟨-, panId⟩
    · exact number channel
    · exact number panId

/-- Parameters of a wrong length, or with a prefix that is no network of 64 bits, are refused as
rejected values. All others give a dataset if their numbers fit; and if not, they are refused for
the first number that does not, which is no rejected value. -/
theorem create_outcome (parameters : Parameters) :
    (¬parameters.Sized → ∃ fault, create parameters = .error fault ∧
      (ThreadHost.Fault.dataset fault).isRejection = true) ∧
    (parameters.Sized →
      (parameters.misfit? = none → ∃ dataset, create parameters = .ok dataset) ∧
      ∀ fault, parameters.misfit? = some fault → create parameters = .error fault ∧
        (ThreadHost.Fault.dataset fault).isRejection = false) := by
  constructor
  · intro unsized
    rcases create_cases parameters with ⟨-, refused⟩ | ⟨sized, -⟩
    · exact refused
    · exact absurd sized unsized
  · intro sized
    obtain ⟨misfitting, fitting⟩ := create_of_sized sized
    exact ⟨fitting, fun fault misfit =>
      ⟨misfitting fault misfit, Parameters.isRejection_of_misfit misfit⟩⟩

/-- A channel above those of two bytes. -/
def highChannel : Parameters := { widest with channel := 65536 }

/-- A key that is too short, beside a channel that does not fit. -/
def shortKey : Parameters := { highChannel with networkKey := [] }

theorem create_outcome_highChannel :
    highChannel.Sized ∧ create highChannel = .error .numberTooBig ∧
      (∃ dataset, create { highChannel with channel := 26 } = .ok dataset) ∧
      ¬shortKey.Sized ∧ ∃ fault, create shortKey = .error fault ∧
        (ThreadHost.Fault.dataset fault).isRejection = true := by
  have mesh : ∃ network, Address.Network.parse "fd00:1234::/64" = .ok network ∧
      network.length = 64 := ⟨⟨⟨0xfd001234 * Nat.pow 2 96, none⟩, 64⟩, by decide +kernel, rfl⟩
  have name : 1 ≤ (Text.Utf8.encode "Fädnetz-Straße".toList).length ∧
      (Text.Utf8.encode "Fädnetz-Straße".toList).length ≤ 16 := by decide +kernel
  have sized : highChannel.Sized := ⟨name, rfl, rfl, mesh⟩
  have fitting : Parameters.Sized { highChannel with channel := 26 } := ⟨name, rfl, rfl, mesh⟩
  have unsized : ¬shortKey.Sized := fun sized => by cases sized.networkKey
  exact ⟨sized, (((create_outcome highChannel).2 sized).2 .numberTooBig (by decide)).1,
    ((create_outcome { highChannel with channel := 26 }).2 fitting).1 (by decide),
    unsized, (create_outcome shortKey).1 unsized⟩

/-- So not everything that is refused is a rejected value. -/
theorem create_refusal_not_rejection :
    ¬∀ (parameters : Parameters) (fault : Fault), create parameters = .error fault →
      (ThreadHost.Fault.dataset fault).isRejection = true := by
  intro always
  have refused : create highChannel = .error .numberTooBig := by decide +kernel
  exact absurd (always highChannel _ refused) (by decide)

end Dataset

end ThreadHost
