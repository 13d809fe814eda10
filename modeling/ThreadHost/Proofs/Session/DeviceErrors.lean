import ThreadHost.Proofs.Session.Close
import ThreadHost.Proofs.Session.Lawful
import ThreadHost.Proofs.Session.Run
/-!
# Counting device errors

A device error is counted where it is found: an error line while the answer is read, and a missing
role when the answer is there. A line that is no address is a device error as well, and is not
counted. `counting` is this as a law, which every access obeys, and so every operation;
`deviceErrors_afterRun` adds the errors of a run up.
-/

namespace ThreadHost

/-- A device error because of a line that is no address. -/
def Failure.isAddressError : Failure → Bool
  | .deviceError _ _ _ (some (.address _)) => true
  | _ => false

/-- What a way to end adds to the count of device errors. -/
def Failure.counted : Option Failure → Nat
  | some failure => if failure.isDeviceError && !failure.isAddressError then 1 else 0
  | none => 0

/-- A device error is counted unless it is about an address. -/
theorem Failure.isDeviceError_eq_counted (failure : Failure) :
    (if failure.isDeviceError then 1 else 0) =
      Failure.counted (some failure) + if failure.isAddressError then 1 else 0 := by
  cases about : failure.isAddressError with
  | false => simp [counted, about]
  | true =>
    unfold isAddressError at about
    split at about
    · rfl
    · cases about

/-- A failure of a stream is no device error. -/
theorem Failure.counted_of_stream {ending : Option Failure}
    (ofStream : Failure.AtMostOfStream ending) : Failure.counted ending = 0 := by
  cases ending with
  | none => rfl
  | some failure =>
    obtain ⟨fault, rfl, -⟩ := ofStream failure rfl
    rfl

namespace Session

open Act (Law)

variable {session : Session}

/-- On ordinary streams the device errors are counted that are not about addresses. -/
def counting : Law Session where
  Holds before ending after := before.toWire.Ordinary →
    after.toWire.Ordinary ∧
      after.stats.deviceErrors = before.stats.deviceErrors + Failure.counted ending
  refl _ ordinary := ⟨ordinary, rfl⟩
  trans first second ordinary := by
    obtain ⟨middle, same⟩ := first ordinary
    obtain ⟨after, counted⟩ := second middle
    rw [same] at counted
    exact ⟨after, counted⟩

/-- Writing finds no device error. -/
theorem writeFor_counting (command : String) (data : Bytes) :
    counting.Obeyed (writeFor command data) := by
  intro session ordinary
  rcases writeFor_cases ordinary.streams command data with
    passed | ⟨fault, after, rejected, rfl | rfl⟩
  · rw [passed]
    exact ⟨ordinary.written data, rfl⟩
  · rw [rejected]
    exact ⟨ordinary, rfl⟩
  · rw [rejected]
    exact ⟨ordinary.written data, rfl⟩

/-- Reading finds no device error. -/
theorem readRaw_counting (command : String) :
    counting.Obeyed (renameFailure (readFailure command) (onWire Wire.readLine)) := by
  intro session ordinary
  rw [perform_readRaw]
  cases reads : session.streams.readFault? with
  | some failure =>
    obtain ⟨fault, rfl, ofStream⟩ := ordinary.streams.readFault reads
    simp only [readFailure, ofStream, if_true]
    exact ⟨ordinary.tried, rfl⟩
  | none => exact ⟨ordinary.taken, rfl⟩

/-- A round trip counts the error line that closes its answer. -/
theorem exchanging_counting : Exchanging counting where
  severalLines _ _ ordinary := ⟨ordinary, rfl⟩
  write := writeFor_counting
  read := readRaw_counting
  notify := obeyed_notify (fun _ _ _ _ ordinary => ⟨ordinary, rfl⟩)
    fun _ _ ordinary => ⟨ordinary, rfl⟩
  count _ others _ ordinary := ⟨ordinary, others _⟩
  truncated _ _ ordinary := ⟨ordinary, rfl⟩
  deviceError _ _ _ ordinary := ⟨ordinary, rfl⟩

/-- Besides that, a missing role is counted, and a line that is no address is not. -/
theorem asking_counting : Asking counting :=
  exchanging_counting.asking (fun _ _ ordinary => ⟨ordinary, rfl⟩)
    (fun _ _ _ ordinary => ⟨ordinary, rfl⟩) (fun _ ordinary => ⟨ordinary, rfl⟩)
    fun _ _ ordinary => ⟨⟨ordinary.streams, ordinary.link⟩, rfl⟩

/-- Closing finds no device error. -/
theorem close_counting : counting.Obeyed close := by
  intro session ordinary
  obtain ⟨released, -, ofStream⟩ := Wire.close_releases session.toWire ordinary
  unfold close onWire
  rw [Act.perform_onPart]
  exact ⟨released, by simp only [Failure.counted_of_stream ofStream, Nat.add_zero]⟩

/-- Every operation obeys the law. -/
theorem perform_counting (operation : Operation) : counting.Obeyed (perform operation) :=
  asking_counting.perform operation
    (fun dataset _ => asking_counting.join dataset fun _ ordinary => ⟨ordinary, rfl⟩)
    (fun _ => exchanging_counting.factoryReset fun _ _ ordinary => ⟨ordinary, rfl⟩)
    fun _ => close_counting

/-- The steps that failed with a device error are those that were counted and those that are about
addresses. -/
theorem countP_isDeviceError (steps : List Step) :
    steps.countP (Step.fails Failure.isDeviceError) =
      (steps.map fun step => Failure.counted (Act.ending step.outcome)).sum +
        steps.countP (Step.fails Failure.isAddressError) := by
  induction steps with
  | nil => rfl
  | cons step steps inductionHypothesis =>
    have here : (if step.fails Failure.isDeviceError then 1 else 0) =
        Failure.counted (Act.ending step.outcome) +
          if step.fails Failure.isAddressError then 1 else 0 := by
      unfold Step.fails
      cases Act.ending step.outcome with
      | none => rfl
      | some failure => exact failure.isDeviceError_eq_counted
    rw [List.countP_cons, List.countP_cons, List.map_cons, List.sum_cons, inductionHypothesis]
    omega

/-- Over any run on ordinary streams, whatever its observers do, the device errors that operations
failed with were counted, each once, but for those about a line that is no address; and nothing
else was counted as one. -/
theorem deviceErrors_afterRun (session : Session) (ordinary : session.toWire.Ordinary)
    (operations : List Operation) :
    (afterRun operations session).stats.deviceErrors +
        (run operations session).countP (Step.fails Failure.isAddressError) =
      session.stats.deviceErrors +
        (run operations session).countP (Step.fails Failure.isDeviceError) := by
  have keeps : ∀ (operation : Operation) (session : Session), session.toWire.Ordinary →
      (operation.step session).after.toWire.Ordinary :=
    fun operation session usual => (perform_counting operation session usual).1
  have steps : ∀ step ∈ run operations session, step.after.stats.deviceErrors =
      step.before.stats.deviceErrors + Failure.counted (Act.ending step.outcome) := by
    intro step member
    obtain ⟨operation, before, usual, rfl⟩ := of_mem_run keeps ordinary member
    exact (perform_counting operation before usual).2
  rw [countP_isDeviceError, ← Nat.add_assoc,
    ← afterRun_add (fun session => session.stats.deviceErrors) _ operations steps]

/-- An error line, an answer without a role, and an address list with a line that is no address. -/
def threeErrors : Bytes := Text.Utf8.encode "Error: busy\nDone\nno address\nDone\n".toList

/-- Operations that fail because of these. -/
def threeQuestions : List Operation :=
  [.getAddresses, .getState, .getOffMeshAddress (some .empty)]

theorem deviceErrors_afterRun_threeErrors :
    (onOutput threeErrors []).toWire.Ordinary ∧
      (afterRun threeQuestions (onOutput threeErrors [])).stats.deviceErrors = 2 ∧
      (run threeQuestions (onOutput threeErrors [])).countP
        (Step.fails Failure.isDeviceError) = 3 := by
  have ordinary : (onOutput threeErrors []).toWire.Ordinary :=
    Wire.ordinary_of_steady (steady_onOutput threeErrors [])
  have errors := deviceErrors_afterRun _ ordinary threeQuestions
  have addresses : (run threeQuestions (onOutput threeErrors [])).countP
      (Step.fails Failure.isAddressError) = 1 := by decide +kernel
  have all : (run threeQuestions (onOutput threeErrors [])).countP
      (Step.fails Failure.isDeviceError) = 3 := by decide +kernel
  rw [addresses, all] at errors
  exact ⟨ordinary, by simpa [onOutput] using errors, all⟩

/-- A line that is no address fails as a device error and is not counted. -/
theorem deviceErrors_miss_invalid_address :
    ¬∀ (session : Session) (operations : List Operation), session.toWire.Ordinary →
      (afterRun operations session).stats.deviceErrors = session.stats.deviceErrors +
        (run operations session).countP (Step.fails Failure.isDeviceError) := by
  intro always
  have counted := always (onOutput (Text.Utf8.encode "no address\nDone\n".toList) [])
    [.getOffMeshAddress (some .empty)] (Wire.ordinary_of_steady (steady_onOutput _ []))
  exact absurd counted (by decide +kernel)

end Session

end ThreadHost
