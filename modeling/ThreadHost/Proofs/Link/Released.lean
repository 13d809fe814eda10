import ThreadHost.Link.Open
/-!
# Links that are given up

Closing a link leaves nothing of its device behind, whether the child does as it is asked or has to
be killed, and whether the pipes and the port close without complaint or not (`close_released`).
Where they do, closing does not fail (`close_answers`).
-/

namespace ThreadHost

/-- Failing if there is a failure changes nothing. -/
theorem Wire.perform_raise (failure : Option Failure) (wire : Wire) :
    (raise failure).perform wire = (failure.elim (.ok ()) .error, wire) := by
  cases failure <;> rfl

namespace Process

variable {process : Process} {wire : Wire}

/-- A child that is stopped has ended. -/
theorem stop_returnCode (process : Process) : process.stop.1.returnCode.isSome = true := by
  unfold stop
  split
  case h_1 code ended => simp [ended]
  case h_2 => split <;> rfl

/-- Calls that are recorded one after another change nothing else. -/
theorem perform_calls (calls : List Call) (wire : Wire) :
    (forM calls Wire.call).perform wire =
      (.ok (), { wire with host := { wire.host with calls := wire.host.calls ++ calls } }) := by
  induction calls generalizing wire with
  | nil => simp
  | cons call calls inductionHypothesis =>
    rw [List.forM_cons, Act.perform_bind]
    simp [Wire.call, inductionHypothesis, Host.record]

/-- Closing the input of a child fails, if at all, because the child has closed it already. -/
def ClosesInput (process : Process) : Prop :=
  ∀ failure, process.inputCloseFailure = some failure → isSystemFailure failure = true

/-- Stopping a child does not change how its output closes. -/
theorem stop_outputCloseFailure (process : Process) :
    process.stop.1.outputCloseFailure = process.outputCloseFailure := by
  unfold stop
  split
  · rfl
  · split <;> rfl

/-- The calls that closing a child takes: its pipes are closed around the calls that end it. -/
def closingCalls (process : Process) : List Call := .closeInput :: process.stop.2 ++ [.closeOutput]

/-- A wire whose child has been closed. -/
def closed (process : Process) (wire : Wire) : Wire :=
  { wire with
    host := { wire.host with calls := wire.host.calls ++ process.closingCalls }
    streams := { wire.streams with inputClosed := true, outputClosed := true }
    link := some (.process process.stop.1) }

/-- Closing a child fails with the failure of its output, if at all, and behind everything else. -/
theorem perform_close (closes : process.ClosesInput) (wire : Wire) :
    process.close.perform wire =
      (process.outputCloseFailure.elim (.ok ()) .error, process.closed wire) := by
  -- Behind the input, whether closing it was passed over or not.
  have rest : (do
      forM process.stop.2 Wire.call
      Wire.setLink (.process process.stop.1)
      Wire.call .closeOutput
      Wire.closeOutput
      Wire.raise process.stop.1.outputCloseFailure : Act Wire Unit).perform
        { wire with
          host := wire.host.record .closeInput
          streams := { wire.streams with inputClosed := true } } =
      (process.outputCloseFailure.elim (.ok ()) .error, process.closed wire) := by
    simp [Act.perform_bind, perform_calls, Wire.setLink, Wire.call, Wire.closeOutput,
      Wire.perform_raise, stop_outputCloseFailure, Host.record, closed, closingCalls]
  cases closing : process.inputCloseFailure with
  | none => simpa [close, closing, Act.perform_bind, Wire.call, Wire.closeInput] using rest
  | some failure =>
    have passedOver := closes failure closing
    simpa [close, closing, passedOver, Act.perform_bind, Wire.call, Wire.closeInput] using rest

/-- Closing a child stops it and closes both its pipes, whatever becomes of the call. -/
theorem close_leaves (closes : process.ClosesInput) (wire : Wire) :
    ∃ host, (process.close.perform wire).2 = { wire with
      host
      streams := { wire.streams with inputClosed := true, outputClosed := true }
      link := some (.process process.stop.1) } :=
  ⟨_, congrArg Prod.snd (perform_close closes wire)⟩

/-- Closing a child does not fail, if closing its output does not. -/
theorem close_answers (closes : process.ClosesInput) (output : process.outputCloseFailure = none)
    (wire : Wire) : (process.close.perform wire).1 = .ok () := by
  rw [perform_close closes, output]
  rfl

end Process

/-- Closing a port that is open closes both streams with it, whatever becomes of the call. -/
theorem Port.close_leaves {port : Port} (isOpen : port.isOpen = true) (wire : Wire) :
    ∃ host, (port.close.perform wire).2 = { wire with
      host
      streams := { wire.streams with inputClosed := true, outputClosed := true }
      link := some (.port { port with isOpen := false }) } := by
  simp only [close, isOpen, if_true, Act.perform_bind, Wire.call, Wire.setLink, Wire.closeInput,
    Wire.closeOutput, Act.perform_modify]
  cases port.closeFailure <;> exact ⟨_, rfl⟩

/-- Nor does closing a port fail without a reason. -/
theorem Port.close_answers {port : Port} (quiet : port.closeFailure = none) (wire : Wire) :
    (port.close.perform wire).1 = .ok () := by
  unfold close
  split
  · simp [quiet, Act.perform_bind, Wire.call, Wire.setLink, Wire.closeInput, Wire.closeOutput,
      Wire.raise]
  · rfl

namespace Link

/-- A link that can be given up: a child, whose input may have been closed before, or an open
port. -/
def Held : Link → Prop
  | .process child => child.ClosesInput
  | .port board => board.isOpen = true

/-- A link that was given up: the child has ended, or the port is closed. -/
def GivenUp : Link → Prop
  | .process child => child.returnCode.isSome = true
  | .port board => board.isOpen = false

/-- A link that closes without a failure. -/
def ClosesQuietly : Link → Prop
  | .process child => child.ClosesInput ∧ child.outputCloseFailure = none
  | .port board => board.closeFailure = none

end Link

/-- Closing the link to a device does not fail, whichever link it is. -/
structure Device.ClosesQuietly (device : Device) : Prop where
  input : device.process.ClosesInput
  output : device.process.outputCloseFailure = none
  port : device.port.closeFailure = none

/-- The link that a place gives to such a device closes without a failure. -/
theorem Device.ClosesQuietly.link {device : Device} (quiet : device.ClosesQuietly) (place : Place) :
    (place.link device).ClosesQuietly := by
  cases place with
  | simulation => exact ⟨quiet.input, quiet.output⟩
  | serial => exact quiet.port

namespace Wire

/-- Nothing of the device behind a wire is left: its link was given up, and both streams are
closed. -/
structure Released (wire : Wire) : Prop where
  givenUp : ∃ link, wire.link = some link ∧ link.GivenUp
  inputClosed : wire.streams.inputClosed = true
  outputClosed : wire.streams.outputClosed = true

/-- Closing a wire gives up the link that it owns, whether it fails or not. -/
theorem close_released {wire : Wire} {link : Link} (owns : wire.link = some link)
    (held : link.Held) : (close.perform wire).2.Released := by
  unfold close
  rw [Act.perform_bind, Act.perform_get]
  simp only [owns]
  cases link with
  | process process =>
    obtain ⟨host, left⟩ := process.close_leaves held wire
    simp only [left]
    exact ⟨⟨_, rfl, process.stop_returnCode⟩, rfl, rfl⟩
  | port port =>
    obtain ⟨host, left⟩ := port.close_leaves held wire
    simp only [left]
    exact ⟨⟨_, rfl, rfl⟩, rfl, rfl⟩

/-- Closing a wire does not fail, if its link closes without a failure. -/
theorem close_answers {wire : Wire} {link : Link} (owns : wire.link = some link)
    (quiet : link.ClosesQuietly) : (close.perform wire).1 = .ok () := by
  unfold close
  rw [Act.perform_bind, Act.perform_get]
  simp only [owns]
  cases link with
  | process process => exact process.close_answers quiet.1 quiet.2 wire
  | port port => exact port.close_answers quiet wire

end Wire

end ThreadHost
