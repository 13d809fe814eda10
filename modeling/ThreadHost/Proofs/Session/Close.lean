import ThreadHost.Proofs.Act.Law
import ThreadHost.Proofs.Link.Released
import ThreadHost.Proofs.Session.Exits
/-!
# Closing a link

Closing changes who may still use the streams, and nothing that was written; nor does it open
anything (`close_seals`). Like the streams, a link may fail to close with a fault of the operating
system or a rejected value (`Ordinary`); whatever it does then, it stays such a link
(`close_releases`).
-/

namespace ThreadHost

/-- A failure, if there is one, is a fault of the operating system or a rejected value. -/
def Failure.AtMostOfStream (failure : Option Failure) : Prop :=
  ∀ reason, failure = some reason → reason.OfStream

/-- Links that fail to close, if at all, like streams. -/
def Link.Ordinary : Link → Prop
  | .process child =>
    Failure.AtMostOfStream child.inputCloseFailure ∧
      Failure.AtMostOfStream child.outputCloseFailure
  | .port board => Failure.AtMostOfStream board.closeFailure

namespace Wire

open Act (Law)

/-- A wire whose streams and whose link fail, if at all, with faults of the operating system and
rejected values. -/
structure Ordinary (wire : Wire) : Prop where
  streams : wire.streams.Ordinary
  link : ∀ link, wire.link = some link → link.Ordinary

/-- Streams that never fail, and that no link owns, are ordinary. -/
theorem ordinary_of_steady {streams : Streams} (steady : streams.Steady) :
    Wire.Ordinary { streams } where
  streams := {
    writes := fun number _ fails => nomatch (steady.writes number).symm.trans fails
    flushes := fun number _ fails => nomatch (steady.flushes number).symm.trans fails
    reads := fun number _ fails => nomatch (steady.reads number).symm.trans fails }
  link _ owned := nomatch owned

/-- A wire stays ordinary when something is written to it. -/
theorem Ordinary.written {wire : Wire} (ordinary : wire.Ordinary) (data : Bytes) :
    (wire.written data).Ordinary :=
  ⟨⟨ordinary.streams.writes, ordinary.streams.flushes, ordinary.streams.reads⟩, ordinary.link⟩

/-- A wire stays ordinary when a read is tried. -/
theorem Ordinary.tried {wire : Wire} (ordinary : wire.Ordinary) : wire.tried.Ordinary := by
  unfold Wire.tried
  split
  · exact ordinary
  · exact ⟨⟨ordinary.streams.writes, ordinary.streams.flushes, ordinary.streams.reads⟩,
      ordinary.link⟩

/-- A wire stays ordinary when a line is read from it. -/
theorem Ordinary.taken {wire : Wire} (ordinary : wire.Ordinary) : wire.taken.Ordinary :=
  have tried := ordinary.tried
  ⟨⟨tried.streams.writes, tried.streams.flushes, tried.streams.reads⟩, tried.link⟩

/-- A law of the calls that closing a link consists of. -/
structure Closing (law : Law Wire) : Prop where
  call : ∀ call, law.Obeyed (Wire.call call)
  closeInput : law.Obeyed closeInput
  closeOutput : law.Obeyed closeOutput

namespace Closing

variable {law : Law Wire} (closing : Closing law)
include closing

/-- A port is closed once. -/
theorem port {port : Port} (forgets : law.Obeyed (setLink (.port { port with isOpen := false })))
    (raises : law.Obeyed (raise port.closeFailure)) : law.Obeyed port.close :=
  .ite
    ((closing.call _).bind fun _ => Law.Obeyed.bind forgets fun _ =>
      closing.closeInput.bind fun _ => closing.closeOutput.bind fun _ => raises)
    (Law.obeyed_pure _)

/-- A process is ended behind its input, and its output is released. -/
theorem stop {process : Process} (forgets : law.Obeyed (setLink (.process process.stop.1)))
    (raises : law.Obeyed (raise process.stop.1.outputCloseFailure)) :
    law.Obeyed (do
      process.stop.2.forM Wire.call
      setLink (.process process.stop.1)
      Wire.call .closeOutput
      Wire.closeOutput
      raise process.stop.1.outputCloseFailure) :=
  (Law.obeyed_forM _ fun item _ => closing.call item).bind fun _ =>
    forgets.bind fun _ => (closing.call _).bind fun _ => closing.closeOutput.bind fun _ => raises

/-- Behind its input a process is ended and its output is released, unless closing the input
fails. -/
theorem behindInput {process : Process}
    (forgets : law.Obeyed (setLink (.process process.stop.1)))
    (raises : law.Obeyed (raise process.stop.1.outputCloseFailure))
    (rejects : ∀ failure, process.inputCloseFailure = some failure →
      ∀ wire, law.Holds wire (some failure) wire) :
    ∃ rest, process.close = (do Wire.call .closeInput; Wire.closeInput; rest) ∧
      law.Obeyed rest := by
  have pipes := closing.stop forgets raises
  refine ⟨_, rfl, ?_⟩
  cases input : process.inputCloseFailure with
  | none => exact pipes
  | some failure =>
    exact .ite pipes (Law.Obeyed.bind (Law.obeyed_throw (rejects failure input)) fun _ => pipes)

/-- So a process is closed. -/
theorem process {process : Process} (forgets : law.Obeyed (setLink (.process process.stop.1)))
    (raises : law.Obeyed (raise process.stop.1.outputCloseFailure))
    (rejects : ∀ failure, process.inputCloseFailure = some failure →
      ∀ wire, law.Holds wire (some failure) wire) : law.Obeyed process.close := by
  obtain ⟨rest, same, obeyed⟩ := closing.behindInput forgets raises rejects
  rw [same]
  exact (closing.call _).bind fun _ => closing.closeInput.bind fun _ => obeyed

end Closing

/-- What giving up a link leaves of a wire. -/
def releasing : Law Wire where
  Holds before ending after := before.Ordinary →
    after.Ordinary ∧ after.streams.written = before.streams.written ∧
      Failure.AtMostOfStream ending
  refl _ ordinary := ⟨ordinary, rfl, by simp [Failure.AtMostOfStream]⟩
  trans first second ordinary := by
    obtain ⟨middle, same, -⟩ := first ordinary
    obtain ⟨after, later, ofStream⟩ := second middle
    exact ⟨after, later.trans same, ofStream⟩

/-- A link may be replaced by one that is ordinary as well. -/
theorem setLink_releases {link : Link} (usual : link.Ordinary) :
    releasing.Obeyed (setLink link) := by
  intro wire ordinary
  refine ⟨⟨ordinary.streams, ?_⟩, (releasing.refl wire ordinary).2⟩
  rintro other same
  cases same
  exact usual

theorem raise_releases {failure : Option Failure} (usual : Failure.AtMostOfStream failure) :
    releasing.Obeyed (raise failure) := by
  intro wire ordinary
  cases failure with
  | none => exact releasing.refl wire ordinary
  | some failure => exact ⟨ordinary, rfl, usual⟩

/-- The calls of closing a link leave it ordinary. -/
theorem closing_releases : Closing releasing where
  call _ wire ordinary :=
    ⟨⟨ordinary.streams, ordinary.link⟩, (releasing.refl wire ordinary).2⟩
  closeInput wire ordinary :=
    ⟨⟨⟨ordinary.streams.writes, ordinary.streams.flushes, ordinary.streams.reads⟩, ordinary.link⟩,
      (releasing.refl wire ordinary).2⟩
  closeOutput wire ordinary :=
    ⟨⟨⟨ordinary.streams.writes, ordinary.streams.flushes, ordinary.streams.reads⟩, ordinary.link⟩,
      (releasing.refl wire ordinary).2⟩

/-- A process that was ended closes as before. -/
theorem stop_ordinary {process : Process} (usual : (Link.process process).Ordinary) :
    (Link.process process.stop.1).Ordinary := by
  unfold Process.stop
  split
  · exact usual
  · split <;> exact usual

/-- Closing a link, whichever it is, and whether it fails or not. -/
theorem close_releases : releasing.Obeyed close := by
  intro wire ordinary
  unfold close
  rw [Act.perform_bind, Act.perform_get]
  cases link : wire.link with
  | none =>
    simp only [link]
    exact releasing.refl wire ordinary
  | some owner =>
    have usual := ordinary.link owner link
    simp only [link]
    cases owner with
    | process process =>
      exact closing_releases.process (setLink_releases (stop_ordinary usual))
        (raise_releases (stop_ordinary usual).2)
        (fun failure input _ ordinary =>
          ⟨ordinary, rfl, fun reason same => usual.1 reason (input.trans same)⟩) wire ordinary
    | port port =>
      exact closing_releases.port (setLink_releases usual) (raise_releases usual) wire ordinary

/-- What closing changes of a wire: calls are recorded, a link is replaced by a link, and streams are
closed and never opened. -/
def sealing : Law Wire where
  Holds before _ after := ∃ calls link inputClosed outputClosed, after = { before with
      host := { before.host with calls }
      streams := { before.streams with inputClosed, outputClosed }
      link } ∧
    (before.link.isSome = true → link.isSome = true) ∧
    (before.streams.inputClosed = true → inputClosed = true)
  refl _ := ⟨_, _, _, _, rfl, id, id⟩
  trans := by
    rintro before _ _ ending ⟨_, _, _, _, rfl, owned, closed⟩
      ⟨calls, link, input, output, rfl, stillOwned, stillClosed⟩
    exact ⟨calls, link, input, output, rfl, stillOwned ∘ owned, stillClosed ∘ closed⟩

theorem closing_seals : Closing sealing where
  call _ _ := ⟨_, _, _, _, rfl, id, id⟩
  closeInput _ := ⟨_, _, _, _, rfl, id, fun _ => rfl⟩
  closeOutput _ := ⟨_, _, _, _, rfl, id, id⟩

theorem setLink_seals (link : Link) : sealing.Obeyed (setLink link) :=
  fun _ => ⟨_, _, _, _, rfl, fun _ => rfl, id⟩

theorem raise_seals (failure : Option Failure) : sealing.Obeyed (raise failure) := by
  intro wire
  rw [perform_raise]
  exact ⟨_, _, _, _, rfl, id, id⟩

/-- Closing changes no more, whichever link it is, and whether it fails or not. -/
theorem close_seals : sealing.Obeyed close := by
  refine Law.obeyed_get_bind fun wire => ?_
  cases wire.link with
  | none => exact sealing.refl wire
  | some link =>
    cases link with
    | process process =>
      exact closing_seals.process (setLink_seals _) (raise_seals _)
        (fun _ _ _ => ⟨_, _, _, _, rfl, id, id⟩) wire
    | port port => exact closing_seals.port (setLink_seals _) (raise_seals _) wire

end Wire

end ThreadHost
