import ThreadHost.Proofs.Dataset.Accepted
import ThreadHost.Proofs.Session.Close
import ThreadHost.Proofs.Session.FailFast
import ThreadHost.Proofs.Session.Pauses
/-!
# Sessions that can be worked with

A session is `Sound` if its streams fail as streams do, none of its observers fails, and its pause is
of use. Round trips, joins, resets and waits keep it so, and each of them fails only in the ways
that it has: with an error of the device or a failure of the link, a wait also when its time is over
or where the clock does not take one of its pauses, and a reset also over its blank lines (`sound`).
-/

namespace ThreadHost.Session

open Act (Law)

/-- What stays the same of a session: the platform, its interval and its blank lines, and what is
known of its active dataset. -/
structure Terms where
  platform : Platform
  interval : Float
  padding : Except Fault Nat
  Known : Option Dataset → Prop

/-- A session that can be worked with. -/
structure Sound (terms : Terms) (session : Session) : Prop where
  ordinary : session.streams.Ordinary
  calm : session.Calm
  platform : session.host.platform = terms.platform
  paced : session.pollInterval = .ok terms.interval
  positive : 0 < terms.interval
  padded : session.padding = terms.padding
  known : terms.Known session.activeDataset

/-- A sound session stays so, and work with it fails only as it may. -/
def sound (terms : Terms) (May : Failure → Prop) : Law Session := Law.safe (Sound terms) May

variable {terms : Terms} {May : Failure → Prop} {session : Session} {command : String}

/-- What a change of the wire leaves sound. -/
theorem Sound.alike (sound : session.Sound terms) {wire : Wire}
    (alike : session.streams.Alike wire.streams)
    (same : wire.host.platform = session.host.platform) :
    Sound terms { session with toWire := wire } :=
  { sound with
    ordinary := sound.ordinary.alike alike
    platform := same.trans sound.platform }

/-- The commands of a join are lines: the text of a dataset has no line end. -/
theorem isSingleLine_of_mem_join {dataset : Dataset} {hex : String}
    (text : dataset.toHex = .ok hex) (member : command ∈ joinCommands hex) :
    Command.isSingleLine command = true := by
  obtain ⟨bytes, rfl⟩ : ∃ bytes, hex = Text.Hex.encode bytes := by
    unfold Dataset.toHex at text
    cases written : dataset.toBytes with
    | error fault =>
      rw [written] at text
      cases text
    | ok bytes =>
      rw [written] at text
      exact ⟨bytes, (Except.ok.inj text).symm⟩
  have digits : ∀ character ∈ bytes.flatMap Text.Hex.pair, Line.isLineEnd character = false := by
    intro character inText
    have noBlank := Text.Hex.isBlank_of_mem_pairs inText
    have noReturn : character ≠ '\r' := by
      rintro rfl
      cases noBlank
    have noFeed : character ≠ '\n' := by
      rintro rfl
      cases noBlank
    simp [Line.isLineEnd, noReturn, noFeed]
  simp only [joinCommands, List.mem_cons, List.not_mem_nil, or_false] at member
  rcases member with rfl | rfl | rfl
  · have start : ("dataset set active ".toList.any Line.isLineEnd) = false := by decide
    have rest : (bytes.flatMap Text.Hex.pair).any Line.isLineEnd = false :=
      List.any_eq_false.2 fun character inText => by simp [digits character inText]
    rw [Command.isSingleLine, String.toList_append, List.any_append, start, Text.Hex.encode,
      String.toList_ofList, rest]
    rfl
  · decide
  · decide

section Errors

variable (errors : ∀ failure : Failure,
  failure.isDeviceError = true ∨ failure.isLink = true → May failure)
include errors

/-- The accesses of a round trip fail with errors of the device and failures of the link. -/
theorem accessing_sound : Accessing (sound terms May) where
  write command data session good := by
    have still : (session.written data).Sound terms := good.alike ⟨rfl, rfl, rfl, rfl, rfl, rfl⟩ rfl
    rcases writeFor_cases good.ordinary command data with goes | ⟨fault, after, fails, left⟩
    · rw [goes]
      exact Law.safe_of_kept (fun _ => still) good
    · rw [fails]
      exact Law.safe_of_failure (errors _ (.inr rfl))
        (fun good => left.elim (· ▸ good) (· ▸ still)) good
  read command session good := by
    have same := alike_tried session
    have host := platform_tried session
    rw [perform_readRaw]
    cases broken : session.streams.readFault? with
    | some failure =>
      obtain ⟨fault, rfl, ofStream⟩ := good.ordinary.readFault broken
      simp only [readFailure, ofStream, if_true]
      exact Law.safe_of_failure (errors _ (.inr rfl)) (Sound.alike · same host) good
    | none =>
      refine Law.safe_of_kept (Sound.alike · ?_ host) good
      exact ⟨same.inputClosed, same.outputClosed, same.closedRefusal, same.writeFailure,
        same.flushFailure, same.readFailure⟩
  notify direction line session good := by
    have still : (session.notified direction line).Sound terms :=
      { good with calm := good.calm.notified _ _ }
    rw [perform_notify (Audience.Calm.hears good.calm _)]
    exact Law.safe_of_kept (fun _ => still) good
  count _ _ _ := Law.safe_of_kept fun good => { good with }
  truncated _ _ := Law.safe_of_failure (errors _ (.inr rfl)) id
  deviceError _ _ _ := Law.safe_of_failure (errors _ (.inl rfl)) fun good => { good with }

/-- Asking for the role. -/
theorem getState_sound : (sound terms May).Obeyed getState := by
  refine ((accessing_sound errors).execute (by decide)).bind fun lines => ?_
  cases lines with
  | nil =>
    exact fun _ => Law.safe_of_failure (errors _ (.inl rfl)) fun good => { good with }
  | cons role lines => exact Law.obeyed_pure role

/-- Commands of one line each. -/
theorem executeAll_sound {commands : List String}
    (single : ∀ command ∈ commands, Command.isSingleLine command = true) :
    (sound terms May).Obeyed (executeAll commands) :=
  Law.obeyed_forM commands fun command member =>
    ((accessing_sound errors).execute (single command member)).map fun _ => PUnit.unit

/-- Stopping the radio. -/
theorem stopRadio_sound : (sound terms May).Obeyed stopRadio :=
  executeAll_sound errors (by decide)

/-- Joining the network of a dataset that has a text, and that may be the active one. -/
theorem join_sound {dataset : Dataset} {hex : String} (text : dataset.toHex = .ok hex)
    (known : terms.Known (some dataset)) : (sound terms May).Obeyed (join dataset) := by
  intro session good
  rw [Dataset.perform_join text]
  exact executeAll_sound errors (fun command member => isSingleLine_of_mem_join text member) _
    { good with known }

/-- Looking up an address, judged by a dataset whose mesh-local prefix is of use. -/
theorem getOffMeshAddress_sound {given : Option Dataset}
    (usable : ∀ session, Sound terms session → ∀ dataset,
      given.or session.activeDataset = some dataset → ∃ mesh, dataset.meshLocalPrefix = .ok mesh) :
    (sound terms May).Obeyed (getOffMeshAddress given) := by
  refine Law.obeyed_get_bind fun session good => ?_
  cases known : given.or session.activeDataset with
  | none => exact (sound terms May).refl session good
  | some dataset =>
    obtain ⟨mesh, network⟩ := usable session good dataset known
    simp only [network, ofDataset]
    have obeyed : (sound terms May).Obeyed (pure mesh >>= fun mesh => getAddresses >>= fun lines =>
        Act.ofExcept (firstOffMesh mesh lines)) := by
      refine (Law.obeyed_pure mesh).bind fun mesh => ((accessing_sound errors).execute
        (by decide)).bind fun lines => Law.obeyed_ofExcept fun failure invalid _ => ?_
      obtain ⟨line, fault, rfl⟩ := firstOffMesh_eq_error invalid
      exact Law.safe_of_failure (errors _ (.inl rfl)) id
    exact obeyed session good

/-- A reset. Blank lines that cannot be written are its own failure. -/
theorem factoryReset_sound
    (unwritable : ∀ fault, terms.padding = .error fault → May (.plain fault)) :
    (sound terms May).Obeyed factoryReset := by
  refine ((accessing_sound errors).send (by decide)).bind fun _ session good => ?_
  rw [Act.perform_bind, Act.perform_get]
  simp only [good.padded]
  cases padding : terms.padding with
  | error fault => exact Law.safe_of_failure (unwritable fault padding) id good
  | ok lines =>
    exact (accessing_sound errors).write resetCommand (List.replicate lines Line.feed) session good

/-- Waiting for a role: the checks ask, a pause may be refused, and there are always checks left. -/
theorem waitForState_sound
    (expired : ∀ timeout description, May (.plain (.waitExpired timeout description)))
    (refused : ∀ length refusal, terms.platform.Refuses terms.interval length refusal →
      May (.plain (.pause refusal))) (states : List String) (timeout : Float) :
    (sound terms May).Obeyed (waitForState states timeout) := by
  intro session good
  have pace : session.pacing = (clock, terms.interval) := by simp [pacing, good.paced]
  have pauses : ∀ remaining, ¬remaining ≤ 0 → (sound terms May).Obeyed
      (session.pacing.1.pause (Waiting.pauseLength session.pacing.2 remaining)) := by
    intro remaining left before still
    rw [pace, perform_pause]
    cases result : before.host.pauseRefusal? (Waiting.pauseLength terms.interval remaining) with
    | none => exact Law.safe_of_kept (Sound.alike · (.refl _) rfl) still
    | some refusal =>
      have within := Host.refuses_of_pauseRefusal? still.positive left result
      rw [still.platform] at within
      exact Law.safe_of_failure (refused _ refusal within) id still
  exact obeyedAt_waitForState (getState_sound errors) pauses
    (fun _ _ _ => Law.safe_of_failure (expired _ _) id) states timeout good

end Errors

end ThreadHost.Session
