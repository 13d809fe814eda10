import ThreadHost.Proofs.Act.Law
import ThreadHost.Proofs.Listener.Attached
/-!
# Listeners on a source that fails

A listener says that it is listening from the beginning of a start to the end of a stop. When the
source fails in between, it goes on saying so, although nothing is forwarded: behind a start that
failed the source does not hold its receiver, and behind a stop that failed the receiver that the
source still holds is not the current one. A source may refuse to detach a receiver that was not
attached; then such a listener stays as it is for good (`afterAll_attachment`).
-/

namespace ThreadHost

namespace Source

open Act (Law)

namespace Attachment

/-- What a start makes of it. Only an idle listener has a receiver attached. -/
def start (attachFails : Bool) : Attachment → Attachment
  | .idle => if attachFails then .unattached else .live
  | attachment => attachment

/-- Whether a start fails. -/
def startFails (attachFails : Bool) : Attachment → Bool
  | .idle => attachFails
  | _ => false

/-- Whether a stop fails: where the source does not detach, or refuses to detach a receiver that is
not attached. -/
def stopFails (detachFails refusesMissing : Bool) : Attachment → Bool
  | .idle => false
  | .unattached => detachFails || refusesMissing
  | .live | .outdated => detachFails

/-- What a stop makes of it. Where it fails the receiver stays, and is not the current one. -/
def stop (detachFails refusesMissing : Bool) : Attachment → Attachment
  | .idle => .idle
  | .unattached => if detachFails || refusesMissing then .unattached else .idle
  | .live | .outdated => if detachFails then .outdated else .idle

/-- What becomes of it when the callback does something about an event. A stop that fails ends a
restart, but a start would make nothing of it either. -/
def respond (attachFails detachFails refusesMissing : Bool) (attachment : Attachment) :
    Response → Attachment
  | .nothing | .fail => attachment
  | .stop => attachment.stop detachFails refusesMissing
  | .restart => (attachment.stop detachFails refusesMissing).start attachFails

/-- It is as the listener says: the listener is idle, or events are forwarded to it. -/
def Sound (attachment : Attachment) : Prop := attachment = .idle ∨ attachment = .live

/-- Where nothing fails, a start keeps this. -/
theorem Sound.start {attachment : Attachment} (sound : attachment.Sound) :
    (attachment.start false).Sound := by
  rcases sound with rfl | rfl
  · exact .inr rfl
  · exact .inr rfl

theorem Sound.stop {attachment : Attachment} (sound : attachment.Sound) (refusesMissing : Bool) :
    (attachment.stop false refusesMissing).Sound := by
  rcases sound with rfl | rfl
  · exact .inl rfl
  · exact .inl rfl

theorem Sound.respond {attachment : Attachment} (sound : attachment.Sound) (refusesMissing : Bool)
    (response : Response) : (attachment.respond false false refusesMissing response).Sound := by
  cases response with
  | nothing | fail => exact sound
  | stop => exact sound.stop refusesMissing
  | restart => exact (sound.stop refusesMissing).start

/-- Where the source refuses to detach what is not attached, a stop changes nothing for a listener
whose receiver is not attached. -/
theorem stop_unattached (detachFails : Bool) : stop detachFails true .unattached = .unattached :=
  if_pos (Bool.or_true detachFails)

/-- Nor does a callback. -/
theorem respond_unattached (attachFails detachFails : Bool) (response : Response) :
    respond attachFails detachFails true .unattached response = .unattached := by
  cases response with
  | nothing | fail => rfl
  | stop => exact stop_unattached detachFails
  | restart => exact congrArg (start attachFails) (stop_unattached detachFails)

/-- Behind a stop that failed a start does nothing. -/
theorem start_stop_of_fails {detachFails refusesMissing : Bool} {attachment : Attachment}
    (fails : attachment.stopFails detachFails refusesMissing = true) (attachFails : Bool) :
    (attachment.stop detachFails refusesMissing).start attachFails =
      attachment.stop detachFails refusesMissing := by
  cases attachment with
  | idle => cases fails
  | unattached =>
    have stays : stop detachFails refusesMissing .unattached = .unattached := if_pos fails
    rw [stays]
    rfl
  | live | outdated =>
    obtain rfl : detachFails = true := fails
    rfl

/-- A receiver that is held is detached, whether it is the current one or not. -/
theorem stop_held (detachFails refusesMissing current : Bool) :
    (if current then live else outdated).stop detachFails refusesMissing =
      if detachFails then .outdated else .idle := by
  cases current <;> rfl

theorem stopFails_held (detachFails refusesMissing current : Bool) :
    (if current then live else outdated).stopFails detachFails refusesMissing = detachFails := by
  cases current <;> rfl

end Attachment

variable {behaviour : Behaviour} {tags : List String} {source : Source} {listener other : Listener}
  {receiver : Receiver} {tag : String} {number : Nat}

/-- A receiver that the source refuses has its number nevertheless. -/
theorem perform_attach_failed (source : Source) (receiver : Receiver)
    (fails : source.attachFails source.receivers.length = true) :
    (attach receiver).perform source =
      (.error (.plain (.runtime "register failed")), (source.numbered receiver).handOut
        (source.whileAttaching source.receivers.length).ahead) := by
  unfold attach
  simp only [Act.perform_bind, Act.perform_get, Act.perform_set, fails, if_true,
    Act.perform_refuse]

/-- No receiver is detached when the source fails, nor one that is not attached when the source
refuses this. -/
theorem perform_detach_failed (source : Source) (receiver : Receiver)
    (fails : source.detachFails source.detachments = true ∨
      (source.holds receiver = false ∧ source.refusesMissing = true)) :
    ∃ failure, (detach receiver).perform source =
      (.error failure,
        source.tried.handOut (source.whileDetaching source.detachments).ahead) := by
  unfold detach
  simp only [Act.perform_bind, Act.perform_get, Act.perform_set]
  cases refuses : source.detachFails source.detachments with
  | true => exact ⟨_, rfl⟩
  | false =>
    obtain ⟨unheld, strict⟩ := fails.resolve_left (by rw [refuses]; exact Bool.noConfusion)
    have missing : source.attached.find? (source.isReceiver receiver) = none := by
      simpa [holds] using unheld
    simp only [missing, strict, if_true]
    exact ⟨_, rfl⟩

/-- A receiver that is not attached is passed over, where the source does not refuse this. -/
theorem perform_detach_missing (source : Source) (receiver : Receiver)
    (works : source.detachFails source.detachments = false)
    (unheld : source.holds receiver = false) (passes : source.refusesMissing = false) :
    (detach receiver).perform source =
      (.ok (), (source.tried.handOut
        (source.whileDetaching source.detachments).ahead).handOut
          (source.whileDetaching source.detachments).behind) := by
  have missing : source.attached.find? (source.isReceiver receiver) = none := by
    simpa [holds] using unheld
  unfold detach
  simp only [Act.perform_bind, Act.perform_get, Act.perform_set, works, missing, passes,
    Bool.false_eq_true, if_false, Act.perform_modify]

/-- What a call comes to for the listener of a tag: whether it fails, and how the listener is
attached behind it. How other listeners are attached does not change. -/
structure Becomes (behaviour : Behaviour) (tags : List String) (source : Source) (tag : String)
    (fails : Bool) (next : Attachment) (ended : Except Failure Unit × Source) : Prop where
  placed : Placed behaviour tags ended.2
  fails : (Act.ending ended.1).isSome = fails
  attachment : ∀ which, ended.2.attachment which =
    if which = tag then next else source.attachment which

/-- The same, where what a call comes to is told of any way of being attached. -/
theorem Becomes.after {change : Attachment → Attachment} {fails : Bool}
    {ended : Except Failure Unit × Source}
    (becomes : Becomes behaviour tags source tag fails (change (source.attachment tag)) ended)
    (which : String) :
    ended.2.attachment which =
      if which = tag then change (source.attachment which) else source.attachment which := by
  rw [becomes.attachment]
  split
  · rename_i here
    rw [here]
  · rfl

namespace Placed

/-- Where nothing is done, nothing changes. -/
theorem stays (placed : Placed behaviour tags source) :
    Becomes behaviour tags source tag false (source.attachment tag) (.ok (), source) where
  placed := placed
  fails := rfl
  attachment which := by
    split
    · rename_i here
      rw [here]
    · rfl

/-- A start that fails has made a receiver, which the listener keeps. -/
theorem start_failed (placed : Placed behaviour tags source)
    (found : source.listener? tag = some listener)
    (starts : listener.start? = some (receiver, other)) (failure : Failure)
    (handouts : List Handout) :
    Becomes behaviour tags source tag true .unattached
      (.error failure, ((source.setListener other).numbered receiver).handOut handouts) where
  placed := (placed.make found starts).handOut _
  fails := rfl
  attachment which :=
    (attachment_handOut _ _ which).trans (placed.attachment_make found starts which)

/-- A start that does not fail attaches the receiver, which is the current one. -/
theorem start_ended (placed : Placed behaviour tags source)
    (found : source.listener? tag = some listener)
    (starts : listener.start? = some (receiver, other)) (course : Meanwhile) :
    Becomes behaviour tags source tag false .live
      (.ok (), ((((source.setListener other).numbered receiver).setAttached
        (source.attached ++ [source.receivers.length])).handOut course.ahead).handOut
          course.behind) := by
  obtain ⟨-, made, next⟩ := Listener.of_start?_eq_some starts
  have begun := placed.make found starts
  have receiverTag : receiver.tag = tag := by rw [made, tag_of_listener? found]
  have newest : ((source.setListener other).numbered receiver).receivers[
      source.receivers.length]? = some receiver := List.getElem?_concat_length
  have knows : ((source.setListener other).numbered receiver).listener? receiver.tag =
      some other := by
    rw [receiverTag]
    exact (listener?_replaced found (by rw [next, tag_of_listener? found]) tag).trans (if_pos rfl)
  have owns : other.receiver = some receiver := by rw [next]
  have current : other.forwards receiver = true := by
    rw [next, made]
    exact decide_eq_true rfl
  exact {
    placed := ((begun.attach newest knows owns
      fun attached => Nat.lt_irrefl _ (placed.lt_of_attached attached)).handOut _).handOut _
    fails := rfl
    attachment := by
      intro which
      rw [attachment_handOut, attachment_handOut]
      refine (begun.attachment_attach newest knows owns current which).trans ?_
      rw [receiverTag, placed.attachment_make found starts]
      split
      · rfl
      · rfl }

/-- An idle listener has a receiver made and attached; with any other a start does nothing. -/
theorem start (placed : Placed behaviour tags source) (known : tag ∈ tags) :
    Becomes behaviour tags source tag
      ((source.attachment tag).startFails (source.attachFails source.receivers.length))
      ((source.attachment tag).start (source.attachFails source.receivers.length))
      ((Source.start tag).perform source) := by
  obtain ⟨roster, tracks⟩ := placed.tracks
  obtain ⟨listener, found⟩ := tracks.finds_iff.2 known
  unfold Source.start
  rw [Act.perform_bind, Act.perform_get]
  simp only [found, Option.bind_some]
  cases starts : listener.start? with
  | none =>
    obtain ⟨receiver, has⟩ := Option.ne_none_iff_exists'.1 (Listener.of_start?_eq_none starts)
    have busy : source.attachment tag ≠ .idle := by
      rw [← listens_iff]
      simp [Listens, found, Listener.isListening, has]
    have same : Becomes behaviour tags source tag false (source.attachment tag) (.ok (), source) :=
      placed.stays
    cases attached : source.attachment tag with
    | idle => exact absurd attached busy
    | live | unattached | outdated =>
      rw [attached] at same
      exact same
  | some begun =>
    obtain ⟨receiver, other⟩ := begun
    have idle := attachment_of_none found (Listener.of_start?_eq_some starts).1
    simp only [Act.perform_bind, Act.perform_modify, idle]
    cases refuses : source.attachFails source.receivers.length with
    | true =>
      rw [perform_attach_failed (source.setListener other) receiver refuses]
      exact placed.start_failed found starts _ _
    | false =>
      rw [perform_attach (source.setListener other) receiver refuses]
      exact placed.start_ended found starts _

/-- A stop that fails has moved the generation on, and the listener has its receiver still. -/
theorem stop_failed (placed : Placed behaviour tags source)
    (found : source.listener? tag = some listener)
    (stops : listener.stop? = some (receiver, other))
    (fails : source.detachFails source.detachments = true ∨
      (source.holds receiver = false ∧ source.refusesMissing = true))
    (failure : Failure) (handouts : List Handout) :
    Becomes behaviour tags source tag
      ((source.attachment tag).stopFails (source.detachFails source.detachments)
        source.refusesMissing)
      ((source.attachment tag).stop (source.detachFails source.detachments) source.refusesMissing)
      (.error failure, (source.setListener other).tried.handOut handouts) := by
  obtain ⟨has, -, -⟩ := Listener.of_stop?_eq_some stops
  have stuck : (source.attachment tag).stopFails (source.detachFails source.detachments)
        source.refusesMissing = true ∧
      (source.attachment tag).stop (source.detachFails source.detachments) source.refusesMissing =
        if source.holds receiver then .outdated else .unattached := by
    rw [attachment_of_some found has]
    cases held : source.holds receiver with
    | false =>
      have refuses : (source.detachFails source.detachments || source.refusesMissing) = true :=
        Bool.or_eq_true_iff.2 (fails.imp_right And.right)
      exact ⟨refuses, if_pos refuses⟩
    | true =>
      have refuses := fails.resolve_right (by rw [held]; exact fun unheld => nomatch unheld.1)
      simp only [refuses, if_true, Attachment.stop_held, Attachment.stopFails_held, and_self]
  rw [stuck.1, stuck.2]
  exact {
    placed := (placed.retire found stops).handOut _
    fails := rfl
    attachment := fun which =>
      (attachment_handOut _ _ which).trans (placed.attachment_retire found stops which) }

/-- A listener forgets a receiver that the source does not hold any more. -/
theorem forgets {before : Source} (placed : Placed behaviour tags source)
    (found : source.listener? tag = some listener) (has : listener.receiver = some receiver)
    (unheld : source.holds receiver = false)
    (same : ∀ which, which ≠ tag → source.attachment which = before.attachment which) :
    Becomes behaviour tags before tag false .idle (.ok (), source.setListener listener.release)
    where
  placed := placed.release found has unheld
  fails := rfl
  attachment which := by
    refine (attachment_release found which).trans ?_
    split
    · rfl
    · rename_i elsewhere
      exact same which elsewhere

/-- A receiver that the source does not hold is passed over, and the listener forgets it. -/
theorem stop_passed (placed : Placed behaviour tags source)
    (found : source.listener? tag = some listener)
    (stops : listener.stop? = some (receiver, other))
    (works : source.detachFails source.detachments = false)
    (unheld : source.holds receiver = false) (passes : source.refusesMissing = false)
    (course : Meanwhile) :
    Becomes behaviour tags source tag
      ((source.attachment tag).stopFails (source.detachFails source.detachments)
        source.refusesMissing)
      ((source.attachment tag).stop (source.detachFails source.detachments) source.refusesMissing)
      (.ok (), (((source.setListener other).tried.handOut course.ahead).handOut
        course.behind).setListener other.release) := by
  obtain ⟨has, otherTag, -⟩ := Listener.of_stop?_eq_some stops
  have begun := placed.retire found stops
  have knows : (((source.setListener other).tried.handOut course.ahead).handOut
      course.behind).listener? tag = some other := by
    rw [listener?_handOut, listener?_handOut]
    exact (listener?_replaced found (otherTag.trans (tag_of_listener? found)) tag).trans
      (if_pos rfl)
  rw [attachment_of_some found has, unheld, works, passes]
  refine ((begun.handOut _).handOut _).forgets knows (Listener.receiver_of_stop? stops)
    ((holds_handOut ..).trans ((holds_handOut ..).trans unheld)) fun which elsewhere => ?_
  rw [attachment_handOut, attachment_handOut, placed.attachment_retire found stops,
    if_neg elsewhere]

/-- A stop that does not fail detaches the receiver, and the listener forgets it. -/
theorem stop_ended (placed : Placed behaviour tags source)
    (found : source.listener? tag = some listener)
    (stops : listener.stop? = some (receiver, other))
    (works : source.detachFails source.detachments = false)
    (attached : number ∈ source.attached) (made : source.receivers[number]? = some receiver)
    (course : Meanwhile) :
    Becomes behaviour tags source tag
      ((source.attachment tag).stopFails (source.detachFails source.detachments)
        source.refusesMissing)
      ((source.attachment tag).stop (source.detachFails source.detachments) source.refusesMissing)
      (.ok (), ((((source.setListener other).tried.setAttached
        (source.attached.erase number)).handOut course.ahead).handOut course.behind).setListener
          other.release) := by
  obtain ⟨has, otherTag, -⟩ := Listener.of_stop?_eq_some stops
  obtain ⟨-, receiverTag⟩ := placed.receiver tag listener receiver found has
  have begun := placed.retire found stops
  have knows : ((((source.setListener other).tried.setAttached
      (source.attached.erase number)).handOut course.ahead).handOut course.behind).listener? tag =
        some other := by
    rw [listener?_handOut, listener?_handOut]
    exact (listener?_replaced found (otherTag.trans (tag_of_listener? found)) tag).trans
      (if_pos rfl)
  have unheld := begun.unheld_detach made
  rw [attachment_of_some found has, if_pos (holds_iff.2 ⟨number, attached, made⟩), works,
    Attachment.stop_held, Attachment.stopFails_held]
  refine (((begun.detach number).handOut _).handOut _).forgets knows
    (Listener.receiver_of_stop? stops)
    ((holds_handOut ..).trans ((holds_handOut ..).trans unheld)) fun which elsewhere => ?_
  rw [attachment_handOut, attachment_handOut]
  refine (begun.attachment_detach made (receiverTag ▸ elsewhere)).trans ?_
  rw [placed.attachment_retire found stops, if_neg elsewhere]

/-- A listener with a receiver has it invalidated, and detached if the source holds it. -/
theorem stop (placed : Placed behaviour tags source) (known : tag ∈ tags) :
    Becomes behaviour tags source tag
      ((source.attachment tag).stopFails (source.detachFails source.detachments)
        source.refusesMissing)
      ((source.attachment tag).stop (source.detachFails source.detachments) source.refusesMissing)
      ((Source.stop tag).perform source) := by
  obtain ⟨roster, tracks⟩ := placed.tracks
  obtain ⟨listener, found⟩ := tracks.finds_iff.2 known
  unfold Source.stop
  rw [Act.perform_bind, Act.perform_get]
  simp only [found, Option.bind_some]
  cases stops : listener.stop? with
  | none =>
    have idle := attachment_of_none found (Listener.of_stop?_eq_none stops)
    have same : Becomes behaviour tags source tag false (source.attachment tag) (.ok (), source) :=
      placed.stays
    rw [idle] at same ⊢
    exact same
  | some begun =>
    obtain ⟨receiver, other⟩ := begun
    simp only [Act.perform_bind, Act.perform_modify]
    by_cases fails : source.detachFails source.detachments = true ∨
      (source.holds receiver = false ∧ source.refusesMissing = true)
    · obtain ⟨failure, failed⟩ := perform_detach_failed (source.setListener other) receiver fails
      simp only [failed]
      exact placed.stop_failed found stops fails failure _
    · obtain ⟨works, allowed⟩ := not_or.1 fails
      rw [Bool.not_eq_true] at works
      cases held : source.holds receiver with
      | false =>
        have passes : source.refusesMissing = false :=
          Bool.eq_false_iff.2 fun strict => allowed ⟨held, strict⟩
        have detached := perform_detach_missing (source.setListener other) receiver works held
          passes
        simp only [detached]
        exact placed.stop_passed found stops works held passes _
      | true =>
        obtain ⟨number, there⟩ := Option.isSome_iff_exists.1 (List.find?_isSome.2
          (List.any_eq_true.1 held))
        have made : source.receivers[number]? = some receiver := by
          simpa [isReceiver] using List.find?_some there
        have detached := perform_detach (source.setListener other) receiver works there
        simp only [detached]
        exact placed.stop_ended found stops works (List.mem_of_find?_eq_some there) made _

end Placed

/-- A receiver that is detached changes neither the receivers nor how the source attaches them. -/
theorem detach_keeps (receiver : Receiver) :
    (Law.keeping fun source : Source => (source.attachFails, source.receivers)).Obeyed
      (detach receiver) := by
  have handed : ∀ (source : Source) handouts,
      ((source.handOut handouts).attachFails, (source.handOut handouts).receivers) =
        (source.attachFails, source.receivers) := by
    intro source handouts
    rw [handOut_eq]
  refine Law.obeyed_get_bind fun source => Law.ObeyedAt.bind (handed source.tried _) fun _ => ?_
  refine Law.Obeyed.ite (Law.Obeyed.bind (fun _ => rfl) fun _ => ?_) ?_
  all_goals
    split
    · exact .ite (fun _ => rfl) fun source => handed source _
    · exact fun source => handed (source.setAttached _) _

/-- Nor does a stop. -/
theorem stop_keeps (tag : String) :
    (Law.keeping fun source : Source => (source.attachFails, source.receivers)).Obeyed
      (stop tag) := by
  refine Law.obeyed_get_bind fun source => ?_
  split
  · exact Law.obeyed_pure () source
  · exact Law.ObeyedAt.bind rfl fun _ => (detach_keeps _).bind fun _ _ => rfl

namespace Placed

/-- What a callback does about an event is done to its own listener. -/
theorem respond (placed : Placed behaviour tags source) (known : tag ∈ tags) (event : String)
    (response : Response) :
    Placed behaviour tags ((Source.respond tag event response).perform source).2 ∧
      ∀ which, ((Source.respond tag event response).perform source).2.attachment which =
        if which = tag then
          (source.attachment tag).respond (source.attachFails source.receivers.length)
            (source.detachFails source.detachments) source.refusesMissing response
        else source.attachment which := by
  have same : Becomes behaviour tags source tag false (source.attachment tag) (.ok (), source) :=
    placed.stays
  have stopped := placed.stop known
  cases response with
  | nothing | fail => exact ⟨placed, same.attachment⟩
  | stop => exact ⟨stopped.placed, stopped.attachment⟩
  | restart =>
    obtain ⟨sameFails, sameReceivers⟩ := Prod.mk.inj (stop_keeps tag source)
    simp only [Source.respond, Act.perform_bind]
    rcases outcome : (Source.stop tag).perform source with ⟨failure | _, middle⟩
    · rw [outcome] at stopped
      refine ⟨stopped.placed, fun which => (stopped.attachment which).trans ?_⟩
      rw [Attachment.respond, Attachment.start_stop_of_fails stopped.fails.symm]
    · rw [outcome] at stopped sameFails sameReceivers
      simp only at sameFails sameReceivers
      have started := stopped.placed.start known
      refine ⟨started.placed, fun which => (started.attachment which).trans ?_⟩
      simp only [sameFails, sameReceivers, stopped.attachment, if_true]
      split
      · rfl
      · rfl

end Placed

/-- What an occurrence makes of the way in which the listener of a tag is attached. An event
concerns the listener alone that it goes on to. -/
def attachmentAfter (source : Source) (tag : String) : Occurrence → Attachment
  | .start other =>
    if tag = other then
      (source.attachment tag).start (source.attachFails source.receivers.length)
    else source.attachment tag
  | .stop other =>
    if tag = other then
      (source.attachment tag).stop (source.detachFails source.detachments) source.refusesMissing
    else source.attachment tag
  | .deliver number event =>
    match source.receivers[number]? with
    | none => source.attachment tag
    | some receiver =>
      if tag = receiver.tag ∧ source.passesOn receiver then
        (source.attachment tag).respond (source.attachFails source.receivers.length)
          (source.detachFails source.detachments) source.refusesMissing (source.response event)
      else source.attachment tag

namespace Placed

/-- An event that goes on to a callback has the callback do something about it. -/
theorem deliver (placed : Placed behaviour tags source) (number : Nat) (event : String) :
    Placed behaviour tags ((emitTo number event).perform source).2 ∧
      ∀ which, ((emitTo number event).perform source).2.attachment which =
        source.attachmentAfter which (.deliver number event) := by
  simp only [attachmentAfter]
  unfold emitTo
  rw [Act.perform_bind, Act.perform_get]
  cases made : source.receivers[number]? with
  | none =>
    simp only [made]
    exact ⟨placed, fun _ => rfl⟩
  | some receiver =>
    simp only [made]
    unfold Source.deliver
    rw [Act.perform_bind, Act.perform_get]
    cases passes : source.passesOn receiver with
    | false =>
      simp only [passes, Bool.false_eq_true, if_false, and_false]
      exact ⟨placed, fun _ => rfl⟩
    | true =>
      obtain ⟨roster, tracks⟩ := placed.tracks
      have known := tracks.owned receiver (List.mem_of_getElem? made)
      have noted := handOut_of_passesOn made passes event
      have handed := placed.handOut [⟨number, event⟩]
      rw [noted] at handed
      have same : ∀ which, (source.noted receiver event).attachment which =
          source.attachment which := fun which => noted ▸ attachment_handOut source _ which
      obtain ⟨still, attached⟩ := handed.respond known event (source.response event)
      simp only [passes, if_true, and_true, Act.perform_bind, Act.perform_set]
      refine ⟨still, fun which => (attached which).trans ?_⟩
      rw [same, same]
      split
      · rename_i here
        rw [here]
        rfl
      · rfl

/-- A tag that no listener has is nothing to a source. -/
theorem unknown (placed : Placed behaviour tags source) (unknown : tag ∉ tags) :
    (Source.start tag).perform source = (.ok (), source) ∧
      (Source.stop tag).perform source = (.ok (), source) := by
  obtain ⟨roster, tracks⟩ := placed.tracks
  have missing : source.listener? tag = none := by
    rw [← tracks.finds_iff] at unknown
    exact Option.eq_none_iff_forall_ne_some.2 fun listener found => unknown ⟨listener, found⟩
  unfold Source.start Source.stop
  simp only [Act.perform_bind, Act.perform_get, missing]
  exact ⟨rfl, rfl⟩

/-- Whatever happens, the attached receivers stay those that listeners have, and each listener is
attached as it should be then. -/
theorem happen (placed : Placed behaviour tags source) (occurrence : Occurrence) :
    Placed behaviour tags ((perform occurrence).perform source).2 ∧
      ∀ tag ∈ tags, ((perform occurrence).perform source).2.attachment tag =
        source.attachmentAfter tag occurrence := by
  cases occurrence with
  | start other =>
    by_cases known : other ∈ tags
    · have started := placed.start known
      exact ⟨started.placed, fun tag _ => started.after tag⟩
    · obtain ⟨nothing, -⟩ := placed.unknown known
      simp only [perform, nothing]
      refine ⟨placed, fun tag here => (if_neg ?_).symm⟩
      rintro rfl
      exact known here
  | stop other =>
    by_cases known : other ∈ tags
    · have stopped := placed.stop known
      exact ⟨stopped.placed, fun tag _ => stopped.after tag⟩
    · obtain ⟨-, nothing⟩ := placed.unknown known
      simp only [perform, nothing]
      refine ⟨placed, fun tag here => (if_neg ?_).symm⟩
      rintro rfl
      exact known here
  | deliver number event =>
    obtain ⟨still, attached⟩ := placed.deliver number event
    exact ⟨still, fun tag _ => attached tag⟩

/-- This holds behind all that happens, by induction over it. -/
theorem afterAll (placed : Placed behaviour tags source) (occurrences : List Occurrence) :
    Placed behaviour tags (source.afterAll occurrences) := by
  induction occurrences generalizing source with
  | nil => exact placed
  | cons occurrence occurrences inductionHypothesis =>
    exact inductionHypothesis (placed.happen occurrence).1

/-- A listener whose receiver was not attached stays so, where the source refuses to detach it: a
start does nothing, and no stop ends. -/
theorem unattached_afterAll (placed : Placed behaviour tags source) (known : tag ∈ tags)
    (strict : behaviour.refusesMissing = true)
    (unattached : source.attachment tag = .unattached) (occurrences : List Occurrence) :
    (source.afterAll occurrences).attachment tag = .unattached := by
  induction occurrences generalizing source with
  | nil => exact unattached
  | cons occurrence occurrences inductionHypothesis =>
    obtain ⟨still, attached⟩ := placed.happen occurrence
    refine inductionHypothesis still ((attached tag known).trans ?_)
    obtain ⟨roster, tracks⟩ := placed.tracks
    obtain rfl := tracks.behaves
    unfold attachmentAfter
    rw [unattached, strict]
    cases occurrence with
    | start other => exact ite_self _
    | stop other => simp only [Attachment.stop_unattached, ite_self]
    | deliver number event =>
      simp only [Attachment.respond_unattached, ite_self]
      split <;> rfl

/-- Where nothing fails, every listener is as it says. -/
theorem sound_afterAll (placed : Placed behaviour tags source) (known : tag ∈ tags)
    (attaches : ∀ number, behaviour.attachFails number = false)
    (detaches : ∀ number, behaviour.detachFails number = false)
    (sound : (source.attachment tag).Sound) (occurrences : List Occurrence) :
    ((source.afterAll occurrences).attachment tag).Sound := by
  induction occurrences generalizing source with
  | nil => exact sound
  | cons occurrence occurrences inductionHypothesis =>
    obtain ⟨still, attached⟩ := placed.happen occurrence
    refine inductionHypothesis still ?_
    obtain ⟨roster, tracks⟩ := placed.tracks
    obtain rfl := tracks.behaves
    rw [attached tag known]
    unfold attachmentAfter
    rw [attaches, detaches]
    cases occurrence with
    | start other =>
      simp only
      split
      · exact sound.start
      · exact sound
    | stop other =>
      simp only
      split
      · exact sound.stop _
      · exact sound
    | deliver number event =>
      simp only
      split
      · exact sound
      · split
        · exact sound.respond _ _
        · exact sound

end Placed

/-- Before anything happened, nothing is attached. -/
theorem placed_fresh (behaviour : Behaviour) (tags : List String) :
    Placed behaviour tags (fresh behaviour tags) where
  tracks := ⟨{}, (settled_fresh behaviour tags).toTracks⟩
  receiver _ _ _ found has := by
    obtain ⟨_, -, rfl⟩ := List.mem_map.1 (List.mem_of_find?_eq_some found)
    cases has
  attached _ member := nomatch member
  once := List.nodup_nil

theorem attachment_fresh (behaviour : Behaviour) (tags : List String) (tag : String) :
    (fresh behaviour tags).attachment tag = .idle := by
  unfold attachment
  cases found : (fresh behaviour tags).listener? tag with
  | none => rfl
  | some listener =>
    obtain ⟨_, -, rfl⟩ := List.mem_map.1 (List.mem_of_find?_eq_some found)
    rfl

/-- What a listener says, and what is true of it. -/
structure Account (behaviour : Behaviour) (source : Source) (tag : String) : Prop where
  /-- It says that it is listening unless it is idle, -/
  listens : source.Listens tag ↔ source.attachment tag ≠ .idle
  /-- but events are forwarded only while it is live. -/
  forwards : source.Forwards tag ↔ source.attachment tag = .live
  /-- It ceases to be idle or live through a start or a stop that fails, and only so. -/
  after : ∀ occurrence, ((perform occurrence).perform source).2.attachment tag =
    source.attachmentAfter tag occurrence
  starts : (Act.ending ((start tag).perform source).1).isSome =
    (source.attachment tag).startFails (source.attachFails source.receivers.length)
  stops : (Act.ending ((stop tag).perform source).1).isSome =
    (source.attachment tag).stopFails (source.detachFails source.detachments)
      source.refusesMissing
  /-- Behind a start that failed nothing brings the events back, where the source refuses to detach
  what is not attached. -/
  forGood : behaviour.refusesMissing = true → source.attachment tag = .unattached →
    ∀ later, (source.afterAll later).attachment tag = .unattached
  /-- Where nothing fails, it is listening while events are forwarded. -/
  sound : (∀ number, behaviour.attachFails number = false) →
    (∀ number, behaviour.detachFails number = false) → (source.Listens tag ↔ source.Forwards tag)

/-- Behind any starts, stops and events, whichever of them fail, a listener that says that it is
listening is live, or it has a receiver that the source does not hold, or the source holds a
receiver of its that is not the current one. -/
theorem afterAll_attachment (behaviour : Behaviour) (tags : List String)
    (occurrences : List Occurrence) {tag : String} (known : tag ∈ tags) :
    (fresh behaviour tags).attachment tag = .idle ∧
      Account behaviour ((fresh behaviour tags).afterAll occurrences) tag := by
  have idle := attachment_fresh behaviour tags tag
  have start := placed_fresh behaviour tags
  have placed := start.afterAll occurrences
  have listens := listens_iff ((fresh behaviour tags).afterAll occurrences) tag
  have forwards := placed.forwards_iff tag
  refine ⟨idle, {
    listens
    forwards
    after := fun occurrence => (placed.happen occurrence).2 tag known
    starts := (placed.start known).fails
    stops := (placed.stop known).fails
    forGood := placed.unattached_afterAll known
    sound := fun attaches detaches => ?_ }⟩
  rw [listens, forwards]
  rcases start.sound_afterAll known attaches detaches (.inl idle) occurrences with here | here
  · simp [here]
  · simp [here]

/-- A source that refuses its first receiver. -/
def refusing : Behaviour where
  attachFails number := number = 0

/-- A source that does not let its first receiver go. -/
def clinging : Behaviour where
  detachFails number := number = 0

theorem afterAll_attachment_refusing :
    "monitor" ∈ ["monitor"] ∧
      Account refusing ((fresh refusing ["monitor"]).afterAll [.start "monitor", .stop "monitor"])
        "monitor" ∧
      ((fresh refusing ["monitor"]).afterAll [.start "monitor", .stop "monitor"]).attachment
        "monitor" = .unattached ∧
      ((fresh clinging ["monitor"]).afterAll [.start "monitor", .stop "monitor"]).attachment
        "monitor" = .outdated := by
  have known : "monitor" ∈ ["monitor"] := List.mem_cons_self
  exact ⟨known, (afterAll_attachment refusing ["monitor"] _ known).2, by decide, by decide⟩

/-- Behind a start that failed, and behind a stop that failed, a listener says that it is listening
although nothing is forwarded to it; a second start does not change that. -/
theorem listens_without_forwards :
    (let failed := (fresh refusing ["monitor"]).afterAll [.start "monitor"]
    let again := failed.afterAll [.start "monitor"]
    failed.Listens "monitor" ∧ ¬failed.Forwards "monitor" ∧
      again.Listens "monitor" ∧ ¬again.Forwards "monitor") ∧
    let failed := (fresh clinging ["monitor"]).afterAll [.start "monitor", .stop "monitor"]
    let again := failed.afterAll [.start "monitor"]
    failed.Listens "monitor" ∧ ¬failed.Forwards "monitor" ∧
      again.Listens "monitor" ∧ ¬again.Forwards "monitor" := by
  have first := placed_fresh refusing ["monitor"]
  have other := placed_fresh clinging ["monitor"]
  refine ⟨⟨by decide, ?_, by decide, ?_⟩, by decide, ?_, by decide, ?_⟩
  · rw [(first.afterAll _).forwards_iff]
    decide
  · rw [((first.afterAll _).afterAll _).forwards_iff]
    decide
  · rw [(other.afterAll _).forwards_iff]
    decide
  · rw [((other.afterAll _).afterAll _).forwards_iff]
    decide

end Source

end ThreadHost
