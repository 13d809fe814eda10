import ThreadHost.Proofs.Listener.Generation
/-!
# Attached receivers

Whether a listener says that it is listening and whether events are forwarded to it are two things
(`Listens`, `Forwards`), and its receiver, its generation and what the source holds tell of both
(`Attachment`). Whichever starts and stops have failed, the source holds no receiver but such as a
listener has (`Placed`).
-/

namespace ThreadHost

namespace Source

/-- How a listener is attached to its source. -/
inductive Attachment where
  /-- It has no receiver. -/
  | idle
  /-- The source holds its receiver, and forwards events through it. -/
  | live
  /-- The source does not hold its receiver. -/
  | unattached
  /-- The source holds its receiver, which is not the current one any more. -/
  | outdated
  deriving Repr, DecidableEq

variable {behaviour : Behaviour} {tags : List String} {source : Source} {listener other : Listener}
  {receiver : Receiver} {tag : String} {number : Nat}

/-- Whether the listener of a tag says that it is listening. -/
def Listens (source : Source) (tag : String) : Prop :=
  (source.listener? tag).any Listener.isListening = true

instance (source : Source) (tag : String) : Decidable (source.Listens tag) :=
  inferInstanceAs (Decidable (_ = true))

/-- The source holds a receiver of a listener whose events go on to the callback. -/
def Forwards (source : Source) (tag : String) : Prop :=
  ∃ number ∈ source.held tag, ∀ event,
    (source.hand ⟨number, event⟩).deliveries = source.deliveries ++ [⟨tag, event⟩]

/-- Whether the source holds a receiver. -/
def holds (source : Source) (receiver : Receiver) : Bool :=
  source.attached.any (source.isReceiver receiver)

/-- How the listener of a tag is attached. -/
def attachment (source : Source) (tag : String) : Attachment :=
  match source.listener? tag with
  | none => .idle
  | some listener =>
    match listener.receiver with
    | none => .idle
    | some receiver =>
      if source.holds receiver then if listener.forwards receiver then .live else .outdated
      else .unattached

theorem attachment_of_none (found : source.listener? tag = some listener)
    (idle : listener.receiver = none) : source.attachment tag = .idle := by
  simp [attachment, found, idle]

theorem attachment_of_some (found : source.listener? tag = some listener)
    (has : listener.receiver = some receiver) :
    source.attachment tag =
      if source.holds receiver then if listener.forwards receiver then .live else .outdated
      else .unattached := by
  simp [attachment, found, has]

/-- The receiver of a listener that is live is held and is the current one. -/
theorem of_attachment_live (live : source.attachment tag = .live) :
    ∃ listener receiver, source.listener? tag = some listener ∧
      listener.receiver = some receiver ∧ source.holds receiver = true ∧
      listener.forwards receiver = true := by
  unfold attachment at live
  split at live
  · cases live
  · rename_i listener found
    split at live
    · cases live
    · rename_i receiver has
      split at live
      · rename_i held
        split at live
        · rename_i current
          exact ⟨listener, receiver, found, has, held, current⟩
        · cases live
      · cases live

theorem holds_iff : source.holds receiver = true ↔
    ∃ number ∈ source.attached, source.receivers[number]? = some receiver := by
  simp [holds, isReceiver]

theorem holds_handOut (source : Source) (handouts : List Handout) (receiver : Receiver) :
    (source.handOut handouts).holds receiver = source.holds receiver := by
  rw [handOut_eq]
  rfl

/-- The events that are handed out are nothing to who is attached. -/
@[simp] theorem attachment_handOut (source : Source) (handouts : List Handout) (tag : String) :
    (source.handOut handouts).attachment tag = source.attachment tag := by
  unfold attachment
  simp only [listener?_handOut, holds_handOut]

/-- A listener is found where one of its tag was. -/
theorem listener?_replaced (found : source.listener? tag = some listener)
    (sameTag : other.tag = tag) (which : String) :
    (source.setListener other).listener? which =
      if which = tag then some other else source.listener? which := by
  rw [listener?_setListener, sameTag]
  split
  · rename_i here
    rw [here, found]
    rfl
  · rfl

/-- A listener says that it is listening while it has a receiver. -/
theorem listens_iff (source : Source) (tag : String) :
    source.Listens tag ↔ source.attachment tag ≠ .idle := by
  cases found : source.listener? tag with
  | none => simp [Listens, attachment, found]
  | some listener =>
    cases has : listener.receiver with
    | none =>
      rw [attachment_of_none found has]
      simp [Listens, found, Listener.isListening, has]
    | some receiver =>
      have listens : source.Listens tag := by simp [Listens, found, Listener.isListening, has]
      rw [attachment_of_some found has, iff_true_left listens]
      split
      · split <;> exact Attachment.noConfusion
      · exact Attachment.noConfusion

/-- Of the receivers that listeners have, some are attached, and no others are, whichever starts
and stops have failed. -/
structure Placed (behaviour : Behaviour) (tags : List String) (source : Source) : Prop where
  tracks : ∃ roster, Tracks behaviour tags source roster
  /-- What a listener has for a receiver was made for it. -/
  receiver : ∀ tag listener receiver, source.listener? tag = some listener →
    listener.receiver = some receiver → receiver ∈ source.receivers ∧ receiver.tag = tag
  attached : ∀ number ∈ source.attached, ∃ receiver listener,
    source.receivers[number]? = some receiver ∧
      source.listener? receiver.tag = some listener ∧ listener.receiver = some receiver
  once : source.attached.Nodup

namespace Placed

theorem handOut (placed : Placed behaviour tags source) (handouts : List Handout) :
    Placed behaviour tags (source.handOut handouts) where
  tracks := by
    obtain ⟨roster, tracks⟩ := placed.tracks
    exact ⟨_, tracks.handOut handouts⟩
  receiver := by simpa using placed.receiver
  attached := by simpa using placed.attached
  once := by simpa using placed.once

/-- Two numbers are never those of one receiver. -/
theorem number_inj (placed : Placed behaviour tags source) {first second : Nat}
    (one : source.receivers[first]? = some receiver)
    (two : source.receivers[second]? = some receiver) : first = second := by
  obtain ⟨roster, tracks⟩ := placed.tracks
  exact (List.getElem?_inj (List.getElem?_eq_some_iff.1 one).1 tracks.distinct).1
    (one.trans two.symm)

/-- Only numbers of receivers are attached. -/
theorem lt_of_attached (placed : Placed behaviour tags source) (attached : number ∈ source.attached) :
    number < source.receivers.length := by
  obtain ⟨receiver, _, made, -⟩ := placed.attached number attached
  exact (List.getElem?_eq_some_iff.1 made).1

/-- A listener stays attached as it is when neither it nor the receivers of its tag change. -/
theorem attachment_congr (placed : Placed behaviour tags source) {after : Source}
    (same : after.listener? tag = source.listener? tag)
    (holds : ∀ receiver ∈ source.receivers, receiver.tag = tag →
      after.holds receiver = source.holds receiver) :
    after.attachment tag = source.attachment tag := by
  unfold attachment
  rw [same]
  cases found : source.listener? tag with
  | none => rfl
  | some listener =>
    cases has : listener.receiver with
    | none => simp only [has]
    | some receiver =>
      obtain ⟨made, sameTag⟩ := placed.receiver tag listener receiver found has
      simp only [has, holds receiver made sameTag]

/-- Events are forwarded while the source holds the current receiver. -/
theorem forwards_iff (placed : Placed behaviour tags source) (tag : String) :
    source.Forwards tag ↔ source.attachment tag = .live := by
  constructor
  · rintro ⟨number, held, forwards⟩
    obtain ⟨attached, -⟩ := List.mem_filter.1 held
    obtain ⟨receiver, listener, made, found, has⟩ := placed.attached number attached
    have reached := forwards ""
    unfold hand at reached
    simp only [made, passesOn, found, Option.any_some] at reached
    split at reached
    · rename_i current
      have sameTag : receiver.tag = tag := by simpa [noted] using reached
      have holds : source.holds receiver = true := holds_iff.2 ⟨number, attached, made⟩
      rw [sameTag] at found
      rw [attachment_of_some found has, if_pos holds, if_pos current]
    · simp at reached
  · intro live
    obtain ⟨listener, receiver, found, has, holds, current⟩ := of_attachment_live live
    obtain ⟨-, sameTag⟩ := placed.receiver tag listener receiver found has
    obtain ⟨number, attached, made⟩ := holds_iff.1 holds
    refine ⟨number, List.mem_filter.2 ⟨attached, by simp [made, sameTag]⟩, fun event => ?_⟩
    have passes : source.passesOn receiver = true := by
      simp [passesOn, sameTag, found, current]
    simp [hand, made, passes, noted, sameTag]

/-- A listener that is idle has no attached receiver. -/
theorem ne_of_idle (placed : Placed behaviour tags source)
    (found : source.listener? tag = some listener) (idle : listener.receiver = none)
    (attached : number ∈ source.attached) (made : source.receivers[number]? = some receiver) :
    receiver.tag ≠ tag := by
  rintro rfl
  obtain ⟨same, owner, there, owned, has⟩ := placed.attached number attached
  cases made.symm.trans there
  cases found.symm.trans owned
  cases idle.symm.trans has

/-- A start makes a receiver, which is not attached yet. -/
theorem make (placed : Placed behaviour tags source)
    (found : source.listener? tag = some listener)
    (starts : listener.start? = some (receiver, other)) :
    Placed behaviour tags ((source.setListener other).numbered receiver) := by
  obtain ⟨idle, made, next⟩ := Listener.of_start?_eq_some starts
  have listenerTag := tag_of_listener? found
  have receiverTag : receiver.tag = tag := by rw [made, listenerTag]
  have finds : ∀ which, ((source.setListener other).numbered receiver).listener? which =
      if which = tag then some other else source.listener? which :=
    listener?_replaced found (by rw [next, listenerTag])
  refine ⟨?_, fun which owner its there has => ?_, fun number attached => ?_, placed.once⟩
  · obtain ⟨roster, tracks⟩ := placed.tracks
    exact ⟨_, tracks.make found starts⟩
  · rw [finds] at there
    split at there
    · rename_i here
      cases there
      rw [next] at has
      cases has
      exact ⟨List.mem_append_right _ List.mem_cons_self, receiverTag.trans here.symm⟩
    · obtain ⟨member, sameTag⟩ := placed.receiver which owner its there has
      exact ⟨List.mem_append_left _ member, sameTag⟩
  · obtain ⟨its, owner, there, owned, has⟩ := placed.attached number attached
    refine ⟨its, owner, ?_, ?_, has⟩
    · exact (List.getElem?_append_left (placed.lt_of_attached attached)).trans there
    · rw [finds, if_neg (placed.ne_of_idle found idle attached there)]
      exact owned

/-- The source may hold the receiver that a listener has. -/
theorem attach (placed : Placed behaviour tags source)
    (made : source.receivers[number]? = some receiver)
    (found : source.listener? receiver.tag = some listener)
    (has : listener.receiver = some receiver) (new : number ∉ source.attached) :
    Placed behaviour tags (source.setAttached (source.attached ++ [number])) where
  tracks := by
    obtain ⟨roster, tracks⟩ := placed.tracks
    exact ⟨roster, tracks.attached _⟩
  receiver := placed.receiver
  attached := by
    intro another member
    rcases List.mem_append.1 member with attached | here
    · exact placed.attached another attached
    · rw [List.mem_singleton.1 here]
      exact ⟨receiver, listener, made, found, has⟩
  once := List.nodup_append.2 ⟨placed.once, List.nodup_singleton _, by
    rintro another member last here rfl
    rw [List.mem_singleton.1 here] at member
    exact new member⟩

/-- A stop moves the generation of its listener on. -/
theorem retire (placed : Placed behaviour tags source)
    (found : source.listener? tag = some listener)
    (stops : listener.stop? = some (receiver, other)) :
    Placed behaviour tags (source.setListener other).tried := by
  obtain ⟨held, otherTag, next⟩ := Listener.of_stop?_eq_some stops
  have has := Listener.receiver_of_stop? stops
  obtain rfl := tag_of_listener? found
  have finds : ∀ which, (source.setListener other).tried.listener? which =
      if which = listener.tag then some other else source.listener? which :=
    listener?_replaced found otherTag
  refine ⟨?_, fun which owner its there owns => ?_, fun number attached => ?_, placed.once⟩
  · obtain ⟨roster, tracks⟩ := placed.tracks
    exact ⟨_, (tracks.advance found otherTag next).retire⟩
  · rw [finds] at there
    split at there
    · rename_i here
      cases there
      rw [here]
      exact placed.receiver _ _ _ found (held.trans (has.symm.trans owns))
    · exact placed.receiver which owner its there owns
  · obtain ⟨its, owner, there, owned, owns⟩ := placed.attached number attached
    rw [show (source.setListener other).tried.receivers = source.receivers from rfl]
    by_cases here : its.tag = listener.tag
    · rw [here] at owned
      cases found.symm.trans owned
      cases held.symm.trans owns
      exact ⟨receiver, other, there, by rw [finds, if_pos here], has⟩
    · exact ⟨its, owner, there, by rw [finds, if_neg here]; exact owned, owns⟩

/-- The source may hold fewer receivers. -/
theorem detach (placed : Placed behaviour tags source) (number : Nat) :
    Placed behaviour tags (source.setAttached (source.attached.erase number)) where
  tracks := by
    obtain ⟨roster, tracks⟩ := placed.tracks
    exact ⟨roster, tracks.attached _⟩
  receiver := placed.receiver
  attached another member := placed.attached another (List.mem_of_mem_erase member)
  once := placed.once.erase number

/-- A listener may forget a receiver that the source does not hold. -/
theorem release (placed : Placed behaviour tags source)
    (found : source.listener? tag = some listener) (has : listener.receiver = some receiver)
    (unheld : source.holds receiver = false) :
    Placed behaviour tags (source.setListener listener.release) := by
  obtain rfl := tag_of_listener? found
  have finds : ∀ which, (source.setListener listener.release).listener? which =
      if which = listener.tag then some listener.release else source.listener? which :=
    listener?_replaced found rfl
  refine ⟨?_, fun which owner its there owns => ?_, fun number attached => ?_, placed.once⟩
  · obtain ⟨roster, tracks⟩ := placed.tracks
    exact ⟨roster, tracks.setListener found rfl rfl⟩
  · rw [finds] at there
    split at there
    · cases there
      cases owns
    · exact placed.receiver which owner its there owns
  · obtain ⟨its, owner, there, owned, owns⟩ := placed.attached number attached
    refine ⟨its, owner, there, ?_, owns⟩
    rw [finds, if_neg, owned]
    intro here
    rw [here, found] at owned
    cases owned
    cases has.symm.trans owns
    cases unheld.symm.trans (holds_iff.2 ⟨number, attached, there⟩)

/-- A receiver is never ahead of its listener. -/
theorem generation_le (placed : Placed behaviour tags source)
    (found : source.listener? tag = some listener) (has : listener.receiver = some receiver) :
    receiver.generation ≤ listener.generation := by
  obtain ⟨roster, tracks⟩ := placed.tracks
  obtain ⟨member, rfl⟩ := placed.receiver tag listener receiver found has
  rw [tracks.generation found]
  exact tracks.bounded receiver member

/-- What is attached is not changed by another receiver that is made. -/
theorem holds_numbered (placed : Placed behaviour tags source) (other : Listener)
    (receiver another : Receiver) :
    ((source.setListener other).numbered receiver).holds another = source.holds another := by
  rw [Bool.eq_iff_iff, holds_iff, holds_iff]
  refine exists_congr fun number => and_congr_right fun attached => ?_
  rw [receivers_numbered, receivers_setListener,
    List.getElem?_append_left (placed.lt_of_attached attached)]

/-- A listener that is started is not attached at first. -/
theorem attachment_make (placed : Placed behaviour tags source)
    (found : source.listener? tag = some listener)
    (starts : listener.start? = some (receiver, other)) (which : String) :
    ((source.setListener other).numbered receiver).attachment which =
      if which = tag then .unattached else source.attachment which := by
  obtain ⟨idle, made, next⟩ := Listener.of_start?_eq_some starts
  have listenerTag := tag_of_listener? found
  have finds : ((source.setListener other).numbered receiver).listener? which =
      if which = tag then some other else source.listener? which :=
    listener?_replaced found (by rw [next, listenerTag]) which
  split
  · rename_i here
    have unheld : source.holds receiver = false := by
      rw [Bool.eq_false_iff, Ne, holds_iff]
      rintro ⟨number, attached, there⟩
      exact placed.ne_of_idle found idle attached there (by rw [made, listenerTag])
    rw [if_pos here] at finds
    rw [attachment_of_some finds (by rw [next]), placed.holds_numbered, unheld]
    rfl
  · rename_i elsewhere
    rw [if_neg elsewhere] at finds
    exact placed.attachment_congr finds fun another _ _ => placed.holds_numbered other receiver another

/-- It is live once its receiver is attached. -/
theorem attachment_attach (placed : Placed behaviour tags source)
    (made : source.receivers[number]? = some receiver)
    (found : source.listener? receiver.tag = some listener)
    (has : listener.receiver = some receiver) (current : listener.forwards receiver = true)
    (which : String) :
    (source.setAttached (source.attached ++ [number])).attachment which =
      if which = receiver.tag then .live else source.attachment which := by
  split
  · rename_i here
    have held : (source.setAttached (source.attached ++ [number])).holds receiver = true :=
      holds_iff.2 ⟨number, List.mem_append_right _ List.mem_cons_self, made⟩
    have still : (source.setAttached (source.attached ++ [number])).listener? which =
        some listener := here ▸ found
    rw [attachment_of_some still has, if_pos held, if_pos current]
  · rename_i elsewhere
    refine placed.attachment_congr rfl fun another _ sameTag => ?_
    rw [Bool.eq_iff_iff, holds_iff, holds_iff]
    refine exists_congr fun other => and_congr_left fun there => ?_
    rw [attached_setAttached, List.mem_append, List.mem_singleton, or_iff_left]
    rintro rfl
    cases made.symm.trans there
    exact elsewhere sameTag.symm

/-- A listener that is stopped has a receiver that is not the current one. -/
theorem attachment_retire (placed : Placed behaviour tags source)
    (found : source.listener? tag = some listener)
    (stops : listener.stop? = some (receiver, other)) (which : String) :
    (source.setListener other).tried.attachment which =
      if which = tag then if source.holds receiver then .outdated else .unattached
      else source.attachment which := by
  obtain ⟨held, otherTag, next⟩ := Listener.of_stop?_eq_some stops
  have has := Listener.receiver_of_stop? stops
  have finds : (source.setListener other).tried.listener? which =
      if which = tag then some other else source.listener? which :=
    listener?_replaced found (otherTag.trans (tag_of_listener? found)) which
  split
  · rename_i here
    have bound := placed.generation_le found held
    have outdated : other.forwards receiver = false := by
      rw [Listener.forwards, decide_eq_false_iff_not]
      omega
    rw [if_pos here] at finds
    rw [attachment_of_some finds has, outdated]
    rfl
  · rename_i elsewhere
    rw [if_neg elsewhere] at finds
    exact placed.attachment_congr finds fun _ _ _ => rfl

/-- Other listeners stay attached when a receiver is detached. -/
theorem attachment_detach (placed : Placed behaviour tags source)
    (made : source.receivers[number]? = some receiver) {which : String}
    (elsewhere : which ≠ receiver.tag) :
    (source.setAttached (source.attached.erase number)).attachment which =
      source.attachment which := by
  refine placed.attachment_congr rfl fun another _ sameTag => ?_
  rw [Bool.eq_iff_iff, holds_iff, holds_iff]
  refine exists_congr fun other => and_congr_left fun there => ?_
  rw [attached_setAttached, placed.once.mem_erase_iff, and_iff_right]
  rintro rfl
  cases made.symm.trans there
  exact elsewhere sameTag.symm

/-- The receiver that was detached is not held any more. -/
theorem unheld_detach (placed : Placed behaviour tags source)
    (made : source.receivers[number]? = some receiver) :
    (source.setAttached (source.attached.erase number)).holds receiver = false := by
  rw [Bool.eq_false_iff, Ne, holds_iff]
  rintro ⟨other, attached, there⟩
  obtain ⟨different, -⟩ := placed.once.mem_erase_iff.1 attached
  exact different (placed.number_inj there made)

end Placed

/-- A listener that forgot its receiver is idle. -/
theorem attachment_release (found : source.listener? tag = some listener) (which : String) :
    (source.setListener listener.release).attachment which =
      if which = tag then .idle else source.attachment which := by
  obtain rfl := tag_of_listener? found
  have finds : (source.setListener listener.release).listener? which =
      if which = listener.tag then some listener.release else source.listener? which :=
    listener?_replaced found (show listener.release.tag = listener.tag from rfl) which
  split
  · rename_i here
    rw [if_pos here] at finds
    exact attachment_of_none finds rfl
  · rename_i elsewhere
    rw [if_neg elsewhere] at finds
    unfold attachment
    rw [finds]
    rfl

end Source

end ThreadHost
