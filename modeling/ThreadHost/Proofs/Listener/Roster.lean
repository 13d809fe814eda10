import Mathlib.Data.List.Nodup
import Mathlib.Logic.Function.Basic
import ThreadHost.Listener.Source
/-!
# What the generation of a listener guards

A `Roster` tells from the numbers of the receivers alone who listens: the receiver of the latest
start, as long as no stop has begun since. A listener knows no more than its own generation and that
of each receiver. That both come to the same is what `Tracks` says. It holds at every point inside a
start or a stop at which the source is called, and so of every event that is handed out there.
-/

namespace ThreadHost

namespace Listener

variable {listener after : Listener} {receiver : Receiver}

/-- What a start makes of a listener that was idle. -/
theorem of_start?_eq_some (starts : listener.start? = some (receiver, after)) :
    listener.receiver = none ∧ receiver = ⟨listener.tag, listener.generation + 1⟩ ∧
      after = ⟨listener.tag, listener.generation + 1, some receiver⟩ := by
  unfold start? at starts
  split at starts
  · cases starts
  · rename_i idle
    cases starts
    exact ⟨idle, rfl, rfl⟩

/-- What a stop makes of a listener that was listening, before its receiver is detached. -/
theorem of_stop?_eq_some (stops : listener.stop? = some (receiver, after)) :
    listener.receiver = some receiver ∧ after.tag = listener.tag ∧
      after.generation = listener.generation + 1 := by
  unfold stop? at stops
  split at stops
  · cases stops
  · rename_i held
    cases stops
    exact ⟨held, rfl, rfl⟩

/-- A listener that a start does nothing for has a receiver already. -/
theorem of_start?_eq_none (nothing : listener.start? = none) : listener.receiver ≠ none := by
  intro idle
  simp [start?, idle] at nothing

/-- A listener that a stop does nothing for has none. -/
theorem of_stop?_eq_none (nothing : listener.stop? = none) : listener.receiver = none := by
  cases held : listener.receiver with
  | none => rfl
  | some receiver => simp [stop?, held] at nothing

/-- Behind the invalidation a listener has its receiver still. -/
theorem receiver_of_stop? (stops : listener.stop? = some (receiver, after)) :
    after.receiver = some receiver := by
  unfold stop? at stops
  split at stops
  · cases stops
  · rename_i held
    cases stops
    exact held

end Listener

namespace Source

/-- Who listens, told from the numbers of the receivers alone. -/
structure Roster where
  /-- For which listener each receiver was made, by number. -/
  owners : List String := []
  /-- The receiver of the latest start of a listener, while no stop of it has begun since. -/
  current : String → Option Nat := fun _ => none
  /-- How often a listener was started or stopped. -/
  changes : String → Nat := fun _ => 0
  /-- How many stops there were. -/
  stops : Nat := 0
  /-- What reached the callbacks, oldest first. -/
  heard : List Delivery := []

namespace Roster

/-- An event that is handed to the current receiver of its listener reaches the callback. -/
def hand (roster : Roster) (handout : Handout) : Roster :=
  match roster.owners[handout.number]? with
  | none => roster
  | some tag =>
    if roster.current tag = some handout.number then
      { roster with heard := roster.heard ++ [⟨tag, handout.event⟩] }
    else roster

/-- Events are handed out, one after another. -/
def handOut (roster : Roster) (handouts : List Handout) : Roster := handouts.foldl hand roster

/-- What is handed out in the course of attaching or detaching a receiver. -/
def meanwhile (roster : Roster) (course : Meanwhile) : Roster :=
  (roster.handOut course.ahead).handOut course.behind

/-- Whatever receiver a listener has had, it is not the current one any more. -/
def advance (tag : String) (roster : Roster) : Roster :=
  { roster with
    current := Function.update roster.current tag none
    changes := Function.update roster.changes tag (roster.changes tag + 1) }

/-- A listener is stopped. -/
def retire (tag : String) (roster : Roster) : Roster :=
  { roster.advance tag with stops := roster.stops + 1 }

/-- A new receiver is the current one of its listener. -/
def enter (tag : String) (roster : Roster) : Roster :=
  { roster with
    owners := roster.owners ++ [tag]
    current := Function.update roster.current tag (some roster.owners.length) }

variable (behaviour : Behaviour) (tags : List String)

/-- A listener that is idle is started. -/
def start (tag : String) (roster : Roster) : Roster :=
  if tag ∈ tags ∧ roster.current tag = none then
    ((roster.advance tag).enter tag).meanwhile (behaviour.whileAttaching roster.owners.length)
  else roster

/-- A listener that is listening is stopped. -/
def stop (tag : String) (roster : Roster) : Roster :=
  if roster.current tag = none then roster
  else (roster.retire tag).meanwhile (behaviour.whileDetaching roster.stops)

/-- What becomes of it when a callback does something about an event. -/
def respond (tag : String) (roster : Roster) : Response → Roster
  | .nothing | .fail => roster
  | .stop => roster.stop behaviour tag
  | .restart => (roster.stop behaviour tag).start behaviour tags tag

/-- An event reaches the receiver of a number. -/
def deliver (number : Nat) (event : String) (roster : Roster) : Roster :=
  match roster.owners[number]? with
  | none => roster
  | some tag =>
    if roster.current tag = some number then
      (roster.hand ⟨number, event⟩).respond behaviour tags tag (behaviour.response event)
    else roster

/-- Something happens. -/
def after (roster : Roster) : Occurrence → Roster
  | .start tag => roster.start behaviour tags tag
  | .stop tag => roster.stop behaviour tag
  | .deliver number event => roster.deliver behaviour tags number event

end Roster

variable {behaviour : Behaviour} {tags : List String} {source : Source} {roster : Roster}
  {listener other : Listener} {receiver : Receiver} {tag : String} {number : Nat}

/-- The tag by which a listener is found is its own. -/
theorem tag_of_listener? (found : source.listener? tag = some listener) : listener.tag = tag := by
  simpa using List.find?_some found

/-- Only a listener of the same tag is replaced, by one of the same tag. -/
theorem replaced_tag (listener other : Listener) :
    (if other.tag = listener.tag then listener else other).tag = other.tag := by
  split
  · rename_i same
    exact same.symm
  · rfl

/-- The listener that is put in its place is found there, and all others as before. -/
theorem listener?_setListener (source : Source) (listener : Listener) (tag : String) :
    (source.setListener listener).listener? tag =
      if tag = listener.tag then (source.listener? tag).map fun _ => listener
      else source.listener? tag := by
  unfold setListener listener?
  simp only [List.find?_map, Function.comp_def, replaced_tag]
  cases found : source.listeners.find? (·.tag = tag) with
  | none => simp
  | some other =>
    have foundTag : other.tag = tag := by simpa using List.find?_some found
    simp only [Option.map_some, foundTag]
    split <;> rfl

@[simp] theorem tags_setListener (source : Source) (listener : Listener) :
    (source.setListener listener).listeners.map (·.tag) = source.listeners.map (·.tag) := by
  unfold setListener
  rw [List.map_map]
  exact List.map_congr_left fun other _ => replaced_tag listener other

/-- Handing out an event changes nothing but what reached the callbacks. -/
theorem hand_eq (source : Source) (handout : Handout) :
    source.hand handout = { source with deliveries := (source.hand handout).deliveries } := by
  unfold hand
  split
  · rfl
  · split <;> rfl

/-- Nor does handing out several. -/
theorem handOut_eq (source : Source) (handouts : List Handout) :
    source.handOut handouts =
      { source with deliveries := (source.handOut handouts).deliveries } := by
  induction handouts generalizing source with
  | nil => rfl
  | cons handout handouts inductionHypothesis =>
    rw [handOut, List.foldl_cons, ← handOut, inductionHypothesis, hand_eq]

@[simp] theorem receivers_handOut (source : Source) (handouts : List Handout) :
    (source.handOut handouts).receivers = source.receivers := by
  rw [handOut_eq]

@[simp] theorem attached_handOut (source : Source) (handouts : List Handout) :
    (source.handOut handouts).attached = source.attached := by
  rw [handOut_eq]

@[simp] theorem listener?_handOut (source : Source) (handouts : List Handout) (tag : String) :
    (source.handOut handouts).listener? tag = source.listener? tag := by
  rw [handOut_eq]
  rfl

/-- The callback of a receiver that passes on takes note of what is handed to it. -/
theorem handOut_of_passesOn (made : source.receivers[number]? = some receiver)
    (passes : source.passesOn receiver = true) (event : String) :
    source.handOut [⟨number, event⟩] = source.noted receiver event := by
  simp [handOut, hand, made, passes]

/-- Who is attached is nothing to the events that are handed out. -/
theorem handOut_setAttached (source : Source) (attached : List Nat) (handouts : List Handout) :
    (source.setAttached attached).handOut handouts =
      (source.handOut handouts).setAttached attached := by
  induction handouts generalizing source with
  | nil => rfl
  | cons handout handouts inductionHypothesis =>
    have first : (source.setAttached attached).hand handout =
        (source.hand handout).setAttached attached := by
      unfold hand setAttached
      cases source.receivers[handout.number]? with
      | none => rfl
      | some receiver =>
        have same : { source with attached }.passesOn receiver = source.passesOn receiver := rfl
        simp only [same]
        split <;> rfl
    rw [handOut, List.foldl_cons, first]
    exact inductionHypothesis _

@[simp] theorem listener?_setAttached (source : Source) (attached : List Nat) (tag : String) :
    (source.setAttached attached).listener? tag = source.listener? tag := rfl

@[simp] theorem receivers_setAttached (source : Source) (attached : List Nat) :
    (source.setAttached attached).receivers = source.receivers := rfl

@[simp] theorem attached_setAttached (source : Source) (attached : List Nat) :
    (source.setAttached attached).attached = attached := rfl

@[simp] theorem receivers_setListener (source : Source) (listener : Listener) :
    (source.setListener listener).receivers = source.receivers := rfl

@[simp] theorem listener?_tried (source : Source) (tag : String) :
    source.tried.listener? tag = source.listener? tag := rfl

@[simp] theorem listener?_numbered (source : Source) (receiver : Receiver) (tag : String) :
    (source.numbered receiver).listener? tag = source.listener? tag := rfl

@[simp] theorem receivers_numbered (source : Source) (receiver : Receiver) :
    (source.numbered receiver).receivers = source.receivers ++ [receiver] := rfl

/-- A receiver gets its number and is attached, and the source hands out what it does meanwhile. -/
theorem perform_attach (source : Source) (receiver : Receiver)
    (works : source.attachFails source.receivers.length = false) :
    (attach receiver).perform source =
      (.ok (), (((source.numbered receiver).setAttached
        (source.attached ++ [source.receivers.length])).handOut
          (source.whileAttaching source.receivers.length).ahead).handOut
            (source.whileAttaching source.receivers.length).behind) := by
  unfold attach
  simp only [Act.perform_bind, Act.perform_get, Act.perform_set, Act.perform_modify, works,
    Bool.false_eq_true, if_false, handOut_setAttached, attached_handOut]
  rfl

/-- A receiver is detached, and the source hands out what it does meanwhile. -/
theorem perform_detach (source : Source) (receiver : Receiver)
    (works : source.detachFails source.detachments = false)
    (found : source.attached.find? (source.isReceiver receiver) = some number) :
    (detach receiver).perform source =
      (.ok (), ((source.tried.setAttached (source.attached.erase number)).handOut
        (source.whileDetaching source.detachments).ahead).handOut
          (source.whileDetaching source.detachments).behind) := by
  unfold detach
  simp only [Act.perform_bind, Act.perform_get, Act.perform_set, Act.perform_modify, works,
    Bool.false_eq_true, if_false, found, handOut_setAttached, attached_handOut]
  rfl

/-- What a listener knows comes to the same as what the numbers of the receivers tell. -/
structure Tracks (behaviour : Behaviour) (tags : List String) (source : Source)
    (roster : Roster) : Prop where
  behaves : source.toBehaviour = behaviour
  named : source.listeners.map (·.tag) = tags
  owners : source.receivers.map (·.tag) = roster.owners
  heard : source.deliveries = roster.heard
  stops : source.detachments = roster.stops
  generation : ∀ {tag listener}, source.listener? tag = some listener →
    listener.generation = roster.changes tag
  owned : ∀ receiver ∈ source.receivers, receiver.tag ∈ tags
  bounded : ∀ receiver ∈ source.receivers, receiver.generation ≤ roster.changes receiver.tag
  /-- The guard: of all receivers there ever were, only the current one has the generation. -/
  guards : ∀ {number receiver}, source.receivers[number]? = some receiver →
    (receiver.generation = roster.changes receiver.tag ↔
      roster.current receiver.tag = some number)
  made : ∀ {tag number}, roster.current tag = some number →
    ∃ receiver, source.receivers[number]? = some receiver ∧ receiver.tag = tag
  distinct : source.receivers.Nodup

namespace Tracks

/-- The listeners that are found are those that there are. -/
theorem finds_iff (tracks : Tracks behaviour tags source roster) :
    (∃ listener, source.listener? tag = some listener) ↔ tag ∈ tags := by
  rw [← tracks.named]
  constructor
  · rintro ⟨listener, found⟩
    rw [← tag_of_listener? found]
    exact List.mem_map_of_mem (List.mem_of_find?_eq_some found)
  · intro known
    obtain ⟨listener, member, rfl⟩ := List.mem_map.1 known
    exact Option.isSome_iff_exists.1 (List.find?_isSome.2 ⟨listener, member, decide_eq_true rfl⟩)

/-- As many receivers are known by their owners as there are. -/
theorem owners_length (tracks : Tracks behaviour tags source roster) :
    roster.owners.length = source.receivers.length := by
  rw [← tracks.owners, List.length_map]

/-- A receiver passes on what reaches it while it is the current one. -/
theorem passesOn_iff (tracks : Tracks behaviour tags source roster)
    (made : source.receivers[number]? = some receiver) :
    source.passesOn receiver = true ↔ roster.current receiver.tag = some number := by
  obtain ⟨listener, found⟩ :=
    tracks.finds_iff.2 (tracks.owned receiver (List.mem_of_getElem? made))
  rw [← tracks.guards made, passesOn, found, ← tracks.generation found]
  simp [Listener.forwards]

/-- For which listener a receiver was made. -/
theorem owner (tracks : Tracks behaviour tags source roster) (number : Nat) :
    roster.owners[number]? = (source.receivers[number]?).map (·.tag) := by
  rw [← tracks.owners, List.getElem?_map]

/-- An event that is handed to a receiver reaches the callback as it should. -/
theorem hand (tracks : Tracks behaviour tags source roster) (handout : Handout) :
    Tracks behaviour tags (source.hand handout) (roster.hand handout) := by
  have owner := tracks.owner handout.number
  unfold Source.hand Roster.hand
  cases made : source.receivers[handout.number]? with
  | none =>
    simp only [owner, made, Option.map_none]
    exact tracks
  | some receiver =>
    simp only [owner, made, Option.map_some]
    by_cases current : roster.current receiver.tag = some handout.number
    · rw [if_pos ((tracks.passesOn_iff made).2 current), if_pos current]
      exact { tracks with heard := congrArg (· ++ _) tracks.heard }
    · rw [if_neg (current ∘ (tracks.passesOn_iff made).1), if_neg current]
      exact tracks

/-- So do several. -/
theorem handOut (tracks : Tracks behaviour tags source roster) (handouts : List Handout) :
    Tracks behaviour tags (source.handOut handouts) (roster.handOut handouts) := by
  induction handouts generalizing source roster with
  | nil => exact tracks
  | cons handout handouts inductionHypothesis => exact inductionHypothesis (tracks.hand handout)

/-- A listener may forget its receiver. -/
theorem setListener (tracks : Tracks behaviour tags source roster)
    (found : source.listener? tag = some other) (sameTag : listener.tag = tag)
    (same : listener.generation = other.generation) :
    Tracks behaviour tags (source.setListener listener) roster :=
  { tracks with
    named := (tags_setListener source listener).trans tracks.named
    generation := by
      intro another third there
      rw [listener?_setListener, sameTag] at there
      split at there
      · rename_i here
        rw [here, found] at there
        cases there
        rw [same, tracks.generation found, here]
      · exact tracks.generation there }

/-- When the generation of a listener moves on, none of its receivers is the current one. -/
theorem advance (tracks : Tracks behaviour tags source roster)
    (found : source.listener? tag = some other) (sameTag : listener.tag = tag)
    (next : listener.generation = other.generation + 1) :
    Tracks behaviour tags (source.setListener listener) (roster.advance tag) :=
  { tracks with
    named := (tags_setListener source listener).trans tracks.named
    generation := by
      intro another third there
      rw [listener?_setListener, sameTag] at there
      simp only [Roster.advance, Function.update_apply]
      split at there
      · rename_i here
        rw [here, found] at there
        cases there
        rw [next, tracks.generation found, if_pos here]
      · rename_i elsewhere
        rw [if_neg elsewhere]
        exact tracks.generation there
    bounded := by
      intro receiver member
      have soFar := tracks.bounded receiver member
      simp only [Roster.advance, Function.update_apply]
      split
      · rename_i here
        rw [here] at soFar
        omega
      · exact soFar
    guards := by
      intro number receiver made
      have soFar := tracks.bounded receiver (List.mem_of_getElem? made)
      have guards := tracks.guards made
      simp only [Roster.advance, Function.update_apply]
      split
      · -- Every generation given out so far is below the new one.
        rename_i here
        rw [here] at soFar
        simp only [reduceCtorEq, iff_false]
        omega
      · exact guards
    made := by
      intro another number current
      simp only [Roster.advance, Function.update_apply] at current
      split at current
      · cases current
      · exact tracks.made current }

/-- A receiver that is made with the generation of an idle listener is its current one. -/
theorem enter (tracks : Tracks behaviour tags source roster) (known : tag ∈ tags)
    (idle : roster.current tag = none) (sameTag : receiver.tag = tag)
    (newest : receiver.generation = roster.changes tag) :
    Tracks behaviour tags (source.numbered receiver) (roster.enter tag) := by
  have count := tracks.owners_length
  -- No receiver of an idle listener has its generation.
  have fresh : receiver ∉ source.receivers := by
    intro member
    obtain ⟨number, made⟩ := List.getElem?_of_mem member
    have current := (tracks.guards made).1 (by rw [newest, sameTag])
    rw [sameTag, idle] at current
    cases current
  exact { tracks with
    owners := by
      rw [receivers_numbered, List.map_append, tracks.owners, List.map_singleton, sameTag]
      rfl
    owned := by
      intro third member
      rcases List.mem_append.1 member with earlier | here
      · exact tracks.owned third earlier
      · rw [List.mem_singleton.1 here, sameTag]
        exact known
    bounded := by
      intro third member
      rcases List.mem_append.1 member with earlier | here
      · exact tracks.bounded third earlier
      · rw [List.mem_singleton.1 here, sameTag]
        exact Nat.le_of_eq newest
    guards := by
      intro number third made
      rw [receivers_numbered] at made
      simp only [Roster.enter, Function.update_apply, count]
      rcases Nat.lt_trichotomy number source.receivers.length with earlier | rfl | beyond
      · rw [List.getElem?_append_left earlier] at made
        split
        · rename_i here
          have guards := tracks.guards made
          rw [here, idle] at guards
          simp only [Option.some.injEq]
          constructor
          · intro same
            cases guards.1 (by rw [here] at same; exact same)
          · omega
        · exact tracks.guards made
      · simp only [List.getElem?_concat_length, Option.some.injEq] at made
        subst made
        simp [sameTag, newest]
      · rw [List.getElem?_eq_none (by simp; omega)] at made
        cases made
    made := by
      intro another number current
      simp only [Roster.enter, Function.update_apply, count] at current
      split at current
      · rename_i here
        cases current
        exact ⟨receiver, by simp, sameTag.trans here.symm⟩
      · obtain ⟨third, made, same⟩ := tracks.made current
        refine ⟨third, ?_, same⟩
        rw [receivers_numbered, List.getElem?_append_left (List.getElem?_eq_some_iff.1 made).1]
        exact made
    distinct := List.nodup_append.2 ⟨tracks.distinct, List.nodup_singleton _, by
      intro third member last here
      rw [List.mem_singleton.1 here]
      rintro rfl
      exact fresh member⟩ }

/-- A listener that is started has a new receiver, which is its current one. -/
theorem make (tracks : Tracks behaviour tags source roster)
    (found : source.listener? tag = some listener)
    (starts : listener.start? = some (receiver, other)) :
    Tracks behaviour tags ((source.setListener other).numbered receiver)
      ((roster.advance tag).enter tag) := by
  obtain ⟨-, made, next⟩ := Listener.of_start?_eq_some starts
  obtain rfl := tag_of_listener? found
  have begun : Tracks behaviour tags (source.setListener other) (roster.advance listener.tag) :=
    tracks.advance found (by rw [next]) (by rw [next])
  have newest : receiver.generation = (roster.advance listener.tag).changes listener.tag := by
    simp [Roster.advance, tracks.generation found, made]
  exact begun.enter (tracks.finds_iff.1 ⟨listener, found⟩) (by simp [Roster.advance])
    (by rw [made]) newest

/-- Who is attached is nothing to who is listening. -/
theorem attached (tracks : Tracks behaviour tags source roster) (attached : List Nat) :
    Tracks behaviour tags (source.setAttached attached) roster :=
  { tracks with }

/-- A stop is counted. -/
theorem retire (tracks : Tracks behaviour tags source (roster.advance tag)) :
    Tracks behaviour tags source.tried (roster.retire tag) :=
  { tracks with stops := congrArg (· + 1) tracks.stops }

end Tracks

namespace Roster

/-- Events that are handed out change nothing but what reached the callbacks. -/
theorem handOut_eq (roster : Roster) (handouts : List Handout) :
    roster.handOut handouts = { roster with heard := (roster.handOut handouts).heard } := by
  induction handouts generalizing roster with
  | nil => rfl
  | cons handout handouts inductionHypothesis =>
    have first : roster.hand handout = { roster with heard := (roster.hand handout).heard } := by
      unfold hand
      split
      · rfl
      · split <;> rfl
    rw [handOut, List.foldl_cons, ← handOut, inductionHypothesis, first]

@[simp] theorem current_handOut (roster : Roster) (handouts : List Handout) :
    (roster.handOut handouts).current = roster.current := by
  rw [handOut_eq]

@[simp] theorem changes_handOut (roster : Roster) (handouts : List Handout) :
    (roster.handOut handouts).changes = roster.changes := by
  rw [handOut_eq]

end Roster

end Source

end ThreadHost
