import ThreadHost.Proofs.Listener.Roster
/-!
# Listeners between calls

Between two calls a listener that tracks its roster also knows its current receiver, its generation
is odd while it is listening, and the source holds the current receivers and no other (`Settled`).
Starts, stops and events keep this, whatever is handed out meanwhile and whatever the callbacks do
(`happen`); so it holds behind every sequence of them (`run_guarded`).
-/

namespace ThreadHost

namespace Source

variable {behaviour : Behaviour} {tags : List String} {source : Source} {roster : Roster}
  {listener other : Listener} {receiver : Receiver} {tag : String} {number : Nat}

/-- The numbers of the attached receivers of a listener. -/
def held (source : Source) (tag : String) : List Nat :=
  source.attached.filter fun number => (source.receivers[number]?).any (·.tag = tag)

/-- Between two calls a listener knows its current receiver, and the source holds the current
receivers and no other. -/
structure Settled (behaviour : Behaviour) (tags : List String) (source : Source)
    (roster : Roster) : Prop extends Tracks behaviour tags source roster where
  receiver : ∀ {tag listener}, source.listener? tag = some listener →
    listener.receiver = (roster.current tag).bind fun number => source.receivers[number]?
  odd : ∀ tag, roster.changes tag % 2 = 1 ↔ (roster.current tag).isSome = true
  holds : ∀ number, number ∈ source.attached ↔ ∃ tag, roster.current tag = some number
  once : source.attached.Nodup

namespace Settled

/-- Nothing of this depends on the events that are handed out. -/
theorem handOut (settled : Settled behaviour tags source roster) (handouts : List Handout) :
    Settled behaviour tags (source.handOut handouts) (roster.handOut handouts) :=
  { settled.toTracks.handOut handouts with
    receiver := by
      intro tag listener found
      rw [listener?_handOut] at found
      simp only [Roster.current_handOut, receivers_handOut]
      exact settled.receiver found
    odd := by simpa using settled.odd
    holds := by simpa using settled.holds
    once := by simpa using settled.once }

/-- A current receiver has been made. -/
theorem current_lt (settled : Settled behaviour tags source roster)
    (current : roster.current tag = some number) : number < source.receivers.length := by
  obtain ⟨receiver, made, -⟩ := settled.made current
  exact (List.getElem?_eq_some_iff.1 made).1

/-- A listener is idle if it has no current receiver. -/
theorem idle_iff (settled : Settled behaviour tags source roster)
    (found : source.listener? tag = some listener) :
    listener.receiver = none ↔ roster.current tag = none := by
  rw [settled.receiver found]
  cases current : roster.current tag with
  | none => simp
  | some number => simp [settled.current_lt current]

/-- A new receiver of an idle listener is attached. -/
theorem enter (settled : Settled behaviour tags source roster)
    (found : source.listener? tag = some listener)
    (starts : listener.start? = some (receiver, other)) :
    Settled behaviour tags
      (((source.setListener other).numbered receiver).setAttached
        (source.attached ++ [source.receivers.length]))
      ((roster.advance tag).enter tag) := by
  obtain ⟨noReceiver, made, next⟩ := Listener.of_start?_eq_some starts
  have idle := (settled.idle_iff found).1 noReceiver
  have tracks := settled.toTracks.make found starts
  obtain rfl := tag_of_listener? found
  have count := settled.owners_length
  have currents : ((roster.advance listener.tag).enter listener.tag).current =
      Function.update roster.current listener.tag (some source.receivers.length) := by
    simp [Roster.enter, Roster.advance, count]
  subst next
  exact { tracks.attached _ with
    receiver := by
      intro tag third there
      simp only [listener?_setAttached, listener?_numbered, listener?_setListener] at there
      rw [currents]
      simp only [Function.update_apply, receivers_setAttached, receivers_numbered,
        receivers_setListener]
      split at there
      · rename_i here
        rw [here, found] at there
        cases there
        simp [here]
      · rename_i elsewhere
        rw [settled.receiver there, if_neg elsewhere]
        cases current : roster.current tag with
        | none => rfl
        | some number =>
          exact (List.getElem?_append_left (settled.current_lt current)).symm
    odd := by
      intro tag
      have odd := settled.odd tag
      simp only [Roster.enter, Roster.advance, Function.update_apply]
      split
      · rename_i here
        rw [here, idle] at odd
        simp at odd ⊢
        omega
      · exact odd
    holds := by
      intro number
      rw [currents, attached_setAttached, List.mem_append, List.mem_singleton, settled.holds]
      constructor
      · rintro (⟨tag, current⟩ | rfl)
        · refine ⟨tag, ?_⟩
          rw [Function.update_of_ne, current]
          rintro rfl
          rw [idle] at current
          cases current
        · exact ⟨listener.tag, Function.update_self ..⟩
      · rintro ⟨tag, current⟩
        rw [Function.update_apply] at current
        split at current
        · exact .inr (Option.some.inj current).symm
        · exact .inl ⟨tag, current⟩
    once := by
      refine List.nodup_append.2 ⟨settled.once, List.nodup_singleton _, ?_⟩
      intro number member last here
      obtain ⟨tag, current⟩ := (settled.holds number).1 member
      rw [List.mem_singleton.1 here]
      exact Nat.ne_of_lt (settled.current_lt current) }

/-- A listener that is idle is started; the source does not refuse, and the listener has a new
receiver whatever is handed out meanwhile. -/
theorem start (settled : Settled behaviour tags source roster)
    (works : ∀ number, behaviour.attachFails number = false) (tag : String) :
    ∃ after, (Source.start tag).perform source = (.ok (), after) ∧
      Settled behaviour tags after (roster.start behaviour tags tag) := by
  unfold Source.start Roster.start
  rw [Act.perform_bind, Act.perform_get]
  cases found : source.listener? tag with
  | none =>
    have unknown : tag ∉ tags := by
      rw [← settled.finds_iff, found]
      simp
    simp only [found, Option.bind_none, unknown, false_and, if_false]
    exact ⟨source, rfl, settled⟩
  | some listener =>
    have known := settled.finds_iff.1 ⟨listener, found⟩
    simp only [found, Option.bind_some]
    cases starts : listener.start? with
    | none =>
      have busy : roster.current tag ≠ none :=
        mt (settled.idle_iff found).2 (Listener.of_start?_eq_none starts)
      simp only [busy, and_false, if_false]
      exact ⟨source, rfl, settled⟩
    | some made =>
      obtain ⟨receiver, other⟩ := made
      have idle := (settled.idle_iff found).1 (Listener.of_start?_eq_some starts).1
      have count := settled.owners_length
      have entered := settled.enter found starts
      obtain rfl := settled.behaves
      rw [if_pos ⟨known, idle⟩, count]
      simp only [Act.perform_bind, Act.perform_modify]
      rw [perform_attach (source.setListener other) receiver (works _)]
      exact ⟨_, rfl, (entered.handOut _).handOut _⟩

/-- The source finds the receiver of a listener by its number. -/
theorem find?_attached (settled : Settled behaviour tags source roster)
    (current : roster.current tag = some number)
    (made : source.receivers[number]? = some receiver) :
    source.attached.find? (source.isReceiver receiver) = some number := by
  have there : source.isReceiver receiver number = true := decide_eq_true made
  obtain ⟨other, found⟩ := Option.isSome_iff_exists.1
    (List.find?_isSome.2 ⟨number, (settled.holds number).2 ⟨tag, current⟩, there⟩)
  have same : source.receivers[other]? = some receiver := by
    simpa [isReceiver] using List.find?_some found
  rw [found, (List.getElem?_inj (settled.current_lt current) settled.distinct).1
    (made.trans same.symm)]

/-- Two listeners never have one receiver. -/
theorem tag_inj (settled : Settled behaviour tags source roster) {first second : String}
    (one : roster.current first = some number) (two : roster.current second = some number) :
    first = second := by
  obtain ⟨receiver, made, rfl⟩ := settled.made one
  obtain ⟨other, same, rfl⟩ := settled.made two
  rw [made] at same
  cases same
  rfl

/-- The receiver of a listener that is listening is detached, and then forgotten. -/
theorem dismiss (settled : Settled behaviour tags source roster)
    (found : source.listener? tag = some listener)
    (stops : listener.stop? = some (receiver, other))
    (current : roster.current tag = some number) (course : Meanwhile) :
    Settled behaviour tags
      (((((source.setListener other).tried.setAttached (source.attached.erase number)).handOut
        course.ahead).handOut course.behind).setListener other.release)
      ((roster.retire tag).meanwhile course) := by
  obtain ⟨-, otherTag, moved⟩ := Listener.of_stop?_eq_some stops
  obtain rfl := tag_of_listener? found
  have begun := settled.toTracks.advance found otherTag moved
  have handed := ((begun.retire.attached (source.attached.erase number)).handOut
    course.ahead).handOut course.behind
  have kept : ((((source.setListener other).tried.setAttached
      (source.attached.erase number)).handOut course.ahead).handOut course.behind).listener?
        listener.tag = some other := by
    simp [listener?_setListener, otherTag, found]
  have tracks := handed.setListener kept (show other.release.tag = listener.tag from otherTag) rfl
  have currents : ((roster.retire listener.tag).meanwhile course).current =
      Function.update roster.current listener.tag none := by
    simp [Roster.meanwhile, Roster.retire, Roster.advance]
  exact { tracks with
    receiver := by
      intro tag third there
      simp only [listener?_setListener, listener?_handOut, listener?_setAttached, listener?_tried,
        Listener.release, otherTag] at there
      rw [currents]
      split at there
      · rename_i here
        rw [here, found] at there
        cases there
        simp [here]
      · rename_i elsewhere
        rw [settled.receiver there, Function.update_of_ne elsewhere]
        simp [tried]
    odd := by
      intro tag
      have odd := settled.odd tag
      simp only [Roster.meanwhile, Roster.current_handOut, Roster.changes_handOut, Roster.retire,
        Roster.advance, Function.update_apply]
      split
      · rename_i here
        rw [here, current] at odd
        simp at odd ⊢
        omega
      · exact odd
    holds := by
      intro another
      rw [currents]
      change another ∈ ((_ : Source).handOut _).attached ↔ _
      rw [attached_handOut, attached_handOut, attached_setAttached,
        settled.once.mem_erase_iff, settled.holds]
      constructor
      · rintro ⟨different, tag, here⟩
        refine ⟨tag, ?_⟩
        rw [Function.update_of_ne, here]
        rintro rfl
        exact different (Option.some.inj (here.symm.trans current))
      · rintro ⟨tag, here⟩
        rw [Function.update_apply] at here
        split at here
        · cases here
        · rename_i elsewhere
          refine ⟨?_, tag, here⟩
          rintro rfl
          exact elsewhere (settled.tag_inj here current)
    once := by
      change ((_ : Source).handOut _).attached.Nodup
      rw [attached_handOut, attached_handOut, attached_setAttached]
      exact settled.once.erase number }

/-- A listener that is listening is stopped; the source does not refuse, and the receiver is the
current one no more whatever is handed out meanwhile. -/
theorem stop (settled : Settled behaviour tags source roster)
    (works : ∀ number, behaviour.detachFails number = false) (tag : String) :
    ∃ after, (Source.stop tag).perform source = (.ok (), after) ∧
      Settled behaviour tags after (roster.stop behaviour tag) := by
  unfold Source.stop Roster.stop
  rw [Act.perform_bind, Act.perform_get]
  cases found : source.listener? tag with
  | none =>
    have idle : roster.current tag = none := by
      cases current : roster.current tag with
      | none => rfl
      | some number =>
        obtain ⟨receiver, made, rfl⟩ := settled.made current
        have known := settled.owned receiver (List.mem_of_getElem? made)
        rw [← settled.finds_iff, found] at known
        simp at known
    simp only [found, Option.bind_none, idle, if_true]
    exact ⟨source, rfl, settled⟩
  | some listener =>
    simp only [found, Option.bind_some]
    cases stops : listener.stop? with
    | none =>
      have idle := (settled.idle_iff found).1 (Listener.of_stop?_eq_none stops)
      simp only [idle, if_true]
      exact ⟨source, rfl, settled⟩
    | some made =>
      obtain ⟨receiver, other⟩ := made
      have held := (Listener.of_stop?_eq_some stops).1
      obtain ⟨number, current, there⟩ := Option.bind_eq_some_iff.1
        ((settled.receiver found).symm.trans held)
      have dismissed := settled.dismiss found stops current
        (source.whileDetaching source.detachments)
      have detached := perform_detach (source.setListener other) receiver
        (by
          rw [show (source.setListener other).toBehaviour = behaviour from settled.behaves]
          exact works _)
        (settled.find?_attached current there)
      obtain rfl := settled.behaves
      rw [current, if_neg (by simp), ← settled.stops]
      simp only [Act.perform_bind, Act.perform_modify, detached]
      exact ⟨_, rfl, dismissed⟩

/-- What a callback does about an event keeps this. -/
theorem respond (settled : Settled behaviour tags source roster)
    (attaches : ∀ number, behaviour.attachFails number = false)
    (detaches : ∀ number, behaviour.detachFails number = false) (tag event : String)
    (response : Response) :
    Settled behaviour tags ((Source.respond tag event response).perform source).2
      (roster.respond behaviour tags tag response) := by
  cases response with
  | nothing => exact settled
  | fail => exact settled
  | stop =>
    obtain ⟨after, stopped, still⟩ := settled.stop detaches tag
    simp only [Source.respond, stopped]
    exact still
  | restart =>
    obtain ⟨middle, stopped, still⟩ := settled.stop detaches tag
    obtain ⟨after, started, again⟩ := still.start attaches tag
    simp only [Source.respond, Act.perform_bind, stopped, started]
    exact again

/-- An event that reaches a receiver keeps this. -/
theorem deliver (settled : Settled behaviour tags source roster)
    (attaches : ∀ number, behaviour.attachFails number = false)
    (detaches : ∀ number, behaviour.detachFails number = false) (number : Nat) (event : String) :
    Settled behaviour tags ((emitTo number event).perform source).2
      (roster.deliver behaviour tags number event) := by
  have owner := settled.owner number
  have handed := settled.handOut [⟨number, event⟩]
  unfold emitTo Roster.deliver
  rw [Act.perform_bind, Act.perform_get]
  cases made : source.receivers[number]? with
  | none =>
    simp only [owner, made, Option.map_none]
    exact settled
  | some receiver =>
    simp only [owner, made, Option.map_some]
    unfold Source.deliver
    rw [Act.perform_bind, Act.perform_get]
    by_cases current : roster.current receiver.tag = some number
    · have passes := (settled.passesOn_iff made).2 current
      rw [handOut_of_passesOn made passes] at handed
      obtain rfl := settled.behaves
      simp only [passes, if_true, current, Act.perform_bind, Act.perform_set]
      exact handed.respond attaches detaches _ _ _
    · have passes : source.passesOn receiver = false :=
        Bool.eq_false_iff.2 (current ∘ (settled.passesOn_iff made).1)
      simp only [passes, Bool.false_eq_true, if_false, current]
      exact settled

/-- Whatever happens keeps this. -/
theorem happen (settled : Settled behaviour tags source roster)
    (attaches : ∀ number, behaviour.attachFails number = false)
    (detaches : ∀ number, behaviour.detachFails number = false) (occurrence : Occurrence) :
    Settled behaviour tags ((perform occurrence).perform source).2
      (roster.after behaviour tags occurrence) := by
  cases occurrence with
  | start tag =>
    obtain ⟨after, started, still⟩ := settled.start attaches tag
    simp only [perform, started]
    exact still
  | stop tag =>
    obtain ⟨after, stopped, still⟩ := settled.stop detaches tag
    simp only [perform, stopped]
    exact still
  | deliver number event => exact settled.deliver attaches detaches number event

/-- The source holds the current receiver of a listener, and no other of its receivers. -/
theorem held (settled : Settled behaviour tags source roster) (tag : String) :
    source.held tag = (roster.current tag).toList := by
  have member : ∀ number, number ∈ source.held tag ↔ roster.current tag = some number := by
    intro number
    unfold Source.held
    rw [List.mem_filter, settled.holds]
    constructor
    · rintro ⟨⟨other, current⟩, owns⟩
      obtain ⟨receiver, made, rfl⟩ := settled.made current
      simp only [made, Option.any_some, decide_eq_true_eq] at owns
      exact owns ▸ current
    · intro current
      obtain ⟨receiver, made, rfl⟩ := settled.made current
      exact ⟨⟨_, current⟩, by simp [made]⟩
  have once : (source.held tag).Nodup := settled.once.filter _
  cases current : roster.current tag with
  | none =>
    rw [Option.toList_none, List.eq_nil_iff_forall_not_mem]
    intro number held
    rw [member, current] at held
    cases held
  | some number =>
    rw [Option.toList_some]
    refine List.perm_singleton.1 ((List.perm_ext_iff_of_nodup once (List.nodup_singleton _)).2 ?_)
    intro another
    rw [member, current, List.mem_singleton, Option.some.injEq, eq_comm]

end Settled

/-- A source before anything happened. -/
def fresh (behaviour : Behaviour) (tags : List String) : Source :=
  { toBehaviour := behaviour, listeners := tags.map fun tag => { tag } }

/-- A source after everything that happened. -/
def afterAll (occurrences : List Occurrence) (source : Source) : Source :=
  occurrences.foldl (fun source occurrence => ((perform occurrence).perform source).2) source

/-- Who listens after everything that happened. -/
def Roster.afterAll (behaviour : Behaviour) (tags : List String) (occurrences : List Occurrence) :
    Roster :=
  occurrences.foldl (Roster.after behaviour tags) {}

/-- A fresh listener is idle, and there is no receiver. -/
theorem settled_fresh (behaviour : Behaviour) (tags : List String) :
    Settled behaviour tags (fresh behaviour tags) {} := by
  have isNew : ∀ {tag listener}, (fresh behaviour tags).listener? tag = some listener →
      listener.generation = 0 ∧ listener.receiver = none := by
    intro tag listener found
    obtain ⟨other, -, rfl⟩ := List.mem_map.1 (List.mem_of_find?_eq_some found)
    exact ⟨rfl, rfl⟩
  exact {
    behaves := rfl
    named := by simp [fresh, Function.comp_def]
    owners := rfl
    heard := rfl
    stops := rfl
    generation := fun found => (isNew found).1
    owned := by simp [fresh]
    bounded := by simp [fresh]
    guards := by simp [fresh]
    made := by simp
    distinct := List.nodup_nil
    receiver := fun found => (isNew found).2
    odd := by simp
    holds := by simp [fresh]
    once := List.nodup_nil }

/-- What is settled stays so whatever happens, by induction over what happens. -/
theorem Settled.afterAll (settled : Settled behaviour tags source roster)
    (attaches : ∀ number, behaviour.attachFails number = false)
    (detaches : ∀ number, behaviour.detachFails number = false) (occurrences : List Occurrence) :
    Settled behaviour tags (source.afterAll occurrences)
      (occurrences.foldl (Roster.after behaviour tags) roster) := by
  induction occurrences generalizing source roster with
  | nil => exact settled
  | cons occurrence occurrences inductionHypothesis =>
    exact inductionHypothesis (settled.happen attaches detaches occurrence)

/-- What the generations guard: the callbacks are told what the roster says, which knows receivers
by their numbers and no generation. -/
structure Guarded (source : Source) (roster : Roster) : Prop where
  /-- The callbacks have heard the events that were handed to the receiver of the latest start
  while no stop had begun since, in order, and nothing else. -/
  heard : source.deliveries = roster.heard
  /-- A generation is moved on by each start and stop that takes effect, and by nothing else. -/
  generation : ∀ tag listener, source.listener? tag = some listener →
    listener.generation = roster.changes tag
  odd : ∀ tag listener, source.listener? tag = some listener →
    (listener.generation % 2 = 1 ↔ listener.isListening = true)
  listening : ∀ tag listener, source.listener? tag = some listener →
    (listener.isListening = true ↔ (roster.current tag).isSome = true)
  /-- The source holds the current receiver of a listener, and no other of its receivers. -/
  held : ∀ tag, source.held tag = (roster.current tag).toList
  distinct : source.receivers.Pairwise fun first second =>
    first.tag = second.tag → first.generation ≠ second.generation
  starts : ∀ tag, ((start tag).perform source).1 = .ok ()
  stops : ∀ tag, ((stop tag).perform source).1 = .ok ()

/-- Behind any starts, stops and events that reach any receivers, and whatever a source that does
not fail hands out in the course of attaching and detaching, the generations have guarded every
callback. A callback that is called in the course of attaching or detaching takes note, and neither
fails nor starts nor stops anything: a start or stop is over before the next one begins. -/
theorem run_guarded (behaviour : Behaviour) (tags : List String) (occurrences : List Occurrence)
    (attaches : ∀ number, behaviour.attachFails number = false)
    (detaches : ∀ number, behaviour.detachFails number = false) :
    Guarded ((fresh behaviour tags).afterAll occurrences)
      (Roster.afterAll behaviour tags occurrences) := by
  have settled := (settled_fresh behaviour tags).afterAll attaches detaches occurrences
  have listening : ∀ tag listener,
      ((fresh behaviour tags).afterAll occurrences).listener? tag = some listener →
        (listener.isListening = true ↔
          ((Roster.afterAll behaviour tags occurrences).current tag).isSome = true) := by
    intro tag listener found
    rw [Listener.isListening, Option.isSome_iff_ne_none, Option.isSome_iff_ne_none]
    exact not_congr (settled.idle_iff found)
  exact {
    heard := settled.heard
    generation := fun _ _ found => settled.generation found
    odd := by
      intro tag listener found
      rw [listening tag listener found, settled.generation found]
      exact settled.odd tag
    listening := listening
    held := settled.held
    distinct := by
      refine settled.distinct.imp ?_
      rintro ⟨tag, generation⟩ ⟨_, _⟩ different rfl rfl
      exact different rfl
    starts := by
      intro tag
      obtain ⟨after, started, -⟩ := settled.start attaches tag
      rw [started]
    stops := by
      intro tag
      obtain ⟨after, stopped, -⟩ := settled.stop detaches tag
      rw [stopped] }

/-- A source that hands events to receivers, the newest and old ones, whenever it attaches or
detaches one, and a callback that restarts its listener at the word `"again"`. -/
def eager : Behaviour where
  whileAttaching number := ⟨[⟨0, "to the first"⟩], [⟨number, "welcome"⟩]⟩
  whileDetaching _ := ⟨[⟨0, "to the first"⟩], [⟨1, "to the second"⟩]⟩
  response event := if event = "again" then .restart else .nothing

theorem run_guarded_eager :
    (∀ number, eager.attachFails number = false) ∧ (∀ number, eager.detachFails number = false) ∧
    ((fresh eager ["monitor"]).afterAll [.start "monitor", .deliver 0 "again", .deliver 0 "late",
        .deliver 1 "in time", .stop "monitor", .deliver 1 "late"]).deliveries.map (·.event) =
      ["to the first", "welcome", "again", "welcome", "in time"] ∧
    Guarded ((fresh eager ["monitor"]).afterAll [.start "monitor", .deliver 0 "again",
        .deliver 0 "late", .deliver 1 "in time", .stop "monitor", .deliver 1 "late"])
      (Roster.afterAll eager ["monitor"] [.start "monitor", .deliver 0 "again",
        .deliver 0 "late", .deliver 1 "in time", .stop "monitor", .deliver 1 "late"]) :=
  ⟨fun _ => rfl, fun _ => rfl, by decide +kernel,
    run_guarded eager ["monitor"] _ (fun _ => rfl) fun _ => rfl⟩

end Source

end ThreadHost
