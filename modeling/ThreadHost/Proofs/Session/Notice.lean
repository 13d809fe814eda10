import ThreadHost.Session.Basic
/-!
# What observers are told

What an observer does about a line may depend on every line that has passed. `Audience` is what
decides who is told of what: the observers, how they react, and the lines up to now; it goes on
from line to line (`Audience.told`) without looking at the session. `deliveries` says who is told
of what along any sequence of lines, and `hearsAll` whether nobody fails on the way.

`perform_notify` gives the session after a line that everybody has heard,
`perform_notify_of_failing` what is left when somebody fails, and `deliveries_of_stay` says that
observers who never leave are told of every line.
-/

namespace ThreadHost

/-- Whether a reaction ends the notice. -/
def Reaction.isFailure : Reaction → Bool
  | .fail _ => true
  | _ => false

/-- Whether a reaction leaves the list of observers alone. -/
def Reaction.keepsList : Reaction → Bool
  | .removeSelf | .removeAll => false
  | _ => true

namespace Observer

/-- An observer that fails at no line, whatever has passed. -/
def Calm (manner : Manner) (observer : Observer) : Prop :=
  ∀ passed, (observer.reaction manner passed).isFailure = false

/-- An observer that takes nobody off the list, whatever has passed. -/
def Stays (manner : Manner) (observer : Observer) : Prop :=
  ∀ passed, (observer.reaction manner passed).keepsList = true

/-- The observers that are left when one of them has reacted to the last line. -/
def leaves (manner : Manner) (passed : List Event) (left : List Observer) (observer : Observer) :
    List Observer :=
  match observer.reaction manner passed with
  | .removeSelf => left.erase observer
  | .removeAll => []
  | _ => left

/-- Reacting one after another adds nobody to the observers. -/
theorem foldl_leaves_subset (manner : Manner) (passed : List Event)
    (reacting left : List Observer) : reacting.foldl (leaves manner passed) left ⊆ left := by
  induction reacting generalizing left with
  | nil => exact List.Subset.refl _
  | cons observer reacting inductionHypothesis =>
    have one : leaves manner passed left observer ⊆ left := by
      unfold leaves
      split
      · exact List.erase_subset
      · exact List.nil_subset _
      · exact List.Subset.refl _
    exact List.Subset.trans (inductionHypothesis _) one

/-- Receivers do not fail. -/
theorem calm_receiver (manner : Manner) (receiver : Receiver) :
    (Observer.receiver receiver).Calm manner := fun _ => rfl

variable {manner : Manner}

/-- Observers that only take note do not fail. -/
theorem calm_of_manner (quiet : manner = fun _ _ => .none) (observer : Observer) :
    observer.Calm manner := by
  subst quiet
  cases observer <;> exact fun _ => rfl

/-- Observers that only take note stay. -/
theorem stays_of_manner (quiet : manner = fun _ _ => .none) (observer : Observer) :
    observer.Stays manner := by
  subst quiet
  cases observer <;> exact fun _ => rfl

end Observer

/-- Those who are told of the lines of a session, with all that their reactions depend on. -/
structure Audience where
  manner : Manner
  /-- The lines that have passed, oldest first. -/
  passed : List Event
  observers : List Observer

namespace Audience

/-- An audience behind a line to which each observer has reacted. -/
def told (audience : Audience) (event : Event) : Audience :=
  { audience with
    passed := audience.passed ++ [event]
    observers := audience.observers.foldl
      (Observer.leaves audience.manner (audience.passed ++ [event])) audience.observers }

/-- An audience behind some lines. -/
def toldAll (audience : Audience) (events : List Event) : Audience := events.foldl told audience

/-- Who is told of what when some lines pass one after another. -/
def deliveries : Audience → List Event → List (Observer × Event)
  | _, [] => []
  | audience, event :: events =>
    audience.observers.map (·, event) ++ deliveries (audience.told event) events

/-- Whether nobody fails who is told of a line. -/
def hears (audience : Audience) (event : Event) : Bool :=
  audience.observers.all fun observer =>
    !(observer.reaction audience.manner (audience.passed ++ [event])).isFailure

/-- Whether nobody fails while some lines pass one after another. -/
def hearsAll : Audience → List Event → Bool
  | _, [] => true
  | audience, event :: events => audience.hears event && hearsAll (audience.told event) events

/-- An audience that hears every line. -/
def Calm (audience : Audience) : Prop :=
  ∀ observer ∈ audience.observers, observer.Calm audience.manner

/-- An audience that never becomes smaller. -/
def Stays (audience : Audience) : Prop :=
  ∀ observer ∈ audience.observers, observer.Stays audience.manner

variable {audience : Audience}

/-- A calm audience stays calm behind a line. -/
theorem Calm.told (calm : audience.Calm) (event : Event) : (audience.told event).Calm :=
  fun observer member => calm observer (Observer.foldl_leaves_subset _ _ _ _ member)

/-- A calm audience stays calm behind any lines. -/
theorem Calm.toldAll (calm : audience.Calm) (events : List Event) :
    (audience.toldAll events).Calm := by
  induction events generalizing audience with
  | nil => exact calm
  | cons event events inductionHypothesis => exact inductionHypothesis (calm.told event)

/-- A calm audience hears every line. -/
theorem Calm.hears (calm : audience.Calm) (event : Event) : audience.hears event = true := by
  refine List.all_eq_true.2 fun observer member => ?_
  rw [calm observer member]
  rfl

/-- The audience behind two runs of lines. -/
theorem toldAll_append (audience : Audience) (first second : List Event) :
    audience.toldAll (first ++ second) = (audience.toldAll first).toldAll second :=
  List.foldl_append

/-- Lines that all are heard are heard in each of two runs. -/
theorem hearsAll_append (audience : Audience) (first second : List Event) :
    audience.hearsAll (first ++ second) =
      (audience.hearsAll first && (audience.toldAll first).hearsAll second) := by
  induction first generalizing audience with
  | nil => rfl
  | cons event first inductionHypothesis =>
    rw [List.cons_append, hearsAll, inductionHypothesis, hearsAll, Bool.and_assoc]
    rfl

/-- The notices of two runs of lines follow each other. -/
theorem deliveries_append (audience : Audience) (first second : List Event) :
    audience.deliveries (first ++ second) =
      audience.deliveries first ++ (audience.toldAll first).deliveries second := by
  induction first generalizing audience with
  | nil => rfl
  | cons event first inductionHypothesis =>
    rw [List.cons_append, deliveries, inductionHypothesis, deliveries, List.append_assoc]
    rfl

/-- Observers who stay are all there behind a line. -/
theorem Stays.told (stays : audience.Stays) (event : Event) :
    audience.told event = { audience with passed := audience.passed ++ [event] } := by
  have unmoved : ∀ reacting : List Observer,
      (∀ observer ∈ reacting, observer.Stays audience.manner) →
      reacting.foldl (Observer.leaves audience.manner (audience.passed ++ [event]))
        audience.observers = audience.observers := by
    intro reacting allStay
    induction reacting with
    | nil => rfl
    | cons observer reacting inductionHypothesis =>
      have here := allStay observer List.mem_cons_self (audience.passed ++ [event])
      have first : Observer.leaves audience.manner (audience.passed ++ [event])
          audience.observers observer = audience.observers := by
        unfold Observer.leaves
        split <;> simp_all [Reaction.keepsList]
      rw [List.foldl_cons, first]
      exact inductionHypothesis fun other member => allStay other (List.mem_cons_of_mem _ member)
  rw [Audience.told, unmoved _ stays]

/-- Observers who stay are all there behind any lines, and still stay. -/
theorem Stays.toldAll (stays : audience.Stays) (events : List Event) :
    (audience.toldAll events).observers = audience.observers := by
  induction events generalizing audience with
  | nil => rfl
  | cons event events inductionHypothesis =>
    rw [Audience.toldAll, List.foldl_cons, stays.told event]
    exact inductionHypothesis (by exact stays)

/-- Observers who stay are told of every line. -/
theorem deliveries_of_stay (stays : audience.Stays) (events : List Event) :
    audience.deliveries events =
      events.flatMap fun event => audience.observers.map (·, event) := by
  induction events generalizing audience with
  | nil => rfl
  | cons event events inductionHypothesis =>
    rw [deliveries, stays.told, inductionHypothesis (by exact stays), List.flatMap_cons]

/-- How reactions turn out does not hang on what a session has been through besides its lines. -/
theorem manner_toldAll (audience : Audience) (events : List Event) :
    (audience.toldAll events).manner = audience.manner := by
  induction events generalizing audience with
  | nil => rfl
  | cons event events inductionHypothesis => exact inductionHypothesis (audience.told event)

end Audience

/-- What a notice says to whom, without the time. -/
def Notice.delivery (notice : Notice) : Observer × Event :=
  (notice.observer, notice.direction, notice.line)

namespace Session

/-- Those who are told of the next line. -/
def audience (session : Session) : Audience :=
  ⟨session.manner, session.traffic, session.observers⟩

/-- A session none of whose observers ever fails. -/
def Calm (session : Session) : Prop := session.audience.Calm

/-- A session after a line was recorded and all its observers were told. -/
def notified (session : Session) (direction : Direction) (line : String) : Session :=
  { session with
    traffic := session.traffic ++ [(direction, line)]
    notices := session.notices ++
      session.observers.map (⟨·, direction, line, session.host.clock⟩)
    observers := (session.audience.told (direction, line)).observers }

variable {session : Session}

/-- An observer takes note, and then either fails or may change who is told next. -/
theorem perform_tell (direction : Direction) (line : String) (observer : Observer)
    (session : Session) :
    (tell direction line observer).perform session =
      match observer.reaction session.manner session.traffic with
      | .fail fault => (.error (.plain fault), { session with
          notices := session.notices ++ [⟨observer, direction, line, session.host.clock⟩] })
      | _ => (.ok (), { session with
          notices := session.notices ++ [⟨observer, direction, line, session.host.clock⟩]
          observers :=
            Observer.leaves session.manner session.traffic session.observers observer }) := by
  unfold tell react
  simp only [Act.perform_bind, Act.perform_modify, Act.perform_get]
  cases reaction : observer.reaction session.manner session.traffic <;>
    simp [reaction, Observer.leaves, Act.refuse, removeObserver]

/-- Observers that do not fail are told one after another. -/
theorem perform_tellAll {reacting : List Observer} {session : Session}
    (heard : ∀ observer ∈ reacting,
      (observer.reaction session.manner session.traffic).isFailure = false)
    (direction : Direction) (line : String) :
    (forM reacting (tell direction line)).perform session =
      (.ok (), { session with
        notices := session.notices ++
          reacting.map (⟨·, direction, line, session.host.clock⟩)
        observers := reacting.foldl (Observer.leaves session.manner session.traffic)
          session.observers }) := by
  induction reacting generalizing session with
  | nil => simp
  | cons observer reacting inductionHypothesis =>
    obtain ⟨here, others⟩ := List.forall_mem_cons.1 heard
    rw [List.forM_cons, Act.perform_bind, perform_tell]
    cases reaction : observer.reaction session.manner session.traffic with
    | fail fault =>
      rw [reaction] at here
      cases here
    | _ =>
      refine (inductionHypothesis ?_).trans ?_
      · exact others
      · simp

/-- A line passes an audience that hears it. -/
theorem perform_notify {direction : Direction} {line : String}
    (heard : session.audience.hears (direction, line) = true) :
    (notify direction line).perform session = (.ok (), session.notified direction line) := by
  unfold notify
  simp only [Act.perform_bind, Act.perform_modify, Act.perform_get]
  refine (perform_tellAll ?_ direction line).trans rfl
  intro observer member
  simpa [audience] using List.all_eq_true.1 heard observer member

/-- Where somebody fails, telling fails; behind it only notices and observers have changed. -/
theorem perform_tellAll_of_failing {reacting : List Observer} {session : Session}
    (failing : ∃ observer ∈ reacting,
      (observer.reaction session.manner session.traffic).isFailure = true)
    (direction : Direction) (line : String) :
    ∃ fault notices observers, (forM reacting (tell direction line)).perform session =
      (.error (.plain fault), { session with notices, observers }) := by
  induction reacting generalizing session with
  | nil => simp at failing
  | cons observer reacting inductionHypothesis =>
    rw [List.forM_cons, Act.perform_bind, perform_tell]
    cases reaction : observer.reaction session.manner session.traffic with
    | fail fault => exact ⟨fault, _, session.observers, rfl⟩
    | _ =>
      have others : ∃ other ∈ reacting,
          (other.reaction session.manner session.traffic).isFailure = true := by
        simpa [reaction, Reaction.isFailure] using failing
      exact inductionHypothesis (by exact others)

/-- A line that somebody does not hear has passed, and fails as that observer does. -/
theorem perform_notify_of_failing {direction : Direction} {line : String}
    (unheard : session.audience.hears (direction, line) = false) :
    ∃ fault notices observers, (notify direction line).perform session =
      (.error (.plain fault),
        { session.notified direction line with notices, observers }) := by
  have somebody : ∃ observer ∈ session.observers, (observer.reaction session.manner
      (session.traffic ++ [(direction, line)])).isFailure = true := by
    simpa [Audience.hears, audience] using unheard
  unfold notify
  simp only [Act.perform_bind, Act.perform_modify, Act.perform_get]
  exact perform_tellAll_of_failing somebody direction line

/-- A session whose observers only take note is calm. -/
theorem calm_of_manner (quiet : session.manner = fun _ _ => .none) : session.Calm :=
  fun observer _ => Observer.calm_of_manner quiet observer

/-- A session stays calm when a line passes. -/
theorem Calm.notified (calm : session.Calm) (direction : Direction) (line : String) :
    (session.notified direction line).Calm := Audience.Calm.told calm _

/-- What observers were told before a line, and of that line. -/
theorem notices_notified (session : Session) (direction : Direction) (line : String) :
    (session.notified direction line).notices.map Notice.delivery =
      session.notices.map Notice.delivery ++
        session.audience.deliveries [(direction, line)] := by
  simp [Session.notified, Audience.deliveries, Notice.delivery, Function.comp_def, audience]

end Session

end ThreadHost
