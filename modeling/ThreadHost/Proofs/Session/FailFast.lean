import Mathlib.Control.Monad.Basic
import Mathlib.Data.List.Count
import ThreadHost.Proofs.Dataset.Accepted
import ThreadHost.Proofs.Session.Lawful
import ThreadHost.Proofs.Session.Run
import ThreadHost.Session.Open
/-!
# Commands in a row

A join and a stop of the radio send some commands in a row. `execute_turnsOut` says of one command,
whatever the streams and the observers do, that it is answered if and only if `Done` came in behind
it and no observer failed at one of its lines. From it follows by induction that a row stops at the
first command that is not answered, with the failure of that command (`executeAll_course`); that a
row ends well is then told by the lines alone (`Course.endsWell`).

The active dataset is a matter of joins alone: it is that of the last one, whatever became of it
(`activeDataset_afterRun`).
-/

namespace ThreadHost.Session

open Act (Law)

variable {before middle after session : Session} {command : String} {raws : List Bytes}
  {events : List Event}

/-- A command went out, and some lines came in behind it. -/
def Exchanged (command : String) (lines : List String) (before after : Session) : Prop :=
  after.traffic = before.traffic ++ (.sent, command) :: lines.map (Prod.mk .received)

/-- The lines that passed since an earlier state of a session. -/
def since (before after : Session) : List Event := after.traffic.drop before.traffic.length

/-- A command was written as one line, and `Done` is the last line of what came in behind it. -/
structure AnsweredByDone (command : String) (before after : Session) : Prop where
  written : after.streams.written = before.streams.written ++ [commandBytes command]
  exchanged : ∃ opened, "Done" ∉ opened ∧ Exchanged command (opened ++ ["Done"]) before after

/-- No observer failed at a line that passed, and those who are told of the next line are those whom
these lines leave. -/
structure HeardOut (before after : Session) : Prop where
  heard : before.audience.hearsAll (since before after) = true
  audience : after.audience = before.audience.toldAll (since before after)

/-- A command was written as one line or not at all, and no `Done` came in behind it. -/
structure Unanswered (command : String) (before after : Session) : Prop where
  written : after.streams.written = before.streams.written ∨
    after.streams.written = before.streams.written ++ [commandBytes command]
  exchanged : after.traffic = before.traffic ∨
    ∃ lines, "Done" ∉ lines ∧ Exchanged command lines before after

/-- A command was written as one line, and an observer failed at a line that passed, be it the
command or a line behind it. No `Done` came in before the last of these lines. -/
structure Disturbed (command : String) (before after : Session) : Prop where
  written : after.streams.written = before.streams.written ++ [commandBytes command]
  exchanged : ∃ lines, "Done" ∉ lines.dropLast ∧ Exchanged command lines before after
  unheard : before.audience.hearsAll (since before after) = false

/-- How a round trip turns out: with an answer, if `Done` came in behind its command and no observer
failed, and otherwise with a failure. -/
inductive TurnsOut (command : String) (before : Session) :
    Except Failure (List String) × Session → Prop where
  | answered {lines : List String} {after : Session}
      (answered : AnsweredByDone command before after) (heardOut : HeardOut before after) :
      TurnsOut command before (.ok lines, after)
  | failed {failure : Failure} {after : Session} (unanswered : Unanswered command before after) :
      TurnsOut command before (.error failure, after)
  | disturbed {failure : Failure} {after : Session} (disturbed : Disturbed command before after) :
      TurnsOut command before (.error failure, after)

theorem since_eq (grown : after.traffic = before.traffic ++ events) :
    since before after = events := by
  rw [since, grown, List.drop_left]

/-- `Done` is not among lines that leave an answer open. -/
theorem done_not_mem_of_opens (opens : ∀ raw ∈ raws, Line.closes (Line.decode raw) = false) :
    "Done" ∉ raws.map Line.decode := by
  intro member
  obtain ⟨raw, inRaws, isDone⟩ := List.mem_map.1 member
  have leavesOpen := opens raw inRaws
  rw [isDone] at leavesOpen
  exact absurd leavesOpen (by decide)

/-- What is read behind a command has passed with it. -/
theorem Reading.traffic_behind (reading : Reading (session.sent command) after raws) :
    after.traffic = session.traffic ++ (.sent, command) :: raws.map Line.arrival := by
  have sent : (session.sent command).traffic = session.traffic ++ [(.sent, command)] := rfl
  rw [reading.traffic, sent, List.append_assoc]
  rfl

/-- What is read behind a command has been exchanged with it. -/
theorem Reading.exchanged (reading : Reading (session.sent command) after raws) :
    Exchanged command (raws.map Line.decode) session after := by
  rw [Exchanged, reading.traffic_behind, List.map_map]
  rfl

/-- Whether a command and the lines read behind it are heard, up to the line that comes next. -/
theorem Passes.hearsAll_behind (passes : Passes (session.sent command) raws middle)
    (heard : session.audience.hears (.sent, command) = true) (raw : Bytes) :
    session.audience.hearsAll ((.sent, command) :: (raws ++ [raw]).map Line.arrival) =
      middle.audience.hears (Line.arrival raw) := by
  have lines : (session.audience.told (.sent, command)).hearsAll (raws.map Line.arrival) = true :=
    passes.hearsAll
  have audience : (session.audience.told (.sent, command)).toldAll (raws.map Line.arrival) =
      middle.audience := passes.reading.audience.symm
  rw [Audience.hearsAll, heard, List.map_append, Audience.hearsAll_append, lines, audience]
  simp [Audience.hearsAll]

/-- A round trip that goes through or fails by itself is answered exactly if `Done` came in. -/
theorem Executes.turnsOut {result : Except Failure (List String) × Session}
    (executes : Executes command session result) : TurnsOut command session result := by
  cases executes with
  | several several => exact .failed ⟨.inl rfl, .inl rfl⟩
  | unwritten fault => exact .failed ⟨.inl rfl, .inl rfl⟩
  | unflushed fault => exact .failed ⟨.inr rfl, .inl rfl⟩
  | @ended raws middle _ flushes passes ends writes heard =>
    have noDone := done_not_mem_of_opens passes.opens
    -- Lines that were read up to a failure, or up to the line that closed the answer.
    have tried := passes.reading.trans (Reading.tried middle)
    rw [List.append_nil] at tried
    have unclosed : Unanswered command session middle.tried :=
      ⟨.inr tried.written, .inr ⟨_, noDone, tried.exchanged⟩⟩
    have closed : middle.streams.unread ≠ [] →
        middle.passed.streams.written = session.streams.written ++ [commandBytes command] ∧
        Exchanged command (raws.map Line.decode ++ [middle.nextLine]) session middle.passed := by
      intro more
      have reading := passes.reading.trans (Reading.passed more)
      have exchanged := reading.exchanged
      rw [List.map_append] at exchanged
      exact ⟨reading.written, exchanged⟩
    cases ends with
    | failed fault => exact .failed unclosed
    | truncated works ended => exact .failed unclosed
    | done works more closing lastHeard =>
      obtain ⟨written, exchanged⟩ := closed more
      rw [Line.classify_eq_done_iff.1 closing] at exchanged
      have reading := passes.reading.trans (Reading.passed more)
      have lines := since_eq reading.traffic_behind
      refine .answered ⟨written, _, noDone, exchanged⟩ ⟨?_, ?_⟩
      · rw [lines, passes.hearsAll_behind heard]
        exact lastHeard
      · rw [lines]
        exact reading.audience
    | error works more closing =>
      obtain ⟨written, exchanged⟩ := closed more
      have notDone : middle.nextLine ≠ "Done" := by
        intro isDone
        rw [Line.classify_eq_done_iff.2 isDone] at closing
        cases closing
      refine .failed ⟨.inr written, .inr ⟨_, ?_, exchanged⟩⟩
      simp [notDone.symm, noDone]

/-- A round trip that is interrupted was disturbed at the last of its lines. -/
theorem Interrupted.turnsOut {result : Except Failure (List String) × Session}
    (interrupted : Interrupted command session result) : TurnsOut command session result := by
  cases interrupted with
  | @atCommand fault notices observers unheard =>
    have traffic : ((session.sent command).interrupted notices observers).traffic =
        session.traffic ++ [(.sent, command)] := rfl
    refine .disturbed ⟨rfl, ⟨[], List.not_mem_nil, traffic⟩, ?_⟩
    rw [since_eq traffic, Audience.hearsAll, unheard, Bool.false_and]
  | @atLine raws middle _ heard passes breaksOff =>
    cases breaksOff with
    | @unheard fault notices observers works more unheard =>
      have reading := passes.reading.trans (Reading.passed more)
      have traffic : (middle.heard.interrupted notices observers).traffic =
          session.traffic ++ (.sent, command) :: (raws ++ [middle.nextRaw]).map Line.arrival :=
        reading.traffic_behind
      refine .disturbed ⟨reading.written, ⟨_, ?_, reading.exchanged⟩, ?_⟩
      · rw [List.map_append, List.map_singleton, List.dropLast_concat]
        exact done_not_mem_of_opens passes.opens
      · rw [since_eq traffic, passes.hearsAll_behind heard]
        exact unheard

/-- A command is answered exactly if `Done` came in behind it and no observer failed, whatever
streams and observers do. -/
theorem execute_turnsOut (command : String) (session : Session) :
    TurnsOut command session ((execute command).perform session) :=
  (executes_or_interrupted command session).elim Executes.turnsOut Interrupted.turnsOut

/-- Some commands were answered, each by its `Done` and heard by all observers, before the next one
went out. -/
inductive Succeeds : List String → Session → Session → Prop where
  | none (session : Session) : Succeeds [] session session
  | next {command : String} {commands lines : List String} {before middle after : Session}
      (performed : (execute command).perform before = (.ok lines, middle))
      (answered : AnsweredByDone command before middle) (heardOut : HeardOut before middle)
      (rest : Succeeds commands middle after) : Succeeds (command :: commands) before after

/-- How far a row of commands comes: to its end, or to the first command that is not answered or at
whose lines an observer fails. It fails as that command does. -/
inductive Course (commands : List String) (before : Session) :
    Except Failure Unit × Session → Prop where
  | finished {after : Session} (all : Succeeds commands before after) :
      Course commands before (.ok (), after)
  | stopped {done rest : List String} {command : String} {middle after : Session}
      {failure : Failure} (parts : commands = done ++ command :: rest)
      (answered : Succeeds done before middle)
      (last : (execute command).perform middle = (.error failure, after))
      (lacking : Unanswered command middle after ∨ Disturbed command middle after) :
      Course commands before (.error failure, after)

/-- The lines of commands that were all answered: behind each command some lines and `Done`. -/
inductive EachDone : List String → List Event → Prop where
  | none : EachDone [] []
  | next {command : String} {commands opened : List String} {events : List Event}
      (noDone : "Done" ∉ opened) (rest : EachDone commands events) :
      EachDone (command :: commands)
        ((.sent, command) :: (opened ++ ["Done"]).map (Prod.mk .received) ++ events)

/-- A row of commands stops at the first one that is not answered, and nothing is written but the
commands up to there, in order and each as one line. It ends well exactly if behind each command
`Done` came in and no observer failed at a line that passed. -/
structure FailFast (commands : List String) (before : Session)
    (result : Except Failure Unit × Session) : Prop where
  course : Course commands before result
  inOrder : ∃ sent, sent <+: commands ∧
    result.2.streams.written = before.streams.written ++ sent.map commandBytes
  endsWell : result.1 = .ok () ↔
    EachDone commands (since before result.2) ∧
      before.audience.hearsAll (since before result.2) = true

/-- Commands that were answered were written. -/
theorem Succeeds.written {commands : List String} (succeeds : Succeeds commands before after) :
    after.streams.written = before.streams.written ++ commands.map commandBytes := by
  induction succeeds with
  | none session => simp
  | next performed answered heardOut rest inductionHypothesis =>
    rw [inductionHypothesis, answered.written, List.append_assoc]
    rfl

/-- Commands that were answered let their lines pass, and all observers heard them. -/
theorem Succeeds.lines {commands : List String} (succeeds : Succeeds commands before after) :
    ∃ events, after.traffic = before.traffic ++ events ∧ EachDone commands events ∧
      before.audience.hearsAll events = true ∧
      after.audience = before.audience.toldAll events := by
  induction succeeds with
  | none session => exact ⟨[], (List.append_nil _).symm, .none, rfl, rfl⟩
  | next performed answered heardOut rest inductionHypothesis =>
    obtain ⟨events, traffic, each, heard, audience⟩ := inductionHypothesis
    obtain ⟨opened, noDone, exchanged⟩ := answered.exchanged
    obtain ⟨firstHeard, firstAudience⟩ := heardOut
    rw [since_eq exchanged] at firstHeard firstAudience
    refine ⟨_, ?_, .next noDone each, ?_, ?_⟩
    · rw [traffic, exchanged, List.append_assoc]
    · rw [Audience.hearsAll_append, firstHeard, ← firstAudience, heard]
      rfl
    · rw [audience, firstAudience, Audience.toldAll_append]

/-- The lines behind a command hold `Done` as often as it came in. -/
theorem count_done_behind (command : String) (lines : List String) :
    ((.sent, command) :: lines.map (Prod.mk Direction.received)).count (.received, "Done") =
      lines.count "Done" := by
  rw [List.count_cons_of_ne (by simp)]
  exact List.count_map_of_injective lines (Prod.mk Direction.received)
    (fun _ _ same => (Prod.mk.inj same).2) "Done"

/-- There is one `Done` for each of the commands that were answered. -/
theorem EachDone.count_done {commands : List String} (each : EachDone commands events) :
    events.count (.received, "Done") = commands.length := by
  induction each with
  | none => rfl
  | @next command commands opened events noDone rest inductionHypothesis =>
    rw [List.count_append, inductionHypothesis, count_done_behind, List.count_append,
      List.count_eq_zero_of_not_mem noDone, List.length_cons]
    simp [Nat.add_comm]

/-- However far a row comes, what was written is the beginning of it. -/
theorem Course.inOrder {commands : List String} {result : Except Failure Unit × Session}
    (course : Course commands before result) :
    ∃ sent, sent <+: commands ∧
      result.2.streams.written = before.streams.written ++ sent.map commandBytes := by
  cases course with
  | finished all => exact ⟨commands, List.prefix_refl _, all.written⟩
  | @stopped done rest command middle after failure parts answered last lacking =>
    subst parts
    have once : after.streams.written = middle.streams.written ++ [commandBytes command] →
        ∃ sent, sent <+: done ++ command :: rest ∧
          after.streams.written = before.streams.written ++ sent.map commandBytes := by
      intro once
      refine ⟨done ++ [command], ⟨rest, by simp⟩, ?_⟩
      rw [once, answered.written, List.map_append, List.append_assoc]
      rfl
    rcases lacking with unanswered | disturbed
    · rcases unanswered.written with nothing | written
      · refine ⟨done, List.prefix_append _ _, ?_⟩
        rw [nothing, answered.written]
      · exact once written
    · exact once disturbed.written

/-- That a row ends well shows in its lines: where it stops, a `Done` is missing, or an observer
failed. -/
theorem Course.endsWell {commands : List String} {result : Except Failure Unit × Session}
    (course : Course commands before result) :
    result.1 = .ok () ↔ EachDone commands (since before result.2) ∧
      before.audience.hearsAll (since before result.2) = true := by
  cases course with
  | finished all =>
    obtain ⟨events, traffic, each, heard, -⟩ := all.lines
    rw [since_eq traffic]
    exact iff_of_true rfl ⟨each, heard⟩
  | @stopped done rest command middle after failure parts answered last lacking =>
    obtain ⟨events, traffic, each, -, audience⟩ := answered.lines
    refine iff_of_false (fun ended => by cases ended) ?_
    rintro ⟨all, heard⟩
    rcases lacking with unanswered | disturbed
    · obtain ⟨more, grown, none⟩ : ∃ more, after.traffic = middle.traffic ++ more ∧
          more.count (.received, "Done") = 0 := by
        rcases unanswered.exchanged with silent | ⟨lines, noDone, exchanged⟩
        · exact ⟨[], silent.trans (List.append_nil _).symm, rfl⟩
        · refine ⟨_, exchanged, ?_⟩
          rw [count_done_behind, List.count_eq_zero_of_not_mem noDone]
      have counted := all.count_done
      rw [since_eq (grown.trans (traffic ▸ List.append_assoc ..)), List.count_append,
        each.count_done, none, parts, List.length_append, List.length_cons] at counted
      omega
    · obtain ⟨lines, -, exchanged⟩ := disturbed.exchanged
      have unheard := disturbed.unheard
      rw [since_eq exchanged, audience] at unheard
      rw [since_eq (exchanged.trans (traffic ▸ List.append_assoc ..)),
        Audience.hearsAll_append, unheard, Bool.and_false] at heard
      cases heard

/-- The first command of a row, and the others if it is answered. -/
theorem perform_executeAll_cons (command : String) (commands : List String) (session : Session) :
    (executeAll (command :: commands)).perform session =
      match (execute command).perform session with
      | (.ok _, middle) => (executeAll commands).perform middle
      | (.error failure, after) => (.error failure, after) := by
  have row : executeAll (command :: commands) =
      (discard (execute command) >>= fun _ => executeAll commands) := rfl
  have first : discard (execute command) = (fun _ => PUnit.unit) <$> execute command := rfl
  rw [row, first, Act.perform_bind, Act.perform_map]
  generalize (execute command).perform session = result
  obtain ⟨_ | _, _⟩ := result <;> rfl

/-- Commands in a row go one after another up to the first that is not answered. -/
theorem executeAll_course (commands : List String) (session : Session) :
    Course commands session ((executeAll commands).perform session) := by
  induction commands generalizing session with
  | nil => exact .finished (.none session)
  | cons command commands inductionHypothesis =>
    have first := execute_turnsOut command session
    rw [perform_executeAll_cons]
    generalize performed : (execute command).perform session = result at first
    cases first with
    | @answered lines middle answered heardOut =>
      have others := inductionHypothesis middle
      simp only
      generalize (executeAll commands).perform middle = result at others
      cases others with
      | finished all => exact .finished (.next performed answered heardOut all)
      | stopped parts before last lacking =>
        subst parts
        exact .stopped (List.cons_append ..).symm (.next performed answered heardOut before) last
          lacking
    | failed unanswered =>
      exact .stopped (List.nil_append _).symm (.none session) performed (.inl unanswered)
    | disturbed disturbed =>
      exact .stopped (List.nil_append _).symm (.none session) performed (.inr disturbed)

/-- A row of commands ends well exactly if all of them were answered and heard. -/
theorem executeAll_eq_ok_iff {commands : List String} :
    (executeAll commands).perform before = (.ok (), after) ↔ Succeeds commands before after := by
  constructor
  · intro answered
    have course := executeAll_course commands before
    rw [answered] at course
    cases course with
    | finished all => exact all
  · intro succeeds
    induction succeeds with
    | none session => rfl
    | next performed _ _ _ inductionHypothesis =>
      rw [perform_executeAll_cons, performed]
      exact inductionHypothesis

/-- A join ends well exactly if its dataset has a text and each of its commands was answered by
`Done` and heard by all observers. -/
theorem join_eq_ok_iff {dataset : Dataset} :
    (join dataset).perform session = (.ok (), after) ↔
      ∃ hex, dataset.toHex = .ok hex ∧
        Succeeds (joinCommands hex) { session with activeDataset := some dataset } after := by
  cases text : dataset.toHex with
  | error fault => simp [join, Act.perform_bind, text, ofDataset]
  | ok hex =>
    rw [Dataset.perform_join text, executeAll_eq_ok_iff]
    simp

theorem executeAll_failFast (commands : List String) (session : Session) :
    FailFast commands session ((executeAll commands).perform session) :=
  have course := executeAll_course commands session
  ⟨course, course.inOrder, course.endsWell⟩

/-- The dataset of a join. -/
def Operation.joined? : Operation → Option Dataset
  | .join dataset => some dataset
  | _ => none

/-- An operation sets the active dataset if it is a join, and keeps it otherwise. -/
theorem activeDataset_step (operation : Operation) (session : Session) :
    (operation.step session).after.activeDataset =
      operation.joined?.or session.activeDataset := by
  have apart : ∀ (session : Session) wire observers stats traffic notices,
      { session with toWire := wire, observers, stats, traffic, notices }.activeDataset =
        session.activeDataset := fun _ _ _ _ _ _ => rfl
  -- Every operation but a join keeps it.
  have others : (∀ dataset, operation ≠ .join dataset) →
      (Law.keeping Session.activeDataset).Obeyed (perform operation) := fun notJoin =>
    perform_keeping Session.activeDataset apart operation fun dataset same =>
      absurd same (notJoin dataset)
  cases operation with
  | join dataset =>
    -- Behind the change of the dataset, a join only asks.
    have asking := asking_keeping apart
    have asks := ((asking.ofDataset dataset.toHex).bind fun hex =>
      asking.executeAll (joinCommands hex)).bind fun _ => Law.obeyed_pure Answer.nothing
    exact asks { session with activeDataset := some dataset }
  | _ => exact others (by simp) session

/-- The active dataset is that of the last join, whether it was answered or failed. -/
theorem activeDataset_afterRun (operations : List Operation) (session : Session) :
    (afterRun operations session).activeDataset =
      (operations.filterMap Operation.joined?).getLast?.or session.activeDataset := by
  induction operations generalizing session with
  | nil => rfl
  | cons operation operations inductionHypothesis =>
    have rest := inductionHypothesis (operation.step session).after
    rw [activeDataset_step] at rest
    refine Eq.trans rest ?_
    cases joined : operation.joined? with
    | none => simp [joined]
    | some dataset =>
      simp only [List.filterMap_cons, joined, List.getLast?_cons]
      cases (operations.filterMap Operation.joined?).getLast? <;> rfl

/-- A new session has no active dataset. -/
theorem activeDataset_of_make {wire : Wire} {options : Options} {start : Session}
    (made : make wire options = .ok start) : start.activeDataset = none := by
  obtain ⟨padding, -, rfl⟩ := of_make_ok made
  rfl

/-- The commands of a join and of a stop of the radio go out in order, each behind the `Done` of the
one before it; the first that is not answered ends the row with its failure, and so does the first
at whose lines an observer fails. The row ends well exactly if there is none of either kind. A
dataset that has no text sends nothing. The active dataset is that of the last join, whether it was
answered or failed, and without a join there is none. -/
theorem rows_failFast (session : Session) :
    (∀ dataset : Dataset,
      match dataset.toHex with
      | .ok hex =>
        FailFast ["dataset set active " ++ hex, "ifconfig up", "thread start"]
          { session with activeDataset := some dataset } ((join dataset).perform session)
      | .error fault =>
        (Fault.dataset fault).isRejection = true ∧
          (join dataset).perform session =
            (.error (.plain (.dataset fault)), { session with activeDataset := some dataset })) ∧
      FailFast ["thread stop", "ifconfig down"] session (stopRadio.perform session) ∧
      (∀ operations : List Operation, (afterRun operations session).activeDataset =
        (operations.filterMap Operation.joined?).getLast?.or session.activeDataset) ∧
      ∀ wire options start, make wire options = .ok start → start.activeDataset = none := by
  refine ⟨?_, executeAll_failFast _ session, fun operations => activeDataset_afterRun _ _, ?_⟩
  · intro dataset
    cases text : dataset.toHex with
    | ok hex =>
      simp only
      rw [Dataset.perform_join text]
      exact executeAll_failFast _ _
    | error fault =>
      obtain ⟨entry, -, -, rfl⟩ := Dataset.toHex_eq_error text
      refine ⟨rfl, ?_⟩
      simp [join, Act.perform_bind, text, ofDataset]
  · exact fun _ _ _ => activeDataset_of_make

/-- A device that takes the dataset and is busy then. -/
def busyInterface : Session := onOutput (Text.Utf8.encode "Done\n> \nError: busy\nDone\n".toList) []

theorem rows_failFast_busyInterface :
    Dataset.someDataset.toHex = .ok "35020aff0000ff0101" ∧
      FailFast ["dataset set active 35020aff0000ff0101", "ifconfig up", "thread start"]
        { busyInterface with activeDataset := some Dataset.someDataset }
        ((join Dataset.someDataset).perform busyInterface) ∧
      ((join Dataset.someDataset).perform busyInterface).1 =
        .error (.deviceError "ifconfig up" (some "Error: busy") none none) ∧
      (afterRun [.stopRadio, .join Dataset.someDataset, .factoryReset]
        busyInterface).activeDataset = some Dataset.someDataset ∧
      ∃ start, make { streams := busyInterface.streams } {} = .ok start ∧
        start.activeDataset = none := by
  have text : Dataset.someDataset.toHex = .ok "35020aff0000ff0101" := by decide +kernel
  obtain ⟨joins, -, joined, fresh⟩ := rows_failFast busyInterface
  have join := joins Dataset.someDataset
  rw [text] at join
  exact ⟨text, join, by decide +kernel, joined _, _, rfl,
    fresh { streams := busyInterface.streams } {} _ rfl⟩

/-- An observer that fails when the third `Done` has come in. -/
def failingAtThird : Manner := fun name passed =>
  if passed.count (.received, "Done") = 3 then failing name passed else .none

/-- A device that takes all commands of a join, with such an observer. -/
def joinedUnheard : Session :=
  onOutput (Text.Utf8.encode "Done\nDone\nDone\n".toList) [.named "log"] failingAtThird

/-- A join whose commands were all answered by `Done` fails if an observer does. -/
theorem join_fails_as_observer :
    ¬∀ (session : Session) (dataset : Dataset) (hex : String), dataset.toHex = .ok hex →
      EachDone (joinCommands hex) (since session ((join dataset).perform session).2) →
        ((join dataset).perform session).1 = .ok () := by
  intro always
  have text : Dataset.someDataset.toHex = .ok "35020aff0000ff0101" := by decide +kernel
  have lines : since joinedUnheard ((join Dataset.someDataset).perform joinedUnheard).2 =
      [(.sent, "dataset set active 35020aff0000ff0101"), (.received, "Done"),
        (.sent, "ifconfig up"), (.received, "Done"),
        (.sent, "thread start"), (.received, "Done")] := by decide +kernel
  have each : EachDone (joinCommands "35020aff0000ff0101")
      (since joinedUnheard ((join Dataset.someDataset).perform joinedUnheard).2) := by
    rw [lines]
    exact .next List.not_mem_nil (.next List.not_mem_nil (.next List.not_mem_nil .none))
  exact absurd (always joinedUnheard _ _ text each) (by decide +kernel)

end ThreadHost.Session
