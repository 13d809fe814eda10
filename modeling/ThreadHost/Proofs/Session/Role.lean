import ThreadHost.Proofs.Session.FailFast
/-!
# Roles that a device tells

A command that was answered leaves its answer in the traffic (`execute_answered`), and so the role
that was told can be read off it (`getState_told`). A wait that ended well asked for the role again
and again; the last role that was told is the first one that was wanted (`waitForState_awaits`).
-/

namespace ThreadHost.Session

variable {before middle after session : Session} {command role : String} {content : List String}

/-- A command went out as one line and was answered: what came in behind it is closed by the first
`Done`, and without its prompts it is the content. -/
structure AnsweredWith (command : String) (content : List String) (before after : Session) :
    Prop where
  written : after.streams.written = before.streams.written ++ [commandBytes command]
  exchanged : ∃ opened, "Done" ∉ opened ∧ Exchanged command (opened ++ ["Done"]) before after ∧
    content = opened.filter (Line.classify · ≠ .prompt)

/-- The device was asked for its role and told it in the first line of the answer. -/
def Told (role : String) (before after : Session) : Prop :=
  ∃ others, AnsweredWith "state" (role :: others) before after

/-- The role was asked for until it was one that is wanted; between two questions time passed, and
nothing else happened. -/
inductive Awaits (wanted : List String) : String → Session → Session → Prop where
  | there {role : String} {before after : Session} (told : Told role before after)
      (isWanted : role ∈ wanted) : Awaits wanted role before after
  | again {other role : String} {before middle after : Session} {host : Host}
      (told : Told other before middle) (unwanted : other ∉ wanted)
      (rest : Awaits wanted role { middle with host } after) : Awaits wanted role before after

/-- The content that a command is answered with stands in the traffic. -/
theorem execute_answered (answered : (execute command).perform session = (.ok content, after)) :
    AnsweredWith command content session after := by
  have all := executes_of_answered answered
  cases all with
  | @ended raws middle _ flushes passes ends =>
    cases ends with
    | done works more closing =>
      have reading := passes.reading.trans (Reading.passed more)
      have exchanged := reading.exchanged
      have isDone : Line.decode middle.nextRaw = "Done" :=
        Line.classify_eq_done_iff.1 closing
      rw [List.map_append, List.map_singleton, isDone] at exchanged
      exact ⟨reading.written, _, done_not_mem_of_opens passes.opens, exchanged, rfl⟩

/-- A role that is given was told. -/
theorem getState_told (answered : getState.perform session = (.ok role, after)) :
    Told role session after := by
  obtain ⟨lines, middle, executed, given⟩ := Act.of_perform_bind_ok answered
  cases lines with
  | nil => cases given
  | cons line lines =>
    cases given
    exact ⟨lines, execute_answered executed⟩

/-- A wait of any number of checks that ended well. -/
theorem waitUntil_awaits {wanted : List String} {deadline interval : Float} {expired : Failure}
    {checks : Nat} (paced : Waiting.Clock Session Float) (paces : ∀ {seconds before after},
      (paced.pause seconds).perform before = (.ok (), after) → ∃ host, after = { before with host })
    (satisfied : (Waiting.waitUntil paced (do pure (wanted.contains (← getState))) deadline interval
      expired checks).perform session = (.ok .satisfied, after)) :
    ∃ role, Awaits wanted role session after := by
  induction checks generalizing session with
  | zero => cases satisfied
  | succ checks inductionHypothesis =>
    obtain ⟨ok, middle, checked, others⟩ := Act.of_perform_bind_ok satisfied
    obtain ⟨role, told, asked, given⟩ := Act.of_perform_bind_ok checked
    cases given
    by_cases isWanted : role ∈ wanted
    · rw [if_pos (List.contains_iff_mem.2 isWanted)] at others
      cases others
      exact ⟨role, .there (getState_told asked) isWanted⟩
    · rw [if_neg (isWanted ∘ List.contains_iff_mem.1), Act.perform_bind, Act.perform_get] at others
      simp only at others
      split at others
      · cases others
      · -- There is time left: the questions go on behind a pause.
        obtain ⟨_, later, paused, others⟩ := Act.of_perform_bind_ok others
        obtain ⟨host, rfl⟩ := paces paused
        obtain ⟨last, awaits⟩ := inductionHypothesis others
        exact ⟨last, .again (getState_told asked) isWanted awaits⟩

/-- A wait that ended well asked until a role was told that is wanted. -/
theorem waitForState_awaits {states : List String} {timeout : Float}
    (answered : (waitForState states timeout).perform session = (.ok (), after)) :
    ∃ role, Awaits states role session after := by
  rw [perform_waitForState] at answered
  generalize waited : Act.perform (Waiting.waitFor _ _ _ _ _ _) session = result at answered
  obtain ⟨failure | _ | _, end'⟩ := result
  · cases answered
  · cases answered
    obtain ⟨now, middle, started, checked⟩ := Act.of_perform_bind_ok waited
    cases started
    exact waitUntil_awaits session.pacing.1 pacing_pause checked
  · cases answered

namespace Awaits

variable {wanted : List String}

/-- The role that ended the wait is wanted. -/
theorem mem (awaits : Awaits wanted role before after) : role ∈ wanted := by
  induction awaits with
  | there told isWanted => exact isWanted
  | again told unwanted rest inductionHypothesis => exact inductionHypothesis

/-- What a wait writes are its questions. -/
theorem written (awaits : Awaits wanted role before after) :
    ∃ more, after.streams.written =
      before.streams.written ++ List.replicate (more + 1) (commandBytes "state") := by
  induction awaits with
  | there told isWanted =>
    obtain ⟨others, answered⟩ := told
    exact ⟨0, answered.written⟩
  | again told unwanted rest inductionHypothesis =>
    obtain ⟨others, answered⟩ := told
    obtain ⟨more, written⟩ := inductionHypothesis
    refine ⟨more + 1, written.trans ?_⟩
    rw [answered.written, List.append_assoc]
    rfl

end Awaits

end ThreadHost.Session
