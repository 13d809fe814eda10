import ThreadHost.Proofs.Session.Answered
import ThreadHost.Proofs.Session.Willing
import ThreadHost.Proofs.Tool.Released
import ThreadHost.Proofs.Tool.Unopened
/-!
# All of an answer or nothing

The tool that sends one command prints the content of an answer when the device has closed it by
`Done`, and nothing otherwise. Its exit code tells which it was: zero for such an answer, two for an
error of the device, and one wherever the device did not open or did not answer
(`Send.run_allOrNothing`).
-/

namespace ThreadHost

namespace Session

variable {place : Place} {given : Given} {device : Device} {host : Host} {session : Session}

/-- A session that is opened is calm, and has the link and the streams that its place gives to the
device. -/
theorem found_of_openGiven (opens : openGiven place given device host = .opened session) :
    session.Calm ∧ session.link = some (place.link device) ∧
      session.streams = place.streams device := by
  obtain ⟨nobody, -⟩ := new_of_openGiven opens
  have same := toWire_of_openGiven opens
  refine ⟨?_, congrArg Wire.link same, congrArg Wire.streams same⟩
  intro observer member
  have there : observer ∈ session.observers := member
  rw [nobody] at there
  cases there

end Session

namespace Tool

variable {device : Device} {place : Place} {platform : Platform} {session : Session}
  {failure : Failure} {command : String} {body : List Bytes} {closing : Bytes}

/-- Lines are printed one behind the other. -/
theorem perform_prints (lines : List String) (work : Work) :
    (lines.forM print).perform work = (.ok (), { work with printed := work.printed ++ lines }) := by
  induction lines generalizing work with
  | nil => simp [Act.perform_pure]
  | cons line lines inductionHypothesis =>
    have row : (line :: lines).forM print = (do print line; lines.forM print) := rfl
    have first : (print line).perform work =
        (.ok (), { work with printed := work.printed ++ [line] }) := rfl
    rw [row, Act.perform_bind, first]
    simp only [inductionHypothesis, List.append_assoc, List.singleton_append]

/-- Where closing the link does not fail, a tool ends as its work has ended. -/
theorem conduct_opened (complain : Failure → Option Complaint) {work : Act Work Conclusion}
    (obeyed : owned.Obeyed work) {link : Link} (owns : session.link = some link)
    (quiet : link.ClosesQuietly) :
    ∃ host wire, conduct complain (.opened session) work =
      finish complain (work.perform { session }).1 (work.perform { session }).2.printed host
        wire := by
  have kept : (work.perform { session }).2.session.link = some link :=
    (obeyed { session }).trans owns
  have closes : ((onSession Session.close).perform (work.perform { session }).2).1 = .ok () :=
    Wire.close_answers kept quiet
  rw [conduct, Act.perform_thenAlways_of_ok closes]
  exact ⟨_, _, rfl⟩

namespace Send

/-- What is printed is the answer, as soon as there is one. -/
theorem perform_work (command : String) (session : Session) :
    (work command).perform { session } =
      match (Session.execute command).perform session with
      | (.ok lines, after) => (.ok {}, { session := after, printed := lines })
      | (.error failure, after) => (.error failure, { session := after }) := by
  unfold work
  rw [Act.perform_bind, onSession, Act.perform_onPart]
  rcases (Session.execute command).perform session with ⟨failure | lines, after⟩
  · rfl
  · simp only [Act.perform_bind, perform_prints, List.nil_append, Act.perform_pure]

/-- The tool on a device at a place. -/
def conducted (device : Device) (place : Place) (platform : Platform) (command : String) : Run :=
  conduct complain (Session.openAt place {} device { platform }) (work command)

/-- A run that ended with a complaint and printed nothing. -/
structure Complains (complaint : Complaint) (run : Run) : Prop where
  ending : run.ending = .exit complaint.code
  printed : run.printed = []
  complaints : run.complaints = [complaint.text]

/-- What a run comes to on a device that opened: the answer, or a complaint about the failure. -/
theorem conducted_opened (command : String) (quiet : (place.link device).ClosesQuietly)
    (opens : Session.openAt place {} device { platform } = .opened session) :
    match ((Session.execute command).perform session).1 with
    | .ok lines => (conducted device place platform command).ending = .exit 0 ∧
        (conducted device place platform command).printed = lines
    | .error failure => ∀ complaint, complain failure = some complaint →
        Complains complaint (conducted device place platform command) := by
  obtain ⟨-, owns, -⟩ := Session.found_of_openGiven opens
  obtain ⟨host, wire, ran⟩ := conduct_opened complain (work_owned command) owns quiet
  rw [conducted, opens, ran, perform_work]
  rcases (Session.execute command).perform session with ⟨failure | lines, after⟩
  · intro complaint complains
    simp only [finish, complains]
    exact ⟨rfl, rfl, rfl⟩
  · exact ⟨rfl, List.append_nil lines⟩

/-- What a run comes to on a device that did not open: a complaint about the failure. -/
theorem conducted_unopened {complaint : Complaint}
    (failed : (Session.openAt place {} device { platform }).failure? = some failure)
    (complains : complain failure = some complaint) :
    Complains complaint (conducted device place platform command) := by
  obtain ⟨host, wire, ran⟩ := conduct_failed failed complain (work command)
  rw [conducted, ran]
  simp only [finish, complains]
  exact ⟨rfl, rfl, rfl⟩

/-- A failure of the link or a rejected value is told, and is no error of the device. -/
theorem complain_of_told (told : (failure.isLink || failure.isRejection) = true) :
    complain failure = some (complaint failure) := by
  cases failure with
  | deviceError => cases told
  | _ => simp only [complain, Failure.isDeviceError, Bool.false_eq_true, if_false, told, if_true]

/-- An error of the device is told as the device put it. -/
theorem complain_deviceError {line : String} (error : Line.beginsWith line "Error:" = true) :
    complain (.deviceError command (some line) none none) =
      some ⟨2, "Device error: " ++ line⟩ := by
  have something : line ≠ "" := by
    rintro rfl
    exact absurd error (by decide)
  simp [complain, Failure.isDeviceError, Failure.detail, something]

/-- A device at a place opens and answers a command of one line. -/
structure Answered (device : Device) (place : Place) (platform : Platform) (command : String)
    (body : List Bytes) (closing : Bytes) : Prop where
  opens : ∃ session, Session.openAt place {} device { platform } = .opened session
  single : Command.isSingleLine command = true
  answers : (place.streams device).Answers body closing

/-- The outcome of a round trip with a device that answers. -/
theorem Answered.outcome (answered : Answered device place platform command body closing) :
    ∃ session, Session.openAt place {} device { platform } = .opened session ∧
      ((Session.execute command).perform session).1 =
        if Line.classify (Line.decode closing) = .done then .ok (Session.content body)
        else .error (.deviceError command (some (Line.decode closing)) none none) := by
  obtain ⟨session, opens⟩ := answered.opens
  obtain ⟨calm, -, streams⟩ := Session.found_of_openGiven opens
  exact ⟨session, opens,
    Session.execute_of_answers calm answered.single (streams ▸ answered.answers)⟩

/-- An answer that was closed by `Done` is printed. -/
theorem Answered.printed (quiet : (place.link device).ClosesQuietly)
    (answered : Answered device place platform command body closing)
    (done : Line.decode closing = "Done") :
    (conducted device place platform command).ending = .exit 0 ∧
      (conducted device place platform command).printed = Session.content body := by
  obtain ⟨session, opens, outcome⟩ := answered.outcome
  have ran := conducted_opened command quiet opens
  rw [outcome, done] at ran
  exact ran

/-- An answer that was closed by an error line is told as an error of the device. -/
theorem Answered.told (quiet : (place.link device).ClosesQuietly)
    (answered : Answered device place platform command body closing)
    (error : Line.beginsWith (Line.decode closing) "Error:" = true) :
    Complains ⟨2, "Device error: " ++ Line.decode closing⟩
      (conducted device place platform command) := by
  obtain ⟨session, opens, outcome⟩ := answered.outcome
  have ran := conducted_opened command quiet opens
  rw [outcome, Line.classify_eq_error_iff.2 error] at ran
  exact ran _ (complain_deviceError error)

/-- Where a device does not open or does not answer, a run ends with a complaint. -/
theorem complains_of_unanswered (quiet : (place.link device).ClosesQuietly)
    (ordinary : device.streams.Ordinary)
    (told : ∀ failure, (Session.openAt place {} device { platform }).failure? = some failure →
      (failure.isLink || failure.isRejection) = true)
    (unanswered : ∀ body closing, ¬Answered device place platform command body closing) :
    ∃ failure, Complains (complaint failure) (conducted device place platform command) := by
  cases opening : (Session.openAt place {} device { platform }).failure? with
  | some failure =>
    exact ⟨failure, conducted_unopened opening (complain_of_told (told failure opening))⟩
  | none =>
    obtain ⟨session, opens⟩ :
        ∃ session, Session.openAt place {} device { platform } = .opened session := by
      cases found : Session.openAt place {} device { platform } with
      | opened session => exact ⟨session, rfl⟩
      | _ => simp [found, Session.Opening.failure?] at opening
    obtain ⟨calm, -, streams⟩ := Session.found_of_openGiven opens
    have sound : session.streams.Ordinary :=
      streams ▸ Session.ordinary_streams ordinary place
    obtain ⟨failure, failed, isTold⟩ := Session.execute_unanswered calm sound
      fun single body closing answers =>
        unanswered body closing ⟨⟨session, opens⟩, single, streams ▸ answers⟩
    have ran := conducted_opened command quiet opens
    rw [failed] at ran
    exact ⟨failure, ran _ (complain_of_told isTold)⟩

/-- A run that prints the content of an answer, if the device has closed one by `Done`, and
nothing otherwise; the exit code tells which it was, and an error of the device is shown as the
device put it. -/
structure AllOrNothing (device : Device) (place : Place) (platform : Platform) (command : String)
    (run : Run) : Prop where
  ends : run.ending = .exit 0 ∨ run.ending = .exit 1 ∨ run.ending = .exit 2
  done : run.ending = .exit 0 ↔
    ∃ body closing, Answered device place platform command body closing ∧ Line.decode closing = "Done"
  printed : ∀ body closing, Answered device place platform command body closing →
    Line.decode closing = "Done" → run.printed = Session.content body
  nothing : run.ending ≠ .exit 0 → run.printed = []
  deviceError : run.ending = .exit 2 ↔
    ∃ body closing, Answered device place platform command body closing ∧
      Line.beginsWith (Line.decode closing) "Error:" = true
  shown : ∀ body closing, Answered device place platform command body closing →
    Line.beginsWith (Line.decode closing) "Error:" = true →
    run.complaints = ["Device error: " ++ Line.decode closing]

/-- The three ways in which a run ends. -/
theorem conducted_cases (quiet : (place.link device).ClosesQuietly)
    (ordinary : device.streams.Ordinary)
    (told : ∀ failure, (Session.openAt place {} device { platform }).failure? = some failure →
      (failure.isLink || failure.isRejection) = true) (command : String) :
    (∃ body closing, Answered device place platform command body closing ∧
      Line.decode closing = "Done") ∨
    (∃ body closing, Answered device place platform command body closing ∧
      Line.beginsWith (Line.decode closing) "Error:" = true) ∨
    ∃ failure, Complains (complaint failure) (conducted device place platform command) := by
  by_cases any : ∃ body closing, Answered device place platform command body closing
  · obtain ⟨body, closing, answered⟩ := any
    rcases Line.closes_iff.1 answered.answers.closes with done | error
    · exact .inl ⟨body, closing, answered, done⟩
    · exact .inr (.inl ⟨body, closing, answered, error⟩)
  · exact .inr (.inr (complains_of_unanswered quiet ordinary told
      fun body closing answered => any ⟨body, closing, answered⟩))

theorem conducted_allOrNothing (quiet : (place.link device).ClosesQuietly)
    (ordinary : device.streams.Ordinary)
    (told : ∀ failure, (Session.openAt place {} device { platform }).failure? = some failure →
      (failure.isLink || failure.isRejection) = true) :
    AllOrNothing device place platform command (conducted device place platform command) := by
  have ways := conducted_cases quiet ordinary told command
  exact {
    ends := by
      rcases ways with ⟨body, closing, answered, done⟩ | ⟨body, closing, answered, error⟩ |
        ⟨failure, complains⟩
      · exact .inl (answered.printed quiet done).1
      · exact .inr (.inr (answered.told quiet error).ending)
      · exact .inr (.inl complains.ending)
    done := by
      refine ⟨fun zero => ?_, fun ⟨_, _, answered, done⟩ => (answered.printed quiet done).1⟩
      rcases ways with answer | ⟨body, closing, answered, error⟩ | ⟨failure, complains⟩
      · exact answer
      · cases zero.symm.trans (answered.told quiet error).ending
      · cases zero.symm.trans complains.ending
    printed := fun _ _ answered done => (answered.printed quiet done).2
    nothing := by
      intro notZero
      rcases ways with ⟨body, closing, answered, done⟩ | ⟨body, closing, answered, error⟩ |
        ⟨failure, complains⟩
      · exact absurd (answered.printed quiet done).1 notZero
      · exact (answered.told quiet error).printed
      · exact complains.printed
    deviceError := by
      refine ⟨fun two => ?_, fun ⟨_, _, answered, error⟩ => (answered.told quiet error).ending⟩
      rcases ways with ⟨body, closing, answered, done⟩ | answer | ⟨failure, complains⟩
      · cases two.symm.trans (answered.printed quiet done).1
      · exact answer
      · cases two.symm.trans complains.ending
    shown := fun _ _ answered error => (answered.told quiet error).complaints }

/-- Whatever is typed, and whatever the device does, the tool prints all of an answer or nothing,
and no failure escapes it, as long as the device opens or does not open with a failure of the link
or a rejected value, its streams fail as streams do, and closing it does not fail. -/
theorem run_allOrNothing {texts : List String} {arguments : CommandLine.Arguments}
    (read : CommandLine.Arguments.read form texts = .ok arguments) {device : Device}
    {platform : Platform}
    (told : ∀ failure,
      (Session.openAt (placeOf arguments) {} device { platform }).failure? = some failure →
      (failure.isLink || failure.isRejection) = true)
    (ordinary : device.streams.Ordinary)
    (quiet : ((placeOf arguments).link device).ClosesQuietly) :
    AllOrNothing device (placeOf arguments) platform (" ".intercalate arguments.operands)
      (run texts device platform) := by
  have same : run texts device platform =
      conducted device (placeOf arguments) platform (" ".intercalate arguments.operands) := by
    rw [run, onDevice, read]
    rfl
  rw [same]
  exact conducted_allOrNothing quiet ordinary told

/-- A board that has sent something before it is opened. It answers with a prompt and two lines, and
breaks off behind `Done`. -/
def staleBoard : Device where
  streams := {
    unread := Text.Utf8.encode "old\nDone\n> dns resolve a\none\n\nDone\nlate\n".toList
    readFailure := fun number =>
      if number = 4 then some (.plain (.system .serial "device disconnected")) else none }
  port := { stale := 9 }

/-- What was received before the board was opened is not printed, nor is the prompt. -/
theorem run_allOrNothing_staleBoard :
    ∃ arguments : CommandLine.Arguments,
      CommandLine.Arguments.read form ["--port", "/dev/ttyACM0", "dns", "resolve", "a"] =
        .ok arguments ∧
      staleBoard.streams.Ordinary ∧ ((placeOf arguments).link staleBoard).ClosesQuietly ∧
      (run ["--port", "/dev/ttyACM0", "dns", "resolve", "a"] staleBoard).printed = ["one", ""] ∧
      AllOrNothing staleBoard (placeOf arguments) {} "dns resolve a"
        (run ["--port", "/dev/ttyACM0", "dns", "resolve", "a"] staleBoard) := by
  have ordinary : staleBoard.streams.Ordinary := by
    constructor <;> intro number failure fails
    · simp [staleBoard] at fails
    · simp [staleBoard] at fails
    · simp only [staleBoard] at fails
      split at fails
      · rw [← Option.some.inj fails]
        exact ⟨_, rfl, rfl⟩
      · simp at fails
  let arguments : CommandLine.Arguments :=
    ⟨[("--port", .text "/dev/ttyACM0")], ["dns", "resolve", "a"], .within, false⟩
  have opens : (Session.openAt (placeOf arguments) {} staleBoard {}).failure?.isNone = true := by
    decide +kernel
  refine ⟨arguments, by rfl, ordinary, rfl, by decide +kernel, ?_⟩
  refine run_allOrNothing (by rfl) (fun failure failed => ?_) ordinary rfl
  rw [failed] at opens
  cases opens

end Send

end Tool

end ThreadHost
