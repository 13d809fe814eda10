import ThreadHost.Console.Actions
import ThreadHost.Proofs.Session.Opening
import ThreadHost.Proofs.Tool.Places
import ThreadHost.Tool.Latency
import ThreadHost.Tool.Scenarios
import ThreadHost.Tool.Send
/-!
# Devices that cannot be opened

When the operating system does not let a device be opened, the failure is one of the link if it was
met where opening looks for it (`Stage.catches`); then the console shows it and the tools complain
about it. Anywhere else the fault itself goes on, through the console and the tools alike
(`unopened_told`).
-/

namespace ThreadHost

/-- What a place fails with when its device cannot be opened. -/
def Place.problem : Place → LinkProblem
  | .simulation node program _ => .program program.shown node.shown
  | .serial port .. => .port port.shown

/-- Whether the program or the port of a place can be shown. -/
def Place.isNamed : Place → Bool
  | .simulation _ program _ => program.isShowable
  | .serial port .. => port.isShowable

/-- A place with a name has failed under it. -/
theorem Place.unopened_eq {place : Place} (named : place.isNamed = true) (fault : Fault) :
    place.unopened fault = .link place.problem (some fault) := by
  cases place <;> exact if_pos named

/-- Where opening a link meets the operating system. -/
inductive Stage where
  /-- The program is started, or the port is opened. -/
  | call
  /-- What the port has received before is discarded. -/
  | discard
  deriving Repr, DecidableEq

namespace Stage

/-- Whether a fault is taken for a failure of the link: every one when a program is started, one of
the serial layer when a port is opened, and none when its input is discarded. -/
def catches (place : Place) (fault : Fault) : Stage → Bool
  | .call =>
    match place, fault with
    | .simulation .., _ | .serial .., .system .serial _ => true
    | .serial .., _ => false
  | .discard => false

/-- A fault ends the opening of a device at a stage. Where it is taken for a failure of the link, the
place has a name; and what a port has received is discarded only after somebody was told that it is
open. Behind a failed discarding the port is closed, and when this fails as well, it is the later
failure that goes on. -/
inductive Fails (place : Place) (device : Device) (fault : Fault) : Stage → Prop where
  | call (fails : device.openFailure = some (.plain fault))
      (named : Stage.call.catches place fault = true → place.isNamed = true) :
      Fails place device fault .call
  | discard {port : Setting String} {baud : Setting Int} {limit : Option Float} {first : Failure}
      (isPort : place = .serial port baud limit) (opens : device.openFailure = none)
      (shown : place.isShowable = true) (fails : device.port.discardFailure = some first)
      (left : device.port.closeFailure.getD first = .plain fault) :
      Fails place device fault .discard

/-- The failure of an opening that a fault has ended. -/
def failure (stage : Stage) (place : Place) (fault : Fault) : Failure :=
  if stage.catches place fault then .link place.problem (some fault) else .plain fault

end Stage

/-- An opening that fails with a failure, and leaves nothing open. -/
inductive Session.Opening.FailsWith (failure : Failure) : Session.Opening → Prop where
  | failed (host : Host) : FailsWith failure (.failed failure host)
  | abandoned {wire : Wire} (released : wire.Released) : FailsWith failure (.abandoned failure wire)

/-- How an opening failed that gave no session. -/
def Session.Opening.failure? : Session.Opening → Option Failure
  | .opened _ => none
  | .refused failure | .failed failure _ | .abandoned failure _ => some failure

namespace Tool

/-- How a tool ends whose device was not opened. -/
structure Run.Unopened (failure : Failure) (run : Run) : Prop where
  printed : run.printed = []
  told : failure.isLink = true →
    run.ending = .exit 1 ∧ run.complaints = ["Error: " ++ failure.message]
  untold : failure.isLink = false → run.ending = .failed failure ∧ run.complaints = []

end Tool

/-- How a console is left that could not connect. -/
structure Console.Unopened (failure : Failure) (console : Console)
    (result : Except Failure Unit × Console) : Prop where
  disconnected : result.2.connected = false
  session : result.2.session = console.session
  told : failure.isLink = true → result.1 = .ok () ∧ result.2.notes =
    console.notes ++ [.message ("Connection failed: " ++ failure.message) .error none]
  untold : failure.isLink = false → result.1 = .error failure ∧ result.2.notes = console.notes

/-- A device at a place does not open, and everybody who tries is told the same. -/
structure Unopened (place : Place) (device : Device) (failure : Failure) : Prop where
  opening : ∀ (given : Session.Given) (host : Host), given.Placeless place →
    (Session.openGiven place given device host).FailsWith failure
  connecting : ∀ console : Console, console.config.place = place → place.isShowable = true →
    console.nextDevice = device → console.connected = false →
      Console.Unopened failure console (Console.connect.perform console)
  sending : ∀ texts platform arguments,
    CommandLine.Arguments.read Tool.Send.form texts = .ok arguments →
      Tool.placeOf arguments = place → (Tool.Send.run texts device platform).Unopened failure
  measuring : ∀ texts platform arguments,
    CommandLine.Arguments.read Tool.Latency.form texts = .ok arguments →
      Tool.placeOf arguments = place → (Tool.Latency.run texts device platform).Unopened failure
  scenarios : ∀ files fallback texts platform arguments config,
    CommandLine.Arguments.read Tool.Scenarios.form texts = .ok arguments →
      Tool.Scenarios.settings files fallback arguments = .ok config → config.place = place →
        (Tool.Scenarios.run files fallback texts device platform).Unopened failure

variable {place : Place} {device : Device} {fault : Fault} {stage : Stage} {failure : Failure}

/-- An opening fails in one way. -/
theorem Session.Opening.FailsWith.failure?_eq {opening : Session.Opening}
    (fails : opening.FailsWith failure) : opening.failure? = some failure := by
  cases fails <;> rfl

/-- Closing a port that is open fails with the failure there is for it. -/
theorem Port.close_ending {port : Port} (isOpen : port.isOpen = true) (wire : Wire) :
    Act.ending (port.close.perform wire).1 = port.closeFailure := by
  simp only [close, isOpen, if_true, Act.perform_bind, Wire.call, Wire.setLink, Wire.closeInput,
    Wire.closeOutput, Act.perform_modify]
  cases port.closeFailure <;> rfl

namespace Session

/-- A port whose input cannot be discarded is closed again. -/
theorem openGiven_of_discard {port : Setting String} {baud : Setting Int} {limit : Option Float}
    {first : Failure} {given : Given} (placeless : given.Placeless (.serial port baud limit))
    (opens : device.openFailure = none)
    (shown : (Place.serial port baud limit).isShowable = true)
    (fails : device.port.discardFailure = some first) (host : Host) :
    (openGiven (.serial port baud limit) given device host).FailsWith
      (device.port.closeFailure.getD first) := by
  let place : Place := .serial port baud limit
  let board : Port := { device.port with isOpen := true }
  let after : Wire := { place.wire device host with
    host := (host.record place.call).record .discardInput }
  have released : (Wire.close.perform after).2.Released :=
    @Wire.close_released after (.port board) rfl rfl
  have closing : Act.ending (Wire.close.perform after).1 = device.port.closeFailure :=
    @Port.close_ending board rfl after
  have undiscarded : place.discardFailure device = some first := fails
  rw [openGiven_prepared placeless rfl opens shown, prepare_undiscarded undiscarded, closing]
  exact .abandoned released

/-- A device that a fault of the operating system keeps from being opened. -/
theorem openGiven_fails (tried : place.refusal? = none) (fails : stage.Fails place device fault)
    (system : fault.isSystem = true) (given : Given) (host : Host)
    (placeless : given.Placeless place) :
    (openGiven place given device host).FailsWith (stage.failure place fault) := by
  cases fails with
  | call fails named =>
    have renamed : place.openFailure (.plain fault) = Stage.call.failure place fault := by
      cases place with
      | simulation =>
        simp only [Place.openFailure, system, if_true, Place.unopened_eq (named rfl)]
        rfl
      | serial port baud limit =>
        cases fault with
        | system kind text =>
          cases kind with
          | serial => exact Place.unopened_eq (named rfl) _
          | _ => rfl
        | _ => rfl
    have failed : place.openDevice device host =
        .failed (place.openFailure (.plain fault)) (host.record place.call) := by
      simp [Place.openDevice, tried, fails]
    rw [openGiven_placeless placeless, failed, ← renamed]
    exact .failed _
  | discard isPort opens shown fails left =>
    subst isPort
    change (openGiven _ given device host).FailsWith (.plain fault)
    rw [← left]
    exact openGiven_of_discard placeless opens shown fails host

end Session

/-- No fault of the operating system is a rejected value. -/
theorem Fault.isRejection_of_isSystem (system : fault.isSystem = true) :
    fault.isRejection = false := by
  cases fault with
  | system | waitExpired => rfl
  | _ => cases system

/-- A failure of the link, or a fault of the operating system as it is. -/
inductive Failure.OfOpening : Failure → Prop where
  | link (problem : LinkProblem) (cause : Option Fault) : OfOpening (.link problem cause)
  | plain {fault : Fault} (system : fault.isSystem = true) : OfOpening (.plain fault)

theorem Stage.failure_ofOpening (system : fault.isSystem = true) :
    (stage.failure place fault).OfOpening := by
  unfold Stage.failure
  split
  · exact .link _ _
  · exact .plain system

namespace Console

variable {console : Console}

/-- A console shows that a link failed, and lets any other failure of an opening go on. What was
taken of the devices before does not matter. -/
theorem connectionFailed_unopened (ofOpening : failure.OfOpening) {middle : Console}
    (connected : middle.connected = false) (session : middle.session = console.session)
    (notes : middle.notes = console.notes) :
    Unopened failure console ((connectionFailed failure).perform middle) := by
  cases ofOpening with
  | link problem cause =>
    exact ⟨connected, session, fun _ => ⟨rfl, congrArg (· ++ _) notes⟩, by rintro ⟨⟩⟩
  | @plain fault system =>
    have goesOn : (connectionFailed (.plain fault)).perform middle =
        (.error (.plain fault), middle) := by
      simp [connectionFailed, Failure.isLink, Failure.isRejection,
        Fault.isRejection_of_isSystem system]
    rw [goesOn]
    exact ⟨connected, session, by rintro ⟨⟩, fun _ => ⟨rfl, notes⟩⟩

/-- A console whose device does not open stays without one. -/
theorem connect_unopened (ofOpening : failure.OfOpening)
    (shown : console.config.place.isShowable = true) (idle : console.connected = false)
    (fails : (console.config.openSession console.nextDevice console.host).FailsWith failure) :
    Unopened failure console (connect.perform console) := by
  unfold connect
  rw [Act.perform_bind, Act.perform_get]
  dsimp only
  rw [if_neg (by simp [idle]), if_neg (by simp [shown])]
  generalize console.config.openSession console.nextDevice console.host = opening at fails ⊢
  cases fails with
  | failed host =>
    simp only [Act.perform_bind, Act.perform_set]
    exact connectionFailed_unopened ofOpening idle rfl rfl
  | abandoned released =>
    simp only [Act.perform_bind, Act.perform_set]
    exact connectionFailed_unopened ofOpening idle rfl rfl

end Console

namespace Tool

/-- A complaint is made about a link that failed, and about no fault of the operating system. -/
structure Distinguishes (complain : Failure → Option Complaint) : Prop where
  link : ∀ problem cause,
    complain (.link problem cause) = some (complaint (.link problem cause))
  plain : ∀ fault : Fault, fault.isSystem = true → complain (.plain fault) = none

theorem Send.distinguishes : Distinguishes complain where
  link _ _ := rfl
  plain _ system := by
    simp [complain, Failure.isDeviceError, Failure.isLink, Failure.isRejection,
      Fault.isRejection_of_isSystem system]

theorem Latency.distinguishes : Distinguishes complain where
  link _ _ := rfl
  plain fault system := by
    have noAssertion : (Failure.plain fault).isAssertion = false := by
      cases fault with
      | assertion => cases system
      | _ => rfl
    simp [complain, noAssertion, Failure.isLink, Failure.isRejection,
      Fault.isRejection_of_isSystem system]

theorem Scenarios.distinguishes : Distinguishes complain where
  link _ _ := rfl
  plain _ system := by
    simp [complain, Failure.isLink, Failure.isRejection, Fault.isRejection_of_isSystem system]

/-- A tool that was given no session ends with the failure of the opening. -/
theorem conduct_failed {opening : Session.Opening} (failed : opening.failure? = some failure)
    (complain : Failure → Option Complaint) (work : Act Work Conclusion) :
    ∃ host wire, conduct complain opening work =
      finish complain (.error failure) [] host wire := by
  cases opening with
  | opened => cases failed
  | refused | failed | abandoned =>
    cases failed
    exact ⟨_, _, rfl⟩

/-- A tool whose device does not open complains about the link, or lets the fault go on. -/
theorem conduct_unopened {complain : Failure → Option Complaint}
    (distinguishes : Distinguishes complain) (ofOpening : failure.OfOpening)
    {opening : Session.Opening} (fails : opening.FailsWith failure) (work : Act Work Conclusion) :
    (conduct complain opening work).Unopened failure := by
  obtain ⟨host, wire, run⟩ := conduct_failed fails.failure?_eq complain work
  rw [run, finish]
  cases ofOpening with
  | link problem cause =>
    rw [distinguishes.link]
    exact ⟨rfl, fun _ => ⟨rfl, rfl⟩, by rintro ⟨⟩⟩
  | @plain fault system =>
    rw [distinguishes.plain fault system]
    exact ⟨rfl, by rintro ⟨⟩, fun _ => ⟨rfl, rfl⟩⟩

/-- So does a tool that works with the device of its command line. -/
theorem onDevice_unopened {form : CommandLine.Form} {complain : Failure → Option Complaint}
    (distinguishes : Distinguishes complain) (ofOpening : failure.OfOpening)
    {texts : List String} {arguments : CommandLine.Arguments}
    (read : CommandLine.Arguments.read form texts = .ok arguments)
    (fails : ∀ (given : Session.Given) host, given.Placeless (placeOf arguments) →
      (Session.openGiven (placeOf arguments) given device host).FailsWith failure)
    (work : CommandLine.Arguments → Act Work Conclusion) (platform : Platform) :
    (onDevice form complain work texts device platform).Unopened failure := by
  unfold onDevice
  rw [read]
  exact conduct_unopened distinguishes ofOpening
    (fails { } { platform } (Session.placeless_options _ _)) (work arguments)

end Tool

/-- Wherever the operating system keeps a device from being opened, everybody who tries is told the
same: that the link failed where that is looked for, and otherwise the fault itself. -/
theorem unopened_told (place : Place) (device : Device) (stage : Stage) (fault : Fault)
    (tried : place.refusal? = none) (fails : stage.Fails place device fault)
    (system : fault.isSystem = true) :
    Unopened place device (stage.failure place fault) where
  opening := Session.openGiven_fails tried fails system
  connecting console here shown next idle := by
    subst here next
    exact Console.connect_unopened (Stage.failure_ofOpening system) shown idle
      (Session.openGiven_fails tried fails system _ console.host (Session.placeless_options _ _))
  sending texts platform arguments read here := by
    subst here
    exact Tool.onDevice_unopened Tool.Send.distinguishes (Stage.failure_ofOpening system) read
      (Session.openGiven_fails tried fails system) _ platform
  measuring texts platform arguments read here := by
    subst here
    exact Tool.onDevice_unopened Tool.Latency.distinguishes (Stage.failure_ofOpening system) read
      (Session.openGiven_fails tried fails system) _ platform
  scenarios files fallback texts platform arguments config read settings here := by
    subst here
    have told := Tool.conduct_unopened Tool.Scenarios.distinguishes (Stage.failure_ofOpening system)
      (Session.openGiven_fails tried fails system { options := config.options } { platform }
        (Session.placeless_options _ _)) (Tool.Scenarios.work config)
    unfold Tool.Scenarios.run
    rw [read]
    simp only [settings]
    exact ⟨told.printed, told.told, told.untold⟩

/-- The fault of a port that is gone when its input is to be discarded. -/
def portGone : Fault := .system .serial "device disconnected"

/-- A port that opens, and whose input cannot be discarded. -/
def jammedPort : Device where
  streams := { unread := [] }
  port := { discardFailure := some (.plain portGone) }

/-- A port that nobody may open. -/
def forbiddenPort : Device where
  streams := { unread := [] }
  openFailure := some (.plain (.system .permission "permission denied"))

/-- The settings for a board on a serial port. -/
def boardConfig : Config := { session := { transport := .proper .serial } }

/-- Discarding the input of that port fails behind everything else. -/
theorem fails_jammedPort : Stage.Fails boardConfig.place jammedPort portGone .discard :=
  .discard rfl rfl (by decide +kernel) rfl rfl

theorem unopened_told_somePlaces :
    (Session.simulation (.proper 1) (.proper defaultProgram)).refusal? = none ∧
    Unopened (Session.simulation (.proper 1) (.proper defaultProgram)) .missing
      (.link (.program "ot-cli-ftd" "1") (some (.system .notFound "no such device"))) ∧
    boardConfig.place.refusal? = none ∧ Stage.Fails boardConfig.place jammedPort portGone .discard ∧
    Unopened boardConfig.place jammedPort (.plain portGone) := by
  have tried : (Session.simulation (.proper 1) (.proper defaultProgram)).refusal? = none := by
    decide +kernel
  exact ⟨tried, unopened_told _ _ .call _ tried (.call rfl fun _ => rfl) rfl, rfl, fails_jammedPort,
    unopened_told _ _ _ _ rfl fails_jammedPort rfl⟩

/-- The link has failed, and nobody is told so: neither where the input of a port cannot be
discarded, nor where the port must not be opened. -/
theorem unopened_untold_boards :
    Stage.Fails boardConfig.place jammedPort portGone .discard ∧
    (¬∃ problem cause,
      (boardConfig.openSession jammedPort {}).FailsWith (.link problem cause)) ∧
    (Console.connect.perform { config := boardConfig, devices := [jammedPort] }).1 =
      .error (.plain portGone) ∧
    (Tool.Send.run ["--port", "/dev/ttyACM0", "state"] jammedPort).ending =
      .failed (.plain portGone) ∧
    ¬∃ problem cause,
      (boardConfig.openSession forbiddenPort {}).FailsWith (.link problem cause) := by
  have jammed (given : Session.Given) (host : Host) (placeless : given.Placeless boardConfig.place) :
      (Session.openGiven boardConfig.place given jammedPort host).FailsWith (.plain portGone) :=
    Session.openGiven_fails rfl fails_jammedPort rfl given host placeless
  have opened := jammed { options := boardConfig.options } {} (Session.placeless_options _ _)
  obtain ⟨arguments, read, here⟩ : ∃ arguments, CommandLine.Arguments.read Tool.Send.form
      ["--port", "/dev/ttyACM0", "state"] = .ok arguments ∧
        Tool.placeOf arguments = boardConfig.place := ⟨_, rfl, rfl⟩
  refine ⟨fails_jammedPort, ?_, by decide +kernel, ?_, ?_⟩
  · rintro ⟨problem, cause, fails⟩
    cases opened.failure?_eq.symm.trans fails.failure?_eq
  · have sent := Tool.onDevice_unopened Tool.Send.distinguishes (.plain rfl) read
      (fun given host => here ▸ jammed given host)
      (fun arguments => Tool.Send.work (Tool.Send.commandOf arguments.operands)) {}
    exact (sent.untold rfl).1
  · rintro ⟨problem, cause, fails⟩
    cases fails

end ThreadHost
