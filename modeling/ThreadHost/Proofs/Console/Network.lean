import ThreadHost.Proofs.Console.Handled
/-!
# The network that is shown

The panel shows the name of the network that was joined last (`run_network`). A join changes it if
the device answered each of its three commands by `Done`, and nothing else changes it. So it is the
network of the session while there is a session on which one was joined; but nobody takes it back
when that session ends, and it is still shown without a device and on the next one
(`network_outlives_session`).
-/

namespace ThreadHost.Console

open Act (Law)

variable {console : Console} {α : Type}

/-! ## Joins -/

/-- The device answered each of the three commands of a join by `Done`, and the network that was
joined has this name. -/
inductive Joins (console : Console) : Action → String → Prop where
  | join {session after : Session} {dataset : Dataset} {hex name : String}
      (connected : console.connected = true) (has : console.session = some session)
      (known : console.config.dataset = .ok dataset) (text : dataset.toHex = .ok hex)
      (answered : Session.Succeeds ["dataset set active " ++ hex, "ifconfig up", "thread start"]
        { console.working session with activeDataset := some dataset } after)
      (named : dataset.networkName = some name) : Joins console .join name

/-- The name of the network that an action joins, if it joins one. -/
def joinedName? (console : Console) : Action → Option String
  | .join =>
    match console.connected, console.session, console.config.dataset with
    | true, some session, .ok dataset =>
      match ((Session.join dataset).perform (console.working session)).1 with
      | .ok () => dataset.networkName
      | .error _ => none
    | _, _, _ => none
  | _ => none

/-- A join names a network exactly if it was answered. -/
theorem joinedName?_eq_some_iff {action : Action} {name : String} :
    joinedName? console action = some name ↔ Joins console action name := by
  constructor
  · intro joined
    cases action with
    | join =>
      simp only [joinedName?] at joined
      split at joined
      case h_1 session dataset connected has known =>
        rcases performed : (Session.join dataset).perform (console.working session) with
          ⟨failure | _, after⟩ <;> rw [performed] at joined
        · cases joined
        · obtain ⟨hex, text, answered⟩ := Session.join_eq_ok_iff.1 performed
          exact .join connected has known text answered joined
      case h_2 => cases joined
    | _ => cases joined
  · rintro ⟨connected, has, known, text, answered, named⟩
    have performed := Session.join_eq_ok_iff.2 ⟨_, text, answered⟩
    simp only [joinedName?, connected, has, known, performed, named]

/-! ## What leaves the network alone -/

/-- The network that is shown stays the same. -/
def keepingNetwork : Law Console := Law.keeping fun console => console.panel.network

theorem showStatus_keepsNetwork {change : StatusUpdate} (silent : change.network = none) :
    keepingNetwork.Obeyed (showStatus change) := by
  intro console
  change change.network.getD console.panel.network = console.panel.network
  rw [silent]
  rfl

theorem throw_keepsNetwork (failure : Failure) :
    keepingNetwork.Obeyed (throw failure : Act Console α) := fun _ => rfl

theorem notify_keepsNetwork (text : String) (severity : Severity) :
    keepingNetwork.Obeyed (notify text severity) := fun _ => rfl

theorem onSession_keepsNetwork (otherwise : α) (act : Act Session α) :
    keepingNetwork.Obeyed (onSession otherwise act) := by
  intro console
  cases has : console.session with
  | none =>
    rw [perform_onSession_none has]
    rfl
  | some session =>
    rw [perform_onSession_some has]
    rfl

theorem holdingDevice_keepsNetwork {act : Act Console α} (inner : keepingNetwork.Obeyed act) :
    keepingNetwork.Obeyed (holdingDevice act) := by
  intro console
  rw [perform_holdingDevice]
  exact inner (console.lockedAs true)

theorem unwatch_keepsNetwork : keepingNetwork.Obeyed unwatch := by
  intro console
  obtain ⟨observers, unwatched⟩ := perform_unwatch console
  rw [unwatched]
  rfl

theorem closeSession_keepsNetwork : keepingNetwork.Obeyed closeSession := by
  refine (onSession_keepsNetwork () Session.close).bind fun _ console => ?_
  rw [Act.perform_modify]
  unfold releaseSession
  split <;> rfl

/-- A disconnection blanks the role and the address, and not the network. -/
theorem disconnect_keepsNetwork : keepingNetwork.Obeyed disconnect :=
  Law.obeyed_get.bind fun _ =>
    .ite (notify_keepsNetwork _ _) <|
      unwatch_keepsNetwork.bind fun _ => closeSession_keepsNetwork.bind fun _ =>
        Law.Obeyed.bind (fun _ => rfl) fun _ =>
          (showStatus_keepsNetwork rfl).bind fun _ => notify_keepsNetwork _ _

theorem linkLost_keepsNetwork (failure : Failure) : keepingNetwork.Obeyed (linkLost failure) :=
  (notify_keepsNetwork _ _).bind fun _ => disconnect_keepsNetwork

theorem refresh_keepsNetwork : keepingNetwork.Obeyed refresh := by
  refine Law.obeyed_get.bind fun console => .ite (Law.obeyed_pure _) ?_
  refine (holdingDevice_keepsNetwork ?_).bind fun status => Law.obeyed_get.bind fun console => ?_
  · refine ((onSession_keepsNetwork _ askStatus).attempt fun _ kept => kept).bind fun outcome => ?_
    cases outcome with
    | ok status => exact Law.obeyed_pure _
    | error failure =>
      exact .ite (Law.obeyed_pure _) (.ite ((linkLost_keepsNetwork failure).bind fun _ =>
        Law.obeyed_pure _) (throw_keepsNetwork failure))
  · split
    · exact showStatus_keepsNetwork rfl
    · exact Law.obeyed_pure _

theorem connectionFailed_keepsNetwork (failure : Failure) :
    keepingNetwork.Obeyed (connectionFailed failure) :=
  .ite (notify_keepsNetwork _ _) (throw_keepsNetwork failure)

/-- A new session shows its device, and not that there is no network. -/
theorem attach_keepsNetwork (session : Session) : keepingNetwork.Obeyed (attach session) :=
  Law.Obeyed.bind (fun _ => rfl) fun _ => Law.obeyed_get.bind fun _ =>
    (showStatus_keepsNetwork rfl).bind fun _ => notify_keepsNetwork _ _

theorem connect_keepsNetwork : keepingNetwork.Obeyed connect := by
  refine Law.obeyed_get_bind fun console => ?_
  by_cases connected : console.connected = true
  · rw [if_pos connected]
    exact notify_keepsNetwork _ _ console
  rw [if_neg connected]
  cases console.config.place.isShowable with
  | false => exact connectionFailed_keepsNetwork (.plain .tooManyDigits) console
  | true =>
    rw [if_neg (by decide)]
    cases console.config.openSession console.nextDevice console.host with
    | refused failure => exact connectionFailed_keepsNetwork failure console
    | failed failure host =>
      exact Law.ObeyedAt.bind (by rfl) fun _ => connectionFailed_keepsNetwork failure
    | abandoned failure wire =>
      exact Law.ObeyedAt.bind (by rfl) fun _ => connectionFailed_keepsNetwork failure
    | opened session =>
      exact Law.ObeyedAt.bind (by rfl) fun _ => (attach_keepsNetwork session).bind fun _ =>
        refresh_keepsNetwork

/-- What follows work on behalf of the user that failed. -/
theorem failed_keepsNetwork (label : String) (failure : Failure) :
    keepingNetwork.Obeyed (if failure.isDeviceError then
      notify (label ++ ": " ++ failure.detail) .error
    else if failure.isLink then linkLost failure
    else throw failure) :=
  .ite (notify_keepsNetwork _ _) (.ite (linkLost_keepsNetwork failure) (throw_keepsNetwork failure))

theorem guarded_keepsNetwork (label : String) (act : Act Session Unit) :
    keepingNetwork.Obeyed (guarded label act (pure ())) := by
  refine ((holdingDevice_keepsNetwork (onSession_keepsNetwork () act)).attempt
    fun _ kept => kept).bind fun outcome => ?_
  cases outcome with
  | ok => exact (Law.obeyed_pure _).bind fun _ => notify_keepsNetwork _ _
  | error failure => exact failed_keepsNetwork label failure

theorem requireSession_keepsNetwork : keepingNetwork.Obeyed requireSession :=
  Law.obeyed_get.bind fun _ =>
    .ite ((notify_keepsNetwork _ _).bind fun _ => Law.obeyed_pure _) (Law.obeyed_pure _)

theorem networkDataset_keepsNetwork : keepingNetwork.Obeyed networkDataset := by
  refine Law.obeyed_get.bind fun console => ?_
  cases console.config.dataset with
  | ok dataset => exact Law.obeyed_pure dataset
  | error fault => exact throw_keepsNetwork _

theorem scenarios_keepsNetwork : keepingNetwork.Obeyed scenarios :=
  requireSession_keepsNetwork.bind fun _ =>
    .ite ((notify_keepsNetwork _ _).bind fun _ =>
      (holdingDevice_keepsNetwork (networkDataset_keepsNetwork.bind fun _ =>
        Law.obeyed_get.bind fun _ => onSession_keepsNetwork _ _)).bind fun _ _ => rfl)
      (Law.obeyed_pure _)

/-- Every action but a join leaves the network that is shown. -/
theorem perform_keepsNetwork {action : Action} (other : action ≠ .join) :
    keepingNetwork.Obeyed (perform action) := by
  cases action with
  | connect => exact connect_keepsNetwork
  | disconnect => exact disconnect_keepsNetwork
  | join => exact absurd rfl other
  | stopRadio =>
    exact requireSession_keepsNetwork.bind fun _ =>
      .ite (guarded_keepsNetwork _ _) (Law.obeyed_pure _)
  | factoryReset =>
    exact requireSession_keepsNetwork.bind fun _ =>
      .ite (guarded_keepsNetwork _ _) (Law.obeyed_pure _)
  | scenarios => exact scenarios_keepsNetwork
  | submit typed =>
    exact .ite (requireSession_keepsNetwork.bind fun _ =>
      .ite (guarded_keepsNetwork _ _) (Law.obeyed_pure _)) (Law.obeyed_pure _)
  | refresh => exact refresh_keepsNetwork
  | refreshWhileHeld => exact holdingDevice_keepsNetwork refresh_keepsNetwork
  | focusInput | unfocusInput | mount | feed bytes => exact fun _ => rfl
  | assign part setting value =>
    exact Law.obeyed_get.bind fun _ =>
      (Law.obeyed_ofFault fun _ _ _ => rfl).bind fun _ _ => rfl

/-! ## What a join shows -/

/-- Work on behalf of the user shows a network if it ends well. -/
theorem network_guarded {session : Session} (has : console.session = some session) (label : String)
    (act : Act Session Unit) (name : Option String) :
    ((guarded label act (showStatus { network := name })).perform console).2.panel.network =
      match (act.perform (console.working session)).1 with
      | .ok () => name.getD console.panel.network
      | .error _ => console.panel.network := by
  unfold guarded
  rw [Act.perform_bind, Act.perform_attempt, perform_holdingDevice, perform_onSession_locked has]
  rcases act.perform (console.working session) with ⟨failure | _, after⟩
  · exact failed_keepsNetwork label failure _
  · rfl

/-- A join shows its network if it was answered, and leaves what is shown otherwise. -/
theorem network_join (console : Console) :
    (join.perform console).2.panel.network =
      (joinedName? console .join).getD console.panel.network := by
  unfold join joinedName?
  cases connected : console.connected with
  | false =>
    simp only [requireSession, Act.perform_bind, Act.perform_get, connected]
    rfl
  | true =>
    cases has : console.session with
    | none =>
      rw [Act.perform_bind, perform_requireSession_none has]
      rfl
    | some session =>
      have asks : requireSession.perform console = (.ok true, console) := by
        simp [requireSession, Act.perform_bind, connected, has]
      rw [Act.perform_bind, asks]
      cases known : console.config.dataset with
      | error fault =>
        simp only [if_true, Act.perform_bind, networkDataset, Act.perform_get, known,
          Act.perform_refuse]
        rfl
      | ok dataset =>
        simp only [if_true, Act.perform_bind, networkDataset, Act.perform_get, known,
          Act.perform_pure]
        rw [network_guarded has]
        rcases (Session.join dataset).perform (console.working session) with ⟨_ | _, _⟩ <;> rfl

/-- One action: the network that is shown is the one that it joined, or as before. -/
theorem network_perform (action : Action) (console : Console) :
    ((perform action).perform console).2.panel.network =
      (joinedName? console action).getD console.panel.network := by
  cases action with
  | join => exact network_join console
  | _ => exact perform_keepsNetwork (by simp) console

/-! ## Runs -/

/-- The name that is left of those that were joined in the course of some actions, if a name is
forgotten wherever it is not kept. -/
def nameAfter (keeps : Console → Bool) (console : Console) (name : Option String) :
    List Action → Option String
  | [] => name
  | action :: actions =>
    let after := ((perform action).perform console).2
    nameAfter keeps after (if keeps after then (joinedName? console action).or name else none)
      actions

/-- The name of the network that was joined last. -/
def lastJoined (console : Console) (actions : List Action) : Option String :=
  nameAfter (fun _ => true) console none actions

/-- The name of the network that was joined last on the session that there is. -/
def ownNetwork (console : Console) (actions : List Action) : Option String :=
  nameAfter Console.connected console none actions

/-- What is shown behind some actions, by induction over the actions. -/
theorem network_afterAll (actions : List Action) {name : Option String}
    (shown : console.panel.network = name.getD "-") :
    (console.afterAll actions).panel.network =
      (nameAfter (fun _ => true) console name actions).getD "-" := by
  induction actions generalizing console name with
  | nil => exact shown
  | cons action actions inductionHypothesis =>
    refine inductionHypothesis ?_
    rw [network_perform, shown]
    cases joinedName? console action <;> rfl

/-- A name that was not forgotten is the last one. -/
theorem nameAfter_of_kept {keeps : Console → Bool} {kept any : Option String} {name : String}
    (actions : List Action) (agree : ∀ name, kept = some name → any = some name)
    (left : nameAfter keeps console kept actions = some name) :
    nameAfter (fun _ => true) console any actions = some name := by
  induction actions generalizing console kept any with
  | nil => exact agree name left
  | cons action actions inductionHypothesis =>
    refine inductionHypothesis (fun other still => ?_) left
    split at still
    · cases joined : joinedName? console action with
      | none =>
        rw [joined] at still
        exact agree other still
      | some joinedNow =>
        rw [joined] at still
        exact still
    · cases still

/-- Where a name is not kept at the end, none is left, if none was there before it was kept. -/
theorem nameAfter_of_not_kept {keeps : Console → Bool} {name : Option String}
    (actions : List Action) (before : keeps console = false → name = none)
    (lost : keeps (console.afterAll actions) = false) :
    nameAfter keeps console name actions = none := by
  induction actions generalizing console name with
  | nil => exact before lost
  | cons action actions inductionHypothesis =>
    refine inductionHypothesis (fun notKept => ?_) lost
    rw [if_neg (Bool.eq_false_iff.1 notKept)]

/-- Without a session there is no network of its own. -/
theorem ownNetwork_of_not_connected {actions : List Action}
    (left : (console.afterAll actions).connected = false) : ownNetwork console actions = none :=
  nameAfter_of_not_kept actions (fun _ => rfl) left

/-- Behind any actions the panel shows the name of the network that was joined last, or that there
was none. So it is right while there is a session on which a network was joined. A network is
joined by a join of which all three commands were answered by `Done`, and it has the name that was
set. -/
theorem run_network (config : Config) (host : Host) (supply : List Device) (actions : List Action) :
    ((start config host supply).afterAll actions).panel.network =
        (lastJoined (start config host supply) actions).getD "-" ∧
    (∀ name, ownNetwork (start config host supply) actions = some name →
      ((start config host supply).afterAll actions).panel.network = name) ∧
    (∀ (console : Console) (action : Action) (name : String),
      joinedName? console action = some name ↔ Joins console action name) ∧
    ∀ (console : Console) (dataset : Dataset), console.config.dataset = .ok dataset →
      ∃ name, console.config.network.networkName = .proper name ∧
        dataset.networkName = some name := by
  have last := @network_afterAll (start config host supply) actions none rfl
  refine ⟨last, fun name own => ?_, fun _ _ _ => joinedName?_eq_some_iff,
    fun _ _ known => NetworkSettings.networkName_of_toDataset known⟩
  rw [last, nameAfter_of_kept actions (fun _ same => same) own]
  rfl

/-- A simulated device that takes all commands of a join. -/
def joinableDevice : Device where
  streams := { unread := Text.Utf8.encode "disabled\nDone\nDone\nDone\nDone\n".toList }

/-- The network of a session that is still there. -/
theorem run_network_joinableDevice :
    ownNetwork (start {} {} [joinableDevice]) [.connect, .join] = some "ftd-host" ∧
      ((start {} {} [joinableDevice]).afterAll [.connect, .join]).panel.network = "ftd-host" := by
  have own : ownNetwork (start {} {} [joinableDevice]) [.connect, .join] = some "ftd-host" := by
    decide +kernel
  exact ⟨own, (run_network {} {} _ _).2.1 _ own⟩

/-- So it is not true that a network is shown only while there is the session on which it was
joined: it is still shown behind a disconnection. -/
theorem network_outlives_session :
    ¬∀ (config : Config) (host : Host) (supply : List Device) (actions : List Action),
      ((start config host supply).afterAll actions).panel.network =
        (ownNetwork (start config host supply) actions).getD "-" := by
  intro always
  have ran : ((start {} {} [joinableDevice]).afterAll
        [.connect, .join, .disconnect]).panel.network = "ftd-host" ∧
      ((start {} {} [joinableDevice]).afterAll
        [.connect, .join, .disconnect]).connected = false := by decide +kernel
  have same := always {} {} [joinableDevice] [.connect, .join, .disconnect]
  rw [ran.1, ownNetwork_of_not_connected ran.2] at same
  exact absurd same (by decide)

end ThreadHost.Console
