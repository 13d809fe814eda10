import ThreadHost.Proofs.Console.Standing
import ThreadHost.Proofs.Session.Close
/-!
# Devices that come and go

A disconnection gives up the device and everything that said there was one (`perform_disconnect`);
a connection takes the next device, and either it gets a session and a listener or it is given up
again (`connect_stands`).
-/

namespace ThreadHost.Console

open Act (Law)

variable {supply : List Device} {console : Console} {session : Session}

/-- What a disconnection shows. -/
def blankStatus : StatusUpdate :=
  { connected := some false, role := some "UNKNOWN", offMeshAddress := some "-" }

/-- A console whose device was given up. -/
def disconnected (console : Console) (session : Session) (wire : Wire) : Console :=
  { console with
    host := wire.host
    session := none
    listener := none
    connected := false
    panel := console.panel.update blankStatus
    notes := console.notes ++ [.message "Disconnected" .information none]
    released := console.released ++ [wire]
    pastTraffic := console.pastTraffic ++ session.traffic }

/-- A session is closed and forgotten, if closing it does not fail. -/
theorem perform_closeSession_of_ok (has : console.session = some session) {wire : Wire}
    (closes : Wire.close.perform { session.toWire with host := console.host } = (.ok (), wire)) :
    closeSession.perform console = (.ok (), { console with
      host := wire.host
      session := none
      released := console.released ++ [wire]
      pastTraffic := console.pastTraffic ++ session.traffic }) := by
  have closed : Session.close.perform { session with host := console.host } =
      (.ok (), { session with toWire := wire }) := by
    rw [Session.close, Session.onWire, Act.perform_onPart, closes]
  unfold closeSession
  rw [Act.perform_bind, perform_onSession_some has, closed]
  simp [putSession, releaseSession, watch]

/-- Closing does not fail where closing the link does not. -/
theorem perform_closeSession {link : Link} (has : console.session = some session)
    (owns : session.link = some link) (held : link.Held) (quiet : link.ClosesQuietly) :
    ∃ wire : Wire, wire.Released ∧ wire.host.platform = console.host.platform ∧
      closeSession.perform console = (.ok (), { console with
        host := wire.host
        session := none
        released := console.released ++ [wire]
        pastTraffic := console.pastTraffic ++ session.traffic }) := by
  let working : Wire := { session.toWire with host := console.host }
  have released := @Wire.close_released working link owns held
  have answered := @Wire.close_answers working link owns quiet
  obtain ⟨_, _, _, _, sealed, -⟩ := Wire.close_seals working
  exact ⟨_, released, congrArg (·.host.platform) sealed,
    perform_closeSession_of_ok has (Prod.ext answered rfl)⟩

/-- A listener that is detached takes nothing of a session with it but an observer. -/
theorem unlisten_eq (session : Session) (listener : Listener) :
    ∃ observers, (session.unlisten listener).1 = { session with observers } := by
  unfold Session.unlisten
  split
  · exact ⟨session.observers, rfl⟩
  · exact ⟨_, rfl⟩

/-- To stop listening changes nothing of a session but its observers. -/
theorem perform_unwatch (console : Console) :
    ∃ observers, unwatch.perform console = (.ok (), { console with
      session := console.session.map fun session => { session with observers }
      listener := none }) := by
  unfold unwatch
  rw [Act.perform_modify]
  cases has : console.session with
  | none => exact ⟨[], by cases console.listener <;> simp⟩
  | some session =>
    cases console.listener with
    | none => exact ⟨session.observers, by simp⟩
    | some listener =>
      obtain ⟨observers, alone⟩ := unlisten_eq session listener
      exact ⟨observers, by simp [alone]⟩

/-- A disconnection is over where the session does not close. -/
theorem perform_disconnect_unwatched {silent : Console} (connected : console.connected = true)
    (unwatched : unwatch.perform console = (.ok (), silent)) :
    disconnect.perform console =
      match closeSession.perform silent with
      | (.ok (), after) => (.ok (), { after with
          connected := false
          panel := after.panel.update blankStatus
          notes := after.notes ++ [.message "Disconnected" .information none] })
      | (.error failure, after) => (.error failure, after) := by
  unfold disconnect
  rw [Act.perform_bind, Act.perform_get]
  dsimp only
  rw [if_neg (by simp [connected])]
  simp only [Act.perform_bind, unwatched]
  rcases closeSession.perform silent with ⟨_ | _, _⟩ <;> rfl

/-- A disconnection leaves no device, and nothing that says there is one. -/
theorem perform_disconnect (stands : Standing supply console)
    (connected : console.connected = true) :
    ∃ session wire, console.session = some session ∧ wire.Released ∧
      wire.host.platform = console.host.platform ∧
      disconnect.perform console = (.ok (), console.disconnected session wire) := by
  obtain ⟨session, has⟩ : ∃ session, console.session = some session := by
    rw [← Option.isSome_iff_exists, ← stands.connected, connected]
  obtain ⟨link, owns, held, quiet⟩ := stands.owns session has
  obtain ⟨observers, unwatched⟩ := perform_unwatch console
  rw [has] at unwatched
  obtain ⟨wire, released, platform, closed⟩ := @perform_closeSession
    { console with session := some { session with observers }, listener := none } _ link
    rfl owns held quiet
  refine ⟨session, wire, has, released, platform, ?_⟩
  rw [perform_disconnect_unwatched connected unwatched, Option.map_some, closed]
  rfl

/-- A console whose device was given up stands, and has forgotten no line of it. -/
theorem Standing.disconnected (stands : Standing supply console)
    (has : console.session = some session) {wire : Wire} (released : wire.Released) :
    Kept supply console (console.disconnected session wire) := by
  have sameTraffic : (console.disconnected session wire).traffic = console.traffic := by
    rw [traffic, traffic, has]
    exact List.append_nil _
  refine ⟨{
    connected := rfl
    listens := rfl
    follows := by rintro _ _ ⟨⟩
    owns := by rintro _ ⟨⟩
    shown := rfl
    blank := fun _ => ⟨rfl, rfl⟩
    released := List.forall_mem_append.2 ⟨stands.released, List.forall_mem_singleton.2 released⟩
    opened := ?_
    quiet := stands.quiet
    capacity := stands.capacity
    monitored := ?_ }, ?_, id⟩
  · obtain ⟨taken, rest, count⟩ := stands.opened
    refine ⟨taken, rest, count.trans ?_⟩
    simp [openedCount, has, Console.disconnected]
  · rw [sameTraffic]
    exact stands.monitored
  · exact sameTraffic ▸ List.prefix_rfl

/-- Where there is no device, none is given up. -/
theorem perform_disconnect_idle (idle : ¬console.connected = true) :
    disconnect.perform console = (notify "Not connected" .warning).perform console := by
  unfold disconnect
  rw [Act.perform_bind, Act.perform_get]
  simp [idle]

/-- A disconnection keeps a console standing. -/
theorem disconnect_stands : (standing supply).Obeyed disconnect := by
  intro console
  by_cases connected : console.connected = true
  · intro stands
    obtain ⟨session, wire, has, released, -, left⟩ := perform_disconnect stands connected
    rw [left]
    exact stands.disconnected has released
  · rw [perform_disconnect_idle connected]
    exact notify_stands _ _ console

/-- Giving up a lost link keeps a console standing. -/
theorem linkLost_stands (failure : Failure) : (standing supply).Obeyed (linkLost failure) :=
  (notify_stands _ _).bind fun _ => disconnect_stands

/-- What a refresh asks for leaves a follower of the session in place. -/
theorem askStatus_followed : Session.followed.Obeyed askStatus :=
  Session.asking_followed.getState.bind fun _ =>
    .ite ((Session.asking_followed.getOffMeshAddress none).bind fun _ => Law.obeyed_pure _)
      (Law.obeyed_pure _)

/-- A refresh keeps a console standing, also one in the course of which the link is lost. -/
theorem refresh_stands : (standing supply).Obeyed refresh := by
  refine Law.obeyed_get.bind fun console => .ite (Law.obeyed_pure _) ?_
  refine (holdingDevice_stands ?_).bind fun status => Law.obeyed_get_bind fun console => ?_
  · refine ((onSession_stands _ askStatus_followed).attempt standing_blind).bind fun outcome => ?_
    cases outcome with
    | ok status => exact Law.obeyed_pure _
    | error failure =>
      exact .ite (Law.obeyed_pure _)
        (.ite ((linkLost_stands failure).bind fun _ => Law.obeyed_pure _) (throw_stands failure))
  · -- What is shown is that of the session there is, if there still is one.
    split
    · rename_i session has
      intro stands
      have connected : console.connected = true := by
        rw [stands.connected, has]
        rfl
      exact ⟨stands.show rfl (.inl connected), List.prefix_rfl, id⟩
    · exact (standing supply).refl console

/-- A failure to connect is shown or goes on. -/
theorem connectionFailed_stands (failure : Failure) :
    (standing supply).Obeyed (connectionFailed failure) :=
  .ite (notify_stands _ _) (throw_stands failure)

/-- The next device is none of those that were taken before; where none is left, nothing opens. -/
theorem Standing.next (stands : Standing supply console) :
    ∃ taken, supply = taken ++ console.devices.drop 1 ∧
      taken.countP (·.openFailure.isNone) =
        console.openedCount + if console.nextDevice.openFailure = none then 1 else 0 := by
  obtain ⟨taken, rest, count⟩ := stands.opened
  unfold nextDevice
  cases queue : console.devices with
  | nil =>
    refine ⟨taken, by rw [rest, queue, List.drop_nil], ?_⟩
    simp [count, Device.missing]
  | cons device devices =>
    refine ⟨taken ++ [device], by simp [rest, queue], ?_⟩
    cases opens : device.openFailure <;> simp [count, opens]

/-- Where no device is left, closing does not fail. -/
theorem quiet_missing : Device.missing.ClosesQuietly := ⟨by rintro _ ⟨⟩, rfl, rfl⟩

/-- The next device closes quietly. -/
theorem Standing.next_quiet (stands : Standing supply console) :
    console.nextDevice.ClosesQuietly := by
  unfold nextDevice
  cases queue : console.devices with
  | nil => exact quiet_missing
  | cons device devices => exact stands.quiet device (queue ▸ List.mem_cons_self)

/-- A console that was given a session, which its listener follows from now on. -/
def connectedTo (console : Console) (session : Session) : Console :=
  let receiver : Receiver := ⟨"cli-monitor", 1⟩
  { console with
    host := session.host
    devices := console.devices.drop 1
    session := some (session.addObserver (.receiver receiver))
    connected := true
    listener := some ⟨"cli-monitor", 1, some receiver⟩
    panel := console.panel.update
      { connected := some true, device := some console.config.deviceName }
    notes := console.notes ++ [.message "Connected" .information none] }

/-- What may come of opening the next device. -/
theorem Standing.proper (stands : Standing supply console) :
    (console.config.openSession console.nextDevice console.host).Proper console.config.place
      { options := console.config.options } console.nextDevice :=
  Session.openGiven_proper stands.next_quiet.input console.config.place
    { options := console.config.options } console.host

/-- A console that was given a session stands. -/
theorem Standing.connectedTo (stands : Standing supply console) (idle : console.connected = false)
    (opens : console.config.openSession console.nextDevice console.host = .opened session) :
    Kept supply console (console.connectedTo session) := by
  have none : console.session = none := by
    rw [← Option.not_isSome_iff_eq_none, ← stands.connected, idle]
    decide
  have closes := stands.next_quiet
  have proper := stands.proper
  have result : Session.openGiven console.config.place { options := console.config.options }
      console.nextDevice console.host = .opened session := opens
  obtain ⟨nobody, nothing⟩ := Session.new_of_openGiven result
  obtain ⟨unfailing, -⟩ := Session.of_openGiven_opened result
  have sameTraffic : (console.connectedTo session).traffic = console.traffic := by
    rw [traffic, traffic, none]
    exact congrArg (console.pastTraffic ++ ·) nothing
  refine ⟨{
    connected := rfl
    listens := rfl
    follows := ?_
    owns := ?_
    shown := rfl
    blank := by rintro ⟨⟩
    released := stands.released
    opened := ?_
    quiet := fun device member => stands.quiet device (List.mem_of_mem_drop member)
    capacity := stands.capacity
    monitored := ?_ }, ?_, id⟩
  · rintro _ _ ⟨⟩ ⟨⟩
    exact ⟨⟨"cli-monitor", 1⟩, rfl, rfl, by rw [Session.addObserver, nobody]; rfl⟩
  · rintro _ ⟨⟩
    rw [opens] at proper
    cases proper with
    | opened _ opened =>
      exact ⟨_, opened.owns, Place.held_link closes.input _, closes.link _⟩
  · obtain ⟨taken, rest, count⟩ := stands.next
    refine ⟨taken, rest, ?_⟩
    simpa [openedCount, none, unfailing, Console.connectedTo] using count
  · rw [sameTraffic]
    exact stands.monitored
  · exact sameTraffic ▸ List.prefix_rfl

/-- A device that did not open is taken. -/
theorem Standing.failed (stands : Standing supply console) (host : Host)
    (unopened : console.nextDevice.openFailure.isSome = true) :
    Kept supply console { console with host, devices := console.devices.drop 1 } := by
  obtain ⟨taken, rest, count⟩ := stands.next
  rw [if_neg (Option.isSome_iff_ne_none.1 unopened)] at count
  exact ⟨{ stands with
    opened := ⟨taken, rest, count⟩
    quiet := fun device member => stands.quiet device (List.mem_of_mem_drop member) },
    List.prefix_rfl, id⟩

/-- A device that was given up before there was a session for it is taken. -/
theorem Standing.abandoned (stands : Standing supply console) {wire : Wire}
    (opened : console.nextDevice.openFailure = none) (released : wire.Released) :
    Kept supply console { console with
      host := wire.host
      devices := console.devices.drop 1
      released := console.released ++ [wire] } := by
  obtain ⟨taken, rest, count⟩ := stands.next
  rw [if_pos opened] at count
  refine ⟨{ stands with
    released := List.forall_mem_append.2 ⟨stands.released, List.forall_mem_singleton.2 released⟩
    opened := ⟨taken, rest, ?_⟩
    quiet := fun device member => stands.quiet device (List.mem_of_mem_drop member) },
    List.prefix_rfl, id⟩
  rw [count]
  simp only [openedCount, List.length_append, List.length_singleton]
  omega

/-- A connection keeps a console standing, whatever comes of opening the device and of the refresh
behind it. -/
theorem connect_stands : (standing supply).Obeyed connect := by
  refine Law.obeyed_get_bind fun console => ?_
  by_cases connected : console.connected = true
  · rw [if_pos connected]
    exact notify_stands _ _ console
  rw [if_neg connected]
  cases shown : console.config.place.isShowable with
  | false => exact connectionFailed_stands (.plain .tooManyDigits) console
  | true =>
    rw [if_neg (by decide)]
    cases opens : console.config.openSession console.nextDevice console.host with
    | refused failure => exact connectionFailed_stands failure console
    | failed failure host =>
      refine Law.ObeyedAt.bind (fun stands => stands.failed host ?_) fun _ =>
        connectionFailed_stands failure
      have proper := stands.proper
      rw [opens] at proper
      cases proper with
      | failed unopened => exact unopened
    | abandoned failure wire =>
      have result : Session.openGiven console.config.place { options := console.config.options }
          console.nextDevice console.host = .abandoned failure wire := opens
      refine Law.ObeyedAt.bind
        (fun stands => stands.abandoned (Session.of_openGiven_abandoned result) ?_) fun _ =>
          connectionFailed_stands failure
      have proper := stands.proper
      rw [opens] at proper
      cases proper with
      | released _ released => exact released
      | stranded reason => exact absurd reason (Session.not_strands shown _ _)
    | opened session =>
      -- Between the session and its listener the console does not stand.
      intro stands
      have given := stands.connectedTo (Bool.eq_false_iff.2 connected) opens
      exact (standing supply).trans (fun _ => given) (refresh_stands _) stands

end ThreadHost.Console
