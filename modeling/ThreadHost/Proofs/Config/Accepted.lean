import ThreadHost.Config.Checking
import ThreadHost.Proofs.Text.Readers
/-!
# Settings that are accepted

What is accepted holds a value of its kind within its bounds in every setting (`Declared`). The
other way round, a configuration within its bounds is accepted as it is from the table of its
sections (`check_table`), so there are no other bounds (`declared_iff`).
-/

namespace ThreadHost

/-- A setting holds a value of its kind, and the value has a property. -/
def Setting.Holds {α : Type} (setting : Setting α) (Property : α → Prop) : Prop :=
  ∃ value, setting = .proper value ∧ Property value

namespace Config

variable {α β : Type} {entries : Table} {name : String} {fallback : Setting α}
  {read : Datum → Except Complaint α} {Property : α → Prop}

/-- A checked function applied to a checked value is accepted if both are. -/
theorem Checked.apply_eq_valid_iff {function : Checked (α → β)} {argument : Checked α} {value : β} :
    function.apply argument = .valid value ↔
      ∃ change given, function = .valid change ∧ argument = .valid given ∧ change given = value := by
  cases function <;> cases argument <;> simp [Checked.apply]

/-- An accepted setting holds what its reader gives, or its default. -/
theorem holds_of_setting {found : Setting α}
    (accepted : setting entries name fallback read = .valid found) (usual : fallback.Holds Property)
    (reads : ∀ datum value, read datum = .ok value → Property value) : found.Holds Property := by
  unfold setting at accepted
  split at accepted
  · cases accepted
    exact usual
  · rename_i datum _
    split at accepted
    · rename_i value result
      cases accepted
      exact ⟨value, rfl, reads datum value result⟩
    · cases accepted

/-- A setting that is in the table as its reader takes it. -/
theorem setting_of_read {datum : Datum} {value : α} (there : entries.get? name = some datum)
    (reads : read datum = .ok value) :
    setting entries name fallback read = .valid (.proper value) := by
  simp [setting, there, reads]

end Config

/-- A simulated device within the bounds. -/
structure SimulationSettings.Declared (settings : SimulationSettings) : Prop where
  binary : settings.binary.Holds fun _ => True
  nodeId : settings.nodeId.Holds (1 ≤ ·)

/-- A serial port within the bounds. -/
structure SerialSettings.Declared (settings : SerialSettings) : Prop where
  port : settings.port.Holds fun _ => True
  baud : settings.baud.Holds fun _ => True

/-- A number of seconds above zero, as a double. -/
def Seconds.Positive (seconds : Seconds) : Prop := ∃ value, seconds = .real value ∧ 0 < value

/-- A session within the bounds. -/
structure SessionSettings.Declared (settings : SessionSettings) : Prop where
  transport : settings.transport.Holds fun _ => True
  pollInterval : settings.pollInterval.Holds Seconds.Positive
  waitTimeout : settings.waitTimeout.Holds Seconds.Positive
  resetPadding : settings.resetPadding.Holds (1000 ≤ ·)

/-- A network within the bounds. -/
structure NetworkSettings.Declared (settings : NetworkSettings) : Prop where
  networkName : settings.networkName.Holds fun _ => True
  channel : settings.channel.Holds fun value => 11 ≤ value ∧ value ≤ 26
  panId : settings.panId.Holds fun value => 0 ≤ value ∧ value ≤ 0xFFFE
  extendedPanId : settings.extendedPanId.Holds fun _ => True
  networkKey : settings.networkKey.Holds fun _ => True
  meshLocalPrefix : settings.meshLocalPrefix.Holds fun _ => True

/-- A log within the bounds. -/
structure LoggingSettings.Declared (settings : LoggingSettings) : Prop where
  level : settings.level.Holds fun _ => True
  directory : settings.directory.Holds fun _ => True

/-- A configuration within the bounds of all its settings. -/
structure Config.Declared (config : Config) : Prop where
  simulation : config.simulation.Declared
  serial : config.serial.Declared
  session : config.session.Declared
  network : config.network.Declared
  logging : config.logging.Declared

namespace Config

/-- A whole number that is read within bounds is within them. -/
theorem of_boundedInteger {least : Int} {greatest : Option Int} {datum : Datum} {value : Int}
    (reads : boundedInteger least greatest datum = .ok value) :
    least ≤ value ∧ ∀ most ∈ greatest, value ≤ most := by
  obtain ⟨number, -, reads⟩ := Text.bind_eq_ok_iff.1 reads
  cases greatest with
  | none =>
    by_cases below : number < least
    · simp only [if_pos below] at reads
      cases reads
    · simp only [if_neg below] at reads
      cases reads
      exact ⟨Int.not_lt.1 below, nofun⟩
  | some most =>
    by_cases above : most < number
    · simp only [if_pos above] at reads
      cases reads
    · by_cases below : number < least
      · simp only [if_neg above, if_pos below] at reads
        cases reads
      · simp only [if_neg above, if_neg below] at reads
        cases reads
        exact ⟨Int.not_lt.1 below, fun other same => Option.some.inj same ▸ Int.not_lt.1 above⟩

/-- A positive number of seconds is one as a double. -/
theorem of_positive {datum : Datum} {seconds : Seconds} (reads : positive datum = .ok seconds) :
    seconds.Positive := by
  obtain ⟨value, -, reads⟩ := Text.bind_eq_ok_iff.1 reads
  split at reads
  · rename_i above
    cases reads
    exact ⟨value, rfl, above⟩
  · cases reads

variable {simulation : SimulationSettings} {serial : SerialSettings} {session : SessionSettings}
  {network : NetworkSettings} {logging : LoggingSettings}

theorem declared_of_checkSimulation (accepted : checkSimulation entries = .valid simulation) :
    simulation.Declared := by
  obtain ⟨_, _, first, nodeId, rfl⟩ := Checked.apply_eq_valid_iff.1 accepted
  obtain ⟨_, _, ⟨⟩, binary, rfl⟩ := Checked.apply_eq_valid_iff.1 first
  exact {
    binary := holds_of_setting binary ⟨_, rfl, trivial⟩ fun _ _ _ => trivial
    nodeId := holds_of_setting nodeId ⟨_, rfl, by decide⟩ fun _ _ reads =>
      (of_boundedInteger reads).1 }

theorem declared_of_checkSerial (accepted : checkSerial entries = .valid serial) :
    serial.Declared := by
  obtain ⟨_, _, first, baud, rfl⟩ := Checked.apply_eq_valid_iff.1 accepted
  obtain ⟨_, _, ⟨⟩, port, rfl⟩ := Checked.apply_eq_valid_iff.1 first
  exact {
    port := holds_of_setting port ⟨_, rfl, trivial⟩ fun _ _ _ => trivial
    baud := holds_of_setting baud ⟨_, rfl, trivial⟩ fun _ _ _ => trivial }

theorem declared_of_checkSession (accepted : checkSession entries = .valid session) :
    session.Declared := by
  obtain ⟨_, _, third, padding, rfl⟩ := Checked.apply_eq_valid_iff.1 accepted
  obtain ⟨_, _, second, timeout, rfl⟩ := Checked.apply_eq_valid_iff.1 third
  obtain ⟨_, _, first, interval, rfl⟩ := Checked.apply_eq_valid_iff.1 second
  obtain ⟨_, _, ⟨⟩, transport, rfl⟩ := Checked.apply_eq_valid_iff.1 first
  exact {
    transport := holds_of_setting transport ⟨_, rfl, trivial⟩ fun _ _ _ => trivial
    pollInterval := holds_of_setting interval ⟨_, rfl, _, rfl, by decide +kernel⟩ fun _ _ =>
      of_positive
    waitTimeout := holds_of_setting timeout ⟨_, rfl, _, rfl, by decide +kernel⟩ fun _ _ =>
      of_positive
    resetPadding := holds_of_setting padding ⟨_, rfl, by decide⟩ fun _ _ reads =>
      (of_boundedInteger reads).1 }

theorem declared_of_checkNetwork (accepted : checkNetwork entries = .valid network) :
    network.Declared := by
  obtain ⟨_, _, fifth, meshLocalPrefix, rfl⟩ := Checked.apply_eq_valid_iff.1 accepted
  obtain ⟨_, _, fourth, networkKey, rfl⟩ := Checked.apply_eq_valid_iff.1 fifth
  obtain ⟨_, _, third, extendedPanId, rfl⟩ := Checked.apply_eq_valid_iff.1 fourth
  obtain ⟨_, _, second, panId, rfl⟩ := Checked.apply_eq_valid_iff.1 third
  obtain ⟨_, _, first, channel, rfl⟩ := Checked.apply_eq_valid_iff.1 second
  obtain ⟨_, _, ⟨⟩, networkName, rfl⟩ := Checked.apply_eq_valid_iff.1 first
  exact {
    networkName := holds_of_setting networkName ⟨_, rfl, trivial⟩ fun _ _ _ => trivial
    channel := holds_of_setting channel ⟨_, rfl, by decide⟩ fun _ _ reads =>
      (of_boundedInteger reads).imp_right fun below => below 26 rfl
    panId := holds_of_setting panId ⟨_, rfl, by decide⟩ fun _ _ reads =>
      (of_boundedInteger reads).imp_right fun below => below 0xFFFE rfl
    extendedPanId := holds_of_setting extendedPanId ⟨_, rfl, trivial⟩ fun _ _ _ => trivial
    networkKey := holds_of_setting networkKey ⟨_, rfl, trivial⟩ fun _ _ _ => trivial
    meshLocalPrefix := holds_of_setting meshLocalPrefix ⟨_, rfl, trivial⟩ fun _ _ _ => trivial }

theorem declared_of_checkLogging (accepted : checkLogging entries = .valid logging) :
    logging.Declared := by
  obtain ⟨_, _, first, directory, rfl⟩ := Checked.apply_eq_valid_iff.1 accepted
  obtain ⟨_, _, ⟨⟩, level, rfl⟩ := Checked.apply_eq_valid_iff.1 first
  exact {
    level := holds_of_setting level ⟨_, rfl, trivial⟩ fun _ _ _ => trivial
    directory := holds_of_setting directory ⟨_, rfl, trivial⟩ fun _ _ _ => trivial }

/-- An accepted section is checked, or the default; and the default of a section is what is checked
where nothing is set. -/
theorem of_part {γ : Type} {fallback found : γ} {check : Table → Checked γ}
    (accepted : part entries name fallback check = .valid found)
    (usual : check [] = .valid fallback) : ∃ settings, check settings = .valid found := by
  unfold part at accepted
  split at accepted
  · cases accepted
    exact ⟨[], usual⟩
  · rename_i settings _
    cases checked : check settings with
    | valid value =>
      rw [checked] at accepted
      cases accepted
      exact ⟨settings, checked⟩
    | invalid issues =>
      rw [checked] at accepted
      cases accepted
  · cases accepted

/-- What is accepted is within the bounds. -/
theorem declared_of_check {config : Config} (accepted : check entries = .valid config) :
    config.Declared := by
  obtain ⟨_, _, fourth, logging, rfl⟩ := Checked.apply_eq_valid_iff.1 accepted
  obtain ⟨_, _, third, network, rfl⟩ := Checked.apply_eq_valid_iff.1 fourth
  obtain ⟨_, _, second, session, rfl⟩ := Checked.apply_eq_valid_iff.1 third
  obtain ⟨_, _, first, serial, rfl⟩ := Checked.apply_eq_valid_iff.1 second
  obtain ⟨_, _, ⟨⟩, simulation, rfl⟩ := Checked.apply_eq_valid_iff.1 first
  obtain ⟨_, simulation⟩ := of_part simulation rfl
  obtain ⟨_, serial⟩ := of_part serial rfl
  obtain ⟨_, session⟩ := of_part session rfl
  obtain ⟨_, network⟩ := of_part network rfl
  obtain ⟨_, logging⟩ := of_part logging rfl
  exact {
    simulation := declared_of_checkSimulation simulation
    serial := declared_of_checkSerial serial
    session := declared_of_checkSession session
    network := declared_of_checkNetwork network
    logging := declared_of_checkLogging logging }

/-! ## The bounds are all there is -/

/-- A whole number within the bounds is read as it is. -/
theorem boundedInteger_whole {least value : Int} {greatest : Option Int} (atLeast : least ≤ value)
    (atMost : ∀ most ∈ greatest, value ≤ most) :
    boundedInteger least greatest (.whole value) = .ok value := by
  have notBelow : ¬value < least := Int.not_lt.2 atLeast
  cases greatest with
  | none => simp [boundedInteger, integer, notBelow, bind, Except.bind, pure, Except.pure]
  | some most =>
    have notAbove : ¬most < value := Int.not_lt.2 (atMost most rfl)
    simp [boundedInteger, integer, notBelow, notAbove, bind, Except.bind, pure, Except.pure]

/-- A double above zero is read as it is. -/
theorem positive_real {value : Float} (above : 0 < value) :
    positive (.real value) = .ok (.real value) := by
  simp [positive, real, above, bind, Except.bind, pure, Except.pure]

theorem transport_name (link : Transport) : transport (.text link.name) = .ok link := by
  cases link <;> rfl

theorem checkSimulation_of_declared (declared : simulation.Declared) :
    checkSimulation [("binary", simulation.binary.datum), ("node_id", simulation.nodeId.datum)] =
      .valid simulation := by
  obtain ⟨_, _⟩ := simulation
  obtain ⟨⟨binary, rfl, -⟩, nodeId, rfl, least⟩ := declared
  refine Checked.apply_eq_valid_iff.2
    ⟨_, _, ?_, setting_of_read (by rfl) (boundedInteger_whole least nofun), rfl⟩
  exact Checked.apply_eq_valid_iff.2 ⟨_, _, rfl, setting_of_read (by rfl) (by rfl), rfl⟩

theorem checkSerial_of_declared (declared : serial.Declared) :
    checkSerial [("port", serial.port.datum), ("baud", serial.baud.datum)] = .valid serial := by
  obtain ⟨_, _⟩ := serial
  obtain ⟨⟨port, rfl, -⟩, baud, rfl, -⟩ := declared
  unfold checkSerial
  refine Checked.apply_eq_valid_iff.2 ⟨_, _, ?_, setting_of_read (by rfl) (by rfl), rfl⟩
  exact Checked.apply_eq_valid_iff.2 ⟨_, _, rfl, setting_of_read (by rfl) (by rfl), rfl⟩

theorem checkSession_of_declared (declared : session.Declared) :
    checkSession [
      ("transport", session.transport.datum), ("poll_interval_s", session.pollInterval.datum),
      ("wait_timeout_s", session.waitTimeout.datum),
      ("factory_reset_padding_lines", session.resetPadding.datum)] = .valid session := by
  obtain ⟨_, _, _, _⟩ := session
  obtain ⟨⟨link, rfl, -⟩, ⟨_, rfl, interval, rfl, paces⟩, ⟨_, rfl, timeout, rfl, waits⟩, padding, rfl,
    least⟩ := declared
  refine Checked.apply_eq_valid_iff.2
    ⟨_, _, ?_, setting_of_read (by rfl) (boundedInteger_whole least nofun), rfl⟩
  refine Checked.apply_eq_valid_iff.2 ⟨_, _, ?_, setting_of_read (by rfl) (positive_real waits), rfl⟩
  refine Checked.apply_eq_valid_iff.2 ⟨_, _, ?_, setting_of_read (by rfl) (positive_real paces), rfl⟩
  exact Checked.apply_eq_valid_iff.2 ⟨_, _, rfl, setting_of_read (by rfl) (transport_name link), rfl⟩

theorem checkNetwork_of_declared (declared : network.Declared) :
    checkNetwork [
      ("network_name", network.networkName.datum), ("channel", network.channel.datum),
      ("pan_id", network.panId.datum), ("extended_pan_id", network.extendedPanId.datum),
      ("network_key", network.networkKey.datum),
      ("mesh_local_prefix", network.meshLocalPrefix.datum)] = .valid network := by
  obtain ⟨_, _, _, _, _, _⟩ := network
  obtain ⟨⟨networkName, rfl, -⟩, ⟨channel, rfl, leastChannel, mostChannel⟩,
    ⟨panId, rfl, leastId, mostId⟩, ⟨extendedPanId, rfl, -⟩, ⟨networkKey, rfl, -⟩,
    meshLocalPrefix, rfl, -⟩ := declared
  refine Checked.apply_eq_valid_iff.2 ⟨_, _, ?_, setting_of_read (by rfl) (by rfl), rfl⟩
  refine Checked.apply_eq_valid_iff.2 ⟨_, _, ?_, setting_of_read (by rfl) (by rfl), rfl⟩
  refine Checked.apply_eq_valid_iff.2 ⟨_, _, ?_, setting_of_read (by rfl) (by rfl), rfl⟩
  refine Checked.apply_eq_valid_iff.2 ⟨_, _, ?_, setting_of_read (by rfl)
    (boundedInteger_whole leastId fun _ same => Option.some.inj same ▸ mostId), rfl⟩
  refine Checked.apply_eq_valid_iff.2 ⟨_, _, ?_, setting_of_read (by rfl)
    (boundedInteger_whole leastChannel fun _ same => Option.some.inj same ▸ mostChannel), rfl⟩
  exact Checked.apply_eq_valid_iff.2 ⟨_, _, rfl, setting_of_read (by rfl) (by rfl), rfl⟩

theorem checkLogging_of_declared (declared : logging.Declared) :
    checkLogging [("level", logging.level.datum), ("log_dir", logging.directory.datum)] =
      .valid logging := by
  obtain ⟨_, _⟩ := logging
  obtain ⟨⟨level, rfl, -⟩, directory, rfl, -⟩ := declared
  unfold checkLogging
  refine Checked.apply_eq_valid_iff.2 ⟨_, _, ?_, setting_of_read (by rfl) (by rfl), rfl⟩
  exact Checked.apply_eq_valid_iff.2 ⟨_, _, rfl, setting_of_read (by rfl) (by rfl), rfl⟩

/-- A section that is in the table and is accepted there. -/
theorem part_of_check {γ : Type} {fallback value : γ} {check : Table → Checked γ} {settings : Table}
    (there : entries.get? name = some (.table settings)) (accepted : check settings = .valid value) :
    part entries name fallback check = .valid value := by
  simp [part, there, accepted, Checked.below]

/-- A configuration within its bounds is accepted as it is. -/
theorem check_table {config : Config} (declared : config.Declared) :
    check config.table = .valid config := by
  obtain ⟨_, _, _, _, _⟩ := config
  unfold check
  refine Checked.apply_eq_valid_iff.2
    ⟨_, _, ?_, part_of_check (by rfl) (checkLogging_of_declared declared.logging), rfl⟩
  refine Checked.apply_eq_valid_iff.2
    ⟨_, _, ?_, part_of_check (by rfl) (checkNetwork_of_declared declared.network), rfl⟩
  refine Checked.apply_eq_valid_iff.2
    ⟨_, _, ?_, part_of_check (by rfl) (checkSession_of_declared declared.session), rfl⟩
  refine Checked.apply_eq_valid_iff.2
    ⟨_, _, ?_, part_of_check (by rfl) (checkSerial_of_declared declared.serial), rfl⟩
  exact Checked.apply_eq_valid_iff.2
    ⟨_, _, rfl, part_of_check (by rfl) (checkSimulation_of_declared declared.simulation), rfl⟩

/-- So the bounds say exactly what is accepted. -/
theorem declared_iff {config : Config} :
    config.Declared ↔ ∃ entries, check entries = .valid config :=
  ⟨fun declared => ⟨config.table, check_table declared⟩, fun ⟨_, accepted⟩ =>
    declared_of_check accepted⟩

end Config

end ThreadHost
