import ThreadHost.Proofs.Config.Saved
import ThreadHost.Proofs.Dataset.Created
import ThreadHost.Proofs.Scenario.Formed
import ThreadHost.Proofs.Session.Pauses
import ThreadHost.Proofs.Session.Willing
/-!
# Accepted settings in use

What is accepted is good for those who use it. A device that opens gives a session, whose waits make
pauses of the interval that was set at most, and whose resets write the blank lines that were set;
the network is a dataset that shows the settings, or it is a rejected value (`inUse_of_check`). One
number has no upper bound where it is accepted: blank lines may be too many to be written, and a
reset then fails behind its command (`resetPadding_not_always_written`).
-/

namespace ThreadHost

/-! ## The network -/

namespace NetworkSettings

/-- The parameters that settings stand for. -/
structure StandFor (network : NetworkSettings) (parameters : Dataset.Parameters) : Prop where
  networkName : network.networkName = .proper parameters.networkName
  channel : network.channel = .proper parameters.channel
  panId : network.panId = .proper parameters.panId
  extendedPanId : bytesOf network.extendedPanId = .ok parameters.extendedPanId
  networkKey : bytesOf network.networkKey = .ok parameters.networkKey
  meshLocalPrefix : network.meshLocalPrefix = .proper parameters.meshLocalPrefix

variable {network : NetworkSettings} {parameters : Dataset.Parameters}

/-- The dataset of settings is the one that is created from their parameters. -/
theorem toDataset_eq_create (standFor : network.StandFor parameters) :
    network.toDataset (.proper parameters.activeTimestamp) = Dataset.create parameters := by
  obtain ⟨name, channel, panId, extendedPanId, networkKey, mesh⟩ := standFor
  rw [toDataset, extendedPanId, networkKey, name, channel, panId, mesh]
  rfl

/-- Settings of text have bytes, or are a rejected value. -/
theorem bytesOf_cases {setting : Setting String} {Property : String → Prop}
    (holds : setting.Holds Property) :
    (∃ bytes, bytesOf setting = .ok bytes) ∨
      ∃ fault, bytesOf setting = .error fault ∧ (Fault.dataset fault).isRejection = true := by
  obtain ⟨text, rfl, -⟩ := holds
  have same : bytesOf (.proper text) = hexBytes text := rfl
  rw [same, hexBytes]
  cases Text.Hex.decode text with
  | error position => exact .inr ⟨_, rfl, rfl⟩
  | ok bytes => exact .inl ⟨bytes, rfl⟩

/-- A whole number between bounds that are those of some bits fits them. -/
theorem misfit?_eq_none {bits : Nat} {value most : Int} (atLeast : 0 ≤ value)
    (atMost : value ≤ most) (within : most < (Nat.pow 2 bits : Nat)) :
    Bytes.misfit? bits value = none := by
  have fits : ¬Nat.pow 2 bits ≤ value.toNat := by omega
  rw [Bytes.misfit?, if_neg (Int.not_lt.2 atLeast), if_neg fits]

/-- Settings within their bounds stand for parameters whose numbers fit their fields, or a text among
them is a rejected value. -/
theorem standFor_cases (declared : network.Declared) :
    (∃ parameters, network.StandFor parameters ∧ parameters.misfit? = none ∧
      parameters.activeTimestamp = Config.activeTimestamp) ∨
    ∃ fault, (∀ timestamp, network.toDataset timestamp = .error fault) ∧
      (Fault.dataset fault).isRejection = true := by
  rcases bytesOf_cases declared.extendedPanId with ⟨panIdBytes, extended⟩ | ⟨fault, refused, told⟩
  case inr => exact .inr ⟨fault, fun timestamp => by rw [toDataset, refused]; rfl, told⟩
  rcases bytesOf_cases declared.networkKey with ⟨networkKey, key⟩ | ⟨fault, refused, told⟩
  case inr => exact .inr ⟨fault, fun timestamp => by rw [toDataset, extended, refused]; rfl, told⟩
  obtain ⟨networkName, name, -⟩ := declared.networkName
  obtain ⟨channel, tuned, leastChannel, mostChannel⟩ := declared.channel
  obtain ⟨panId, named, leastId, mostId⟩ := declared.panId
  obtain ⟨meshLocalPrefix, mesh, -⟩ := declared.meshLocalPrefix
  have timestamp : Bytes.misfit? 48 Config.activeTimestamp = none := by decide
  have channelFits : Bytes.misfit? 16 channel = none :=
    misfit?_eq_none (by omega) mostChannel (by decide)
  have panIdFits : Bytes.misfit? 16 panId = none := misfit?_eq_none leastId mostId (by decide)
  refine .inl ⟨⟨networkName, channel, panId, panIdBytes, networkKey, meshLocalPrefix,
    Config.activeTimestamp⟩, ⟨name, tuned, named, extended, key, mesh⟩, ?_, rfl⟩
  rw [Dataset.Parameters.misfit?, timestamp, channelFits, panIdFits]
  rfl

/-- Settings within their bounds give a dataset that shows the parameters they stand for, or are a
rejected value. -/
theorem toDataset_of_declared (declared : network.Declared) :
    (∃ parameters dataset, network.StandFor parameters ∧
      network.toDataset (.proper Config.activeTimestamp) = .ok dataset ∧
      Dataset.Shows parameters dataset) ∨
    ∃ fault, network.toDataset (.proper Config.activeTimestamp) = .error fault ∧
      (Fault.dataset fault).isRejection = true := by
  rcases standFor_cases declared with ⟨parameters, standFor, fits, same⟩ | ⟨fault, refused, told⟩
  · have created := toDataset_eq_create standFor
    rw [same] at created
    rcases Dataset.create_cases parameters with ⟨-, fault, refused, told⟩ | ⟨sized, -⟩
    · exact .inr ⟨fault, created.trans refused, told⟩
    · obtain ⟨dataset, ok⟩ := (Dataset.create_of_sized sized).2 fits
      exact .inl ⟨parameters, dataset, standFor, created.trans ok, Dataset.shows_of_create ok⟩
  · exact .inr ⟨fault, refused _, told⟩

end NetworkSettings

/-! ## The session -/

/-- Streams whose input is open and takes everything. -/
structure Streams.TakesAll (streams : Streams) : Prop where
  inputOpen : streams.inputClosed = false
  writes : ∀ number, streams.writeFailure number = none
  flushes : ∀ number, streams.flushFailure number = none

namespace Session

variable {session : Session} {platform : Platform} {count : Int} {interval : Float}

/-- What a session does that follows its settings: it waits with pauses of the interval, and resets
with as many blank lines as were set, behind the command. Lines that cannot be written fail. -/
structure Follows (platform : Platform) (count : Int) (interval : Float) (session : Session) :
    Prop where
  pacing : session.pacing = (clock, interval)
  pauses : ∀ states timeout, ∃ fresh,
    ((waitForState states timeout).perform session).2.host.pauses =
      session.host.pauses ++ fresh ∧ ∀ length ∈ fresh, 0 < length ∧ length ≤ interval
  resets : ∀ after, factoryReset.perform session = (.ok (), after) →
    WasReset count.toNat session after
  reset_taken : session.Calm → session.streams.TakesAll → factoryReset.perform session =
    match writable platform count.toNat with
    | .ok lines =>
      (.ok (), (session.sent resetCommand).written (List.replicate lines Line.feed))
    | .error fault => (.error (.plain fault), session.sent resetCommand)

/-- An input that takes everything takes a reset with its blank lines, if there are such. -/
theorem factoryReset_taken (calm : session.Calm) (takes : session.streams.TakesAll) :
    factoryReset.perform session =
      match session.padding with
      | .ok lines =>
        (.ok (), (session.sent resetCommand).written (List.replicate lines Line.feed))
      | .error fault => (.error (.plain fault), session.sent resetCommand) := by
  have writes (session : Session) (takes : session.streams.TakesAll) :
      session.streams.writeFault? = none := by
    simp [Streams.writeFault?, takes.inputOpen, takes.writes]
  have sends : (send resetCommand).perform session = (.ok (), session.sent resetCommand) := by
    have flushes : (session.written (commandBytes resetCommand)).streams.flushFault? = none :=
      takes.flushes _
    rw [perform_send (by decide) (Audience.Calm.hears calm _), writes session takes]
    simp only [flushes]
  have still : (session.sent resetCommand).streams.TakesAll :=
    ⟨takes.inputOpen, takes.writes, takes.flushes⟩
  have same : (session.sent resetCommand).padding = session.padding := rfl
  unfold factoryReset
  rw [Act.perform_bind, sends]
  simp only [Act.perform_bind, Act.perform_get, same]
  cases session.padding with
  | error fault => rfl
  | ok lines =>
    have flushes : ((session.sent resetCommand).written
        (List.replicate lines Line.feed)).streams.flushFault? = none := takes.flushes _
    simp only [Act.ofFault, Act.perform_pure]
    rw [perform_writeFor, writes _ still]
    simp only [flushes]

/-- A session with an interval and with blank lines that were counted follows its settings. -/
theorem follows_of_settings (paced : session.pollInterval = .ok interval) (positive : 0 < interval)
    (padded : session.padding = writable platform count.toNat) :
    session.Follows platform count interval where
  pacing := by rw [Session.pacing, paced]
  pauses := waitForState_pauses paced positive
  resets after answered := by
    obtain ⟨lines, taken, reset⟩ := factoryReset_answered answered
    obtain rfl := of_writable_ok (padded.symm.trans taken)
    exact reset
  reset_taken calm takes := by rw [factoryReset_taken calm takes, padded]

/-- Every operation keeps interval and blank lines, and so does a run. -/
theorem settings_afterRun (operations : List Operation) (session : Session) :
    (afterRun operations session).pollInterval = session.pollInterval ∧
      (afterRun operations session).padding = session.padding := by
  have keeps (operation : Operation) (before : Session) :
      ((operation.step before).after.pollInterval, (operation.step before).after.padding) =
        (before.pollInterval, before.padding) :=
    perform_keeping (fun session => (session.pollInterval, session.padding))
      (fun _ _ _ _ _ _ => rfl) operation (fun _ _ _ => rfl) before
  have kept : ((afterRun operations session).pollInterval, (afterRun operations session).padding) =
      (session.pollInterval, session.padding) :=
    afterRun_keeps (fun operation before same => (keeps operation before).trans same) operations rfl
  exact Prod.mk.inj kept

end Session

namespace Config

open Session (Follows afterRun)

variable {entries : Table} {config : Config}

/-- Whether numbers can be shown is seen from the settings one by one. -/
theorem printable_of_all
    (all : (config.data.all fun
      | .whole number => decide (Toml.Printable number)
      | _ => true) = true) : config.Printable := fun _ among =>
  of_decide_eq_true (List.all_eq_true.1 all _ among)

/-- A number that can be written can be shown. -/
theorem isShowable_of_printable {setting : Setting Int} {number : Int}
    (holds : setting = .proper number) (printable : Toml.Printable number) :
    setting.isShowable = true := by
  have short : number.natAbs < 10 ^ Text.WholeNumber.mostDigits :=
    (Nat.length_toDigits_le_iff (by decide) (by decide)).1 printable
  have same : setting.isShowable = (Datum.whole number).isShowable := by rw [holds]; rfl
  rw [same, Datum.isShowable_whole_iff]
  -- The power is a number of thousands of digits, and must not be worked out.
  generalize Text.WholeNumber.mostDigits = digits at short ⊢
  exact short

/-- The place of accepted settings can be shown, if their numbers can. -/
theorem isShowable_place (declared : config.Declared) (printable : config.Printable) :
    config.place.isShowable = true := by
  obtain ⟨node, isNode, -⟩ := declared.simulation.nodeId
  obtain ⟨baud, isBaud, -⟩ := declared.serial.baud
  obtain ⟨program, isProgram, -⟩ := declared.simulation.binary
  obtain ⟨port, isPort, -⟩ := declared.serial.port
  have nodeShown := isShowable_of_printable isNode
    (printable node (by simp [data, sections, isNode, Setting.datum, Settable.toDatum]))
  have baudShown := isShowable_of_printable isBaud
    (printable baud (by simp [data, sections, isBaud, Setting.datum, Settable.toDatum]))
  unfold place
  split
  · simp only [Session.serial, Place.isShowable, baudShown, isPort, Bool.and_true]
    rfl
  · simp only [Session.simulation, Place.isShowable, nodeShown, isProgram, Bool.and_true]
    rfl

/-- A device that opens with accepted settings gives a session that follows them over every run,
whoever observes it. -/
theorem openSession_follows (declared : config.Declared) (printable : config.Printable)
    {device : Device} (opens : device.openFailure = none)
    (discards : device.port.discardFailure = none) (host : Host) :
    ∃ session count interval, config.openSession device host = .opened session ∧
      config.session.resetPadding = .proper count ∧ 1000 ≤ count ∧
      config.session.pollInterval = .proper (.real interval) ∧ 0 < interval ∧
      ∀ observers manner operations, Follows host.platform count interval
        (afterRun operations { session with observers, manner }) := by
  obtain ⟨count, lines, least, taken⟩ := Session.exists_writable declared host.platform
  obtain ⟨interval, pause, paces, positive⟩ := Session.exists_intervalOf declared
  have shown := isShowable_place declared printable
  have opened := Session.openSession_opened (Session.refusal?_eq_none declared shown) shown taken
    opens discards
  refine ⟨_, count, interval, opened, lines, least, pause, positive,
    fun observers manner operations => ?_⟩
  obtain ⟨sameInterval, samePadding⟩ := Session.settings_afterRun operations {
    config.place.found device host with
    pollInterval := Session.intervalOf config.session.pollInterval
    padding := Session.writable host.platform count.toNat
    observers
    manner }
  exact Session.follows_of_settings (sameInterval.trans paces) positive samePadding

/-- What is accepted is good for those who use it, if its numbers can be shown. Where the device
opens and its pending input can be discarded, there is a session that follows the settings over
every run; and the network is a dataset that shows them, or a rejected value. -/
theorem inUse_of_check (entries : Table) (config : Config)
    (accepted : check entries = .valid config) (printable : config.Printable) (device : Device)
    (opens : device.openFailure = none) (discards : device.port.discardFailure = none)
    (host : Host) :
    (∃ session count interval, config.openSession device host = .opened session ∧
      config.session.resetPadding = .proper count ∧ 1000 ≤ count ∧
      config.session.pollInterval = .proper (.real interval) ∧ 0 < interval ∧
      ∀ observers manner operations, Follows host.platform count interval
        (afterRun operations { session with observers, manner })) ∧
    ((∃ parameters dataset, config.network.StandFor parameters ∧ config.dataset = .ok dataset ∧
        Dataset.Shows parameters dataset) ∨
      ∃ fault, config.dataset = .error fault ∧ (Fault.dataset fault).isRejection = true) := by
  have declared := declared_of_check accepted
  exact ⟨openSession_follows declared printable opens discards host,
    NetworkSettings.toDataset_of_declared declared.network⟩

/-- A device that sends nothing and takes everything. -/
def silentDevice : Device := { streams := { unread := [] } }

/-- Settings at the ends of their bounds, for a board on a serial port. -/
def outermostTable : Table := [
  ("session", .table [
    ("transport", .text "serial"), ("poll_interval_s", .real 0.25),
    ("factory_reset_padding_lines", .whole 1000)]),
  ("network", .table [
    ("network_name", .text "Fädnetz-Straße"), ("channel", .whole 26), ("pan_id", .whole 65534)])]

/-- The configuration of these settings. -/
def outermost : Config where
  session := { transport := .proper .serial, pollInterval := .proper (.real 0.25) }
  network := {
    networkName := .proper "Fädnetz-Straße", channel := .proper 26, panId := .proper 65534 }

theorem inUse_of_check_outermost :
    check outermostTable = .valid outermost ∧ outermost.Printable ∧
    outermost.dataset.toOption.isSome = true ∧
    (∃ session count interval, outermost.openSession silentDevice {} = .opened session ∧
      outermost.session.resetPadding = .proper count ∧ 1000 ≤ count ∧
      outermost.session.pollInterval = .proper (.real interval) ∧ 0 < interval ∧
      ∀ observers manner operations, Follows {} count interval
        (afterRun operations { session with observers, manner })) ∧
    ((∃ parameters dataset, outermost.network.StandFor parameters ∧
        outermost.dataset = .ok dataset ∧ Dataset.Shows parameters dataset) ∨
      ∃ fault, outermost.dataset = .error fault ∧ (Fault.dataset fault).isRejection = true) := by
  have accepted : check outermostTable = .valid outermost := by rfl
  have printable : outermost.Printable := printable_of_all (by decide +kernel)
  exact ⟨accepted, printable, by decide +kernel,
    inUse_of_check outermostTable outermost accepted printable silentDevice rfl rfl {}⟩

/-- Settings with more blank lines than can be counted. -/
def uncountableTable : Table :=
  [("session", .table [("factory_reset_padding_lines", .whole 9223372036854775808)])]

/-- The configuration of these settings. -/
def uncountable : Config where
  session := { resetPadding := .proper 9223372036854775808 }

/-- So many blank lines are accepted, and the session is opened; but there is no reset that writes
them. -/
theorem resetPadding_not_always_written :
    ¬∀ (entries : Table) (config : Config) (count : Int) (device : Device) (host : Host),
      check entries = .valid config → config.Printable →
      config.session.resetPadding = .proper count → device.openFailure = none →
      device.port.discardFailure = none → device.streams.Steady →
      ∃ session after, config.openSession device host = .opened session ∧
        Session.factoryReset.perform session = (.ok (), after) ∧
        Session.WasReset count.toNat session after := by
  intro always
  have accepted : check uncountableTable = .valid uncountable := by rfl
  have printable : uncountable.Printable := printable_of_all (by decide +kernel)
  have declared := declared_of_check accepted
  have shown := isShowable_place declared printable
  have unwritable : Session.paddingOf {} uncountable.session.resetPadding =
      .ok (.error (.misuse .aboveLengths)) := by rfl
  have steady : silentDevice.streams.Steady := ⟨rfl, rfl, fun _ => rfl, fun _ => rfl, fun _ => rfl⟩
  obtain ⟨session, after, opened, answered, -⟩ :=
    always uncountableTable uncountable _ silentDevice {} accepted printable rfl rfl rfl steady
  have opens : silentDevice.openFailure = none := rfl
  have known := @Session.openSession_opened silentDevice _ uncountable
    (Session.refusal?_eq_none declared shown) shown {} unwritable opens rfl
  obtain ⟨lines, padding, -⟩ := Session.factoryReset_answered answered
  cases known.symm.trans opened
  cases padding

end Config

end ThreadHost
