import ThreadHost.Config.File
import ThreadHost.Proofs.Config.Accepted
import ThreadHost.Proofs.FilePath.Entry
import ThreadHost.Proofs.Text.Utf8
import ThreadHost.Proofs.Toml.Document
/-!
# Saved settings load back

A configuration within its bounds is a table of legible sections. It is read back from its text, its
text is read back from its bytes, and these are found where they were written.
-/

namespace ThreadHost.Config

variable {config : Config}

/-! ## The settings are legible -/

/-- The whole numbers of a configuration are not longer than what is read. -/
def Printable (config : Config) : Prop :=
  ∀ number, .whole number ∈ config.data → Toml.Printable number

theorem legible_text {setting : Setting String} {Property : String → Prop}
    (holds : setting.Holds Property) : Toml.Legible setting.datum := by
  obtain ⟨value, rfl, -⟩ := holds
  trivial

theorem legible_whole {setting : Setting Int} {Property : Int → Prop}
    (holds : setting.Holds Property)
    (printable : ∀ number, setting.datum = .whole number → Toml.Printable number) :
    Toml.Legible setting.datum := by
  obtain ⟨value, rfl, -⟩ := holds
  exact printable value rfl

theorem legible_seconds {setting : Setting Seconds} (holds : setting.Holds Seconds.Positive) :
    Toml.Legible setting.datum := by
  obtain ⟨_, rfl, value, rfl, positive⟩ := holds
  exact positive

theorem legible_transport {setting : Setting Transport} {Property : Transport → Prop}
    (holds : setting.Holds Property) : Toml.Legible setting.datum := by
  obtain ⟨value, rfl, -⟩ := holds
  trivial

/-- The settings of a configuration within its bounds are legible. -/
theorem legible_of_declared (declared : config.Declared) (printable : config.Printable) :
    ∀ part ∈ config.sections, ∀ entry ∈ part.2, Toml.Legible entry.2 := by
  obtain ⟨simulation, serial, session, network, logging⟩ := declared
  have whole : ∀ {setting : Setting Int} {Property : Int → Prop}, setting.Holds Property →
      setting.datum ∈ config.data → Toml.Legible setting.datum := fun holds among =>
    legible_whole holds fun number same => printable number (same ▸ among)
  simp only [sections, List.forall_mem_cons, List.not_mem_nil, false_implies, implies_true,
    and_true]
  refine ⟨⟨legible_text simulation.binary, whole simulation.nodeId ?_⟩,
    ⟨legible_text serial.port, whole serial.baud ?_⟩,
    ⟨legible_transport session.transport, legible_seconds session.pollInterval,
      legible_seconds session.waitTimeout, whole session.resetPadding ?_⟩,
    ⟨legible_text network.networkName, whole network.channel ?_, whole network.panId ?_,
      legible_text network.extendedPanId, legible_text network.networkKey,
      legible_text network.meshLocalPrefix⟩,
    legible_text logging.level, legible_text logging.directory⟩
  all_goals simp [data, sections]

theorem names_bare (config : Config) : (∀ part ∈ config.sections, Toml.BareKey part.1) ∧
    ∀ part ∈ config.sections, ∀ entry ∈ part.2, Toml.BareKey entry.1 := by
  simp only [sections, List.forall_mem_cons, List.not_mem_nil, false_implies, implies_true,
    and_true]
  decide

theorem names_distinct (config : Config) : (config.sections.map Prod.fst).Nodup ∧
    ∀ part ∈ config.sections, (part.2.map Prod.fst).Nodup := by
  simp only [sections, List.forall_mem_cons, List.not_mem_nil, false_implies, implies_true,
    and_true, List.map_cons, List.map_nil]
  decide

/-- A configuration within its bounds is a table of legible sections. -/
theorem legibleSections_sections (declared : config.Declared) (printable : config.Printable) :
    Toml.LegibleSections config.sections where
  bare := (names_bare config).1
  distinct := (names_distinct config).1
  legible part among := {
    bare := (names_bare config).2 part among
    distinct := (names_distinct config).2 part among
    legible := legible_of_declared declared printable part among }

/-! ## Saving and loading -/

/-- The bytes of a saved configuration are read as it. -/
theorem ofBytes_save (declared : config.Declared) (printable : config.Printable) :
    ofBytes config.save = .ok config := by
  have read : Toml.parse (Toml.write config.table).text.toList = .ok config.table :=
    Toml.parse_write (legibleSections_sections declared printable)
  simp only [ofBytes, save, Text.Utf8.decode?_encode, written, read, check_table declared]

/-- A configuration within its bounds has no setting that cannot be written. -/
theorem saveFault?_of_declared (declared : config.Declared) (printable : config.Printable) :
    config.saveFault? = none := by
  have written : (Toml.write config.table).missing = none :=
    congrArg Toml.Written.missing (Toml.write_tableOf (legibleSections_sections declared printable))
  rw [saveFault?, Config.written, written]
  rfl

variable {files made : Files} {path place : FilePath}

/-- A saved configuration loads back, from every path where the directories above it can be made and
a file can be written. What is left depends on no file that was there before. -/
theorem loadAt_saveAt (declared : config.Declared) (printable : config.Printable)
    (parents : files.makeDirectories path.parent = (made, none))
    (writable : made.placeOf path = .ok place) :
    ∃ saved, saveAt files path config = ⟨saved, none⟩ ∧ loadAt saved path = .ok config ∧
      ∀ before, saveAt (files.put place (.file before)) path config = ⟨saved, none⟩ := by
  have complete := saveFault?_of_declared declared printable
  have noNull := (Files.placeOf_eq_ok_iff.1 writable).1
  have parentsAgain := fun before => @Files.makeDirectories_put files made path.parent place
    (.file before) parents (Files.ne_directory_of_placeOf writable)
  refine ⟨made.put place (.file config.save), ?_, ?_, fun before => ?_⟩
  · rw [saveAt, parents]
    simp only [writable, complete, Option.map_none]
  · rw [loadAt, noNull]
    simp only [Files.follow_put writable, load, ofBytes_save declared printable, Bool.false_eq_true,
      if_false]
  · rw [saveAt, parentsAgain before]
    simp only [Files.placeOf_put writable, complete, Option.map_none, Files.put_put]

/-- Quotes, a backslash, controls and other letters, a number of thirty digits, and infinity. -/
def unusual : Config where
  simulation := {
    binary := .proper "\"C:\\ot\" \r\n\x00\x7fé𝄞"
    nodeId := .proper 123456789012345678901234567890 }
  session := {
    transport := .proper .serial
    waitTimeout := .proper (.real (Float.ofBits 0x7FF0000000000000)) }
  network := { networkName := .proper "" }

theorem loadAt_saveAt_unusual :
    let files : Files := fun path => if path.parts = [] then .directory else .absent
    let path : FilePath := ⟨"/", ["a", "b", "config.toml"]⟩
    ∃ saved, saveAt files path unusual = ⟨saved, none⟩ ∧ loadAt saved path = .ok unusual ∧
      ∀ before, saveAt (files.put path (.file before)) path unusual = ⟨saved, none⟩ := by
  intro files path
  have declared : unusual.Declared := {
    simulation := ⟨⟨_, rfl, trivial⟩, _, rfl, by decide +kernel⟩
    serial := ⟨⟨_, rfl, trivial⟩, _, rfl, trivial⟩
    session := ⟨⟨_, rfl, trivial⟩, ⟨_, rfl, _, rfl, by decide +kernel⟩,
      ⟨_, rfl, _, rfl, by decide +kernel⟩, _, rfl, by decide +kernel⟩
    network := ⟨⟨_, rfl, trivial⟩, ⟨_, rfl, by decide +kernel⟩, ⟨_, rfl, by decide +kernel⟩,
      ⟨_, rfl, trivial⟩, ⟨_, rfl, trivial⟩, _, rfl, trivial⟩
    logging := ⟨⟨_, rfl, trivial⟩, _, rfl, trivial⟩ }
  have printable : unusual.Printable := by
    intro number among
    simp only [unusual, data, sections, Setting.datum, Settable.toDatum, List.flatMap_cons,
      List.map_cons, List.map_nil, List.flatMap_nil, List.append_nil, List.cons_append,
      List.nil_append, List.mem_cons, reduceCtorEq, Datum.whole.injEq, List.not_mem_nil, or_self,
      or_false, false_or] at among
    rcases among with rfl | rfl | rfl | rfl | rfl <;> decide +kernel
  have parents : (files.makeDirectories path.parent).2 = none := by decide +kernel
  exact loadAt_saveAt declared printable (Prod.ext rfl parents) (by decide +kernel)

end ThreadHost.Config
