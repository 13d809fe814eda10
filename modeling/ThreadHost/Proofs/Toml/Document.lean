import ThreadHost.Proofs.Toml.Literal
/-!
# Settings are read back

Sections of settings are read back from what is written of them: line by line, for each line is a
statement of its own, and what has been read of a document grows by what the line tells.
-/

namespace ThreadHost.Toml

variable {name : String} {rest : List Char}

/-! ## Keys -/

/-- A name that needs no quotes as a key. -/
def BareKey (name : String) : Prop := name ≠ "" ∧ name.toList.all isBare = true

instance : Decidable (BareKey name) := inferInstanceAs (Decidable (_ ∧ _))

theorem BareKey.isBare (bare : BareKey name) : ∀ character ∈ name.toList, isBare character = true :=
  List.all_eq_true.1 bare.2

theorem writeKey_of_bareKey (bare : BareKey name) : writeKey name = name := by
  rw [writeKey, if_pos (Bool.and_eq_true_iff.2 ⟨decide_eq_true bare.1, bare.2⟩)]

/-- A bare key begins with one of its characters. -/
theorem BareKey.exists_cons (bare : BareKey name) :
    ∃ first more, name.toList = first :: more ∧ Toml.isBare first = true := by
  obtain ⟨first, more, shape⟩ := List.exists_cons_of_ne_nil fun none =>
    bare.1 (String.toList_eq_nil_iff.1 none)
  exact ⟨first, more, shape, bare.isBare first (shape ▸ List.mem_cons_self)⟩

theorem skipBlanks_of_head {text : List Char}
    (dense : ∀ character ∈ text.head?, isBlank character = false) : skipBlanks text = text := by
  rcases text with _ | ⟨first, more⟩
  · rfl
  · exact List.dropWhile_cons_of_neg (by simp [dense first rfl])

theorem skipBlanks_key (bare : BareKey name) (rest : List Char) :
    skipBlanks (name.toList ++ rest) = name.toList ++ rest := by
  obtain ⟨first, more, shape, isBare⟩ := bare.exists_cons
  refine skipBlanks_of_head ?_
  rw [shape]
  rintro _ ⟨⟩
  simp only [isBlank, Bool.or_eq_false_iff, decide_eq_false_iff_not]
  constructor <;> · rintro rfl; cases isBare

/-- A bare key is read up to what is no part of it. -/
theorem key_append (bare : BareKey name) (ends : ∀ next ∈ rest.head?, isBare next = false)
    (single : ∀ next ∈ (skipBlanks rest).head?, next ≠ '.') :
    key (name.toList ++ rest) = .ok ([name], skipBlanks rest) := by
  have noMore : rest.takeWhile isBare = [] ∧ rest.dropWhile isBare = rest := by
    rcases rest with _ | ⟨next, rest⟩
    · exact ⟨rfl, rfl⟩
    · simp [ends next rfl]
  have part : keyPart (name.toList ++ rest) = some (name, rest) := by
    obtain ⟨first, more, shape, isBare⟩ := bare.exists_cons
    have some : name.toList ≠ [] := shape ▸ List.cons_ne_nil _ _
    unfold keyPart
    split
    · rename_i same
      rw [shape] at same
      cases same
      cases isBare
    · rename_i same
      rw [shape] at same
      cases same
      cases isBare
    · simp only [List.takeWhile_append_of_pos bare.isBare, List.dropWhile_append_of_pos bare.isBare,
        noMore.1, noMore.2, List.append_nil, if_neg some, String.ofList_toList]
  have last : keyParts (mostParts - 1) rest = .ok ([], skipBlanks rest) := by
    unfold keyParts
    split
    · rename_i same
      exact absurd rfl (single '.' (by rw [same]; rfl))
    · rfl
  simp only [key, part, required, last, bind, Except.bind, pure, Except.pure]

/-! ## Lines -/

/-- The line of a header. -/
def headerLine (name : String) : List Char := '[' :: (name.toList ++ [']'])

/-- What is written of a value; nothing where it cannot be written. -/
def written (datum : Datum) : List Char :=
  match literal 0 datum with
  | .ok text => text.toList
  | .error _ => []

/-- The line of a pair. -/
def settingLine (pair : String × Datum) : List Char :=
  pair.1.toList ++ ' ' :: '=' :: ' ' :: written pair.2

theorem standsFor_written {datum : Datum} (legible : Legible datum) :
    StandsFor (written datum) datum := by
  obtain ⟨text, shown, stands⟩ := standsFor_literal legible
  rw [written, shown]
  exact stands

/-! ## Tables -/

theorem get?_of_notMem {entries : Table} (fresh : name ∉ entries.map Prod.fst) :
    entries.get? name = none := by
  simp only [Table.get?, Option.map_eq_none_iff, List.find?_eq_none, decide_eq_true_eq]
  exact fun pair among same => fresh (List.mem_map.2 ⟨pair, among, same⟩)

theorem put_of_notMem {entries : Table} (fresh : name ∉ entries.map Prod.fst) (datum : Datum) :
    entries.put name datum = entries ++ [(name, datum)] := by
  rw [Table.put, if_neg]
  simp only [List.any_eq_true, decide_eq_true_eq, not_exists, not_and]
  exact fun pair among same => fresh (List.mem_map.2 ⟨pair, among, same⟩)

/-- The entry at the end of a table is found, and changed in its place. -/
theorem get?_last {entries : Table} (fresh : name ∉ entries.map Prod.fst) (datum : Datum) :
    Table.get? (entries ++ [(name, datum)]) name = some datum := by
  have front := get?_of_notMem fresh
  simp only [Table.get?, Option.map_eq_none_iff] at front
  simp [Table.get?, List.find?_append, front]

theorem put_last {entries : Table} (fresh : name ∉ entries.map Prod.fst) (datum other : Datum) :
    Table.put (entries ++ [(name, datum)]) name other = entries ++ [(name, other)] := by
  have front : ∀ entry ∈ entries,
      (if entry.1 = name then (name, other) else entry) = entry := fun entry among =>
    if_neg fun same => fresh (List.mem_map.2 ⟨entry, among, same⟩)
  rw [Table.put, if_pos (by simp), List.map_append, List.map_congr_left front, List.map_id']
  simp

namespace Document

variable {document next : Document} {root : Table} {header : Path} {declared : List Path}

/-- A document of which nothing was written inline or with dotted keys. -/
def plain (root : Table) (header : Path) (declared : List Path) : Document where
  root
  header
  declared

/-- A line is a statement of its own if it is read up to its end. -/
def Tells (document : Document) (line : List Char) (next : Document) : Prop :=
  ∀ rest, document.statement (skipBlanks (line ++ '\n' :: rest)) = .ok (next, '\n' :: rest)

/-- What is read of a text from some point on. -/
def Reads (document : Document) (text : List Char) (read : Document) : Prop :=
  ∀ lines, text.length < lines → document.statements lines text = .ok read

theorem reads_nil : document.Reads [] document := by
  intro lines enough
  obtain ⟨lines, rfl⟩ := Nat.exists_eq_add_one.2 enough
  rfl

/-- A line is read before those behind it. -/
theorem Reads.cons {line : List Char} {read : Document} (tells : document.Tells line next)
    (reads : next.Reads rest read) : document.Reads (line ++ '\n' :: rest) read := by
  intro lines enough
  obtain ⟨lines, rfl⟩ := Nat.exists_eq_add_one.2 (Nat.zero_lt_of_lt enough)
  have fewer : rest.length < lines := by
    rw [List.length_append, List.length_cons] at enough
    omega
  have later := reads lines fewer
  rw [statements, tells rest]
  exact later

theorem tells_blank : document.Tells [] document := fun _ => rfl

/-- The header of a new table declares it. -/
theorem tells_header (bare : BareKey name) (fresh : name ∉ root.map Prod.fst)
    (undeclared : [name] ∉ declared) :
    (plain root header declared).Tells (headerLine name)
      (plain (root ++ [(name, .table [])]) [name] ([name] :: declared)) := by
  intro rest
  have declares : (plain root header declared).settle.declare [name] =
      some (plain (root ++ [(name, .table [])]) [name] ([name] :: declared)) := by
    simp [declare, settle, plain, coveredBy, undeclared, within, get?_of_notMem fresh,
      put_of_notMem fresh]
  have read : key (name.toList ++ ']' :: '\n' :: rest) = .ok ([name], ']' :: '\n' :: rest) :=
    key_append bare (by rintro _ ⟨⟩; rfl) (by rintro _ ⟨⟩; decide)
  obtain ⟨first, more, shape, isBare⟩ := bare.exists_cons
  rw [headerLine, List.cons_append, List.append_assoc, List.singleton_append]
  have here : skipBlanks ('[' :: (name.toList ++ ']' :: '\n' :: rest)) =
    '[' :: (name.toList ++ ']' :: '\n' :: rest) := rfl
  rw [here, statement]
  · simp only [skipBlanks_key bare, read, declares, required, bind, Except.bind]
    rfl
  · rintro _ same
    rw [shape] at same
    cases same
    cases isBare

/-- A line that begins with a bare key is a pair. -/
theorem statement_of_bareKey (bare : BareKey name) (rest : List Char) :
    document.statement (name.toList ++ rest) = (do
      let ((path, datum), rest) ←
        pair (value (2 * (name.toList ++ rest).length + 1 + 1) 0) (name.toList ++ rest)
      let document ← required (document.assign path datum)
      pure (document, skipBlanks rest)) := by
  obtain ⟨first, more, shape, isBare⟩ := bare.exists_cons
  rw [shape, List.cons_append, statement]
  · exact fun _ same => absurd ((List.cons.inj same).1 ▸ isBare) (by decide)
  · exact fun _ same => absurd ((List.cons.inj same).1 ▸ isBare) (by decide)
  · exact fun _ same => absurd ((List.cons.inj same).1 ▸ isBare) (by decide)
  · exact fun _ same => absurd ((List.cons.inj same).1 ▸ isBare) (by decide)
  · rintro ⟨⟩

/-- A pair adds its value to the table of the last header. -/
theorem tells_setting (bare : BareKey name) {datum : Datum} (legible : Legible datum)
    {part : String} {before entries : Table} (other : part ∉ before.map Prod.fst)
    (fresh : name ∉ entries.map Prod.fst) :
    (plain (before ++ [(part, .table entries)]) [part] declared).Tells (settingLine (name, datum))
      (plain (before ++ [(part, .table (entries ++ [(name, datum)]))]) [part] declared) := by
  intro rest
  have stands := standsFor_written legible
  have assigns : (plain (before ++ [(part, .table entries)]) [part] declared).assign [name] datum =
      some (plain (before ++ [(part, .table (entries ++ [(name, datum)]))]) [part] declared) := by
    have single : isNested datum = false := by
      cases datum with
      | text | whole | real | nothing | truth | moment => rfl
      | list | table => exact legible.elim
    simp [assign, plain, between, coveredBy, within, get?_last other, setNew, get?_of_notMem fresh,
      put_last other, single]
  have read : key (name.toList ++ ' ' :: '=' :: ' ' :: (written datum ++ '\n' :: rest)) =
      .ok ([name], '=' :: ' ' :: (written datum ++ '\n' :: rest)) :=
    key_append bare (by rintro _ ⟨⟩; rfl) (by rintro _ ⟨⟩; decide)
  have dense : skipBlanks (' ' :: (written datum ++ '\n' :: rest)) =
      written datum ++ '\n' :: rest := by
    refine Eq.trans ?_ (skipBlanks_of_head fun character first => ?_)
    · rfl
    · rcases shown : written datum with _ | ⟨lead, more⟩
      · rw [shown] at first
        cases first
        rfl
      · rw [shown] at first
        cases first
        exact stands.dense character (by rw [shown]; rfl)
  have equals : ∀ more, mark '=' ('=' :: more) = some more := fun _ => rfl
  rw [settingLine, List.append_assoc, skipBlanks_key bare]
  rw [statement_of_bareKey bare]
  simp only [pair, List.cons_append, read, equals, dense, stands.read, assigns, required, bind,
    Except.bind, pure, Except.pure]
  rfl

end Document

/-! ## Sections -/

/-- A table of settings, each name once. -/
structure LegibleTable (entries : Table) : Prop where
  bare : ∀ entry ∈ entries, BareKey entry.1
  distinct : (entries.map Prod.fst).Nodup
  legible : ∀ entry ∈ entries, Legible entry.2

/-- Sections of settings, each name once. -/
structure LegibleSections (sections : List (String × Table)) : Prop where
  bare : ∀ part ∈ sections, BareKey part.1
  distinct : (sections.map Prod.fst).Nodup
  legible : ∀ part ∈ sections, LegibleTable part.2

/-- The table that sections make. -/
def tableOf (sections : List (String × Table)) : Table :=
  sections.map fun (name, settings) => (name, .table settings)

/-- The lines of a section, and their text. -/
def sectionLines (part : String × Table) : List (List Char) :=
  headerLine part.1 :: part.2.map settingLine

def sectionText (part : String × Table) : List Char := (sectionLines part).flatMap (· ++ ['\n'])

/-- The text of a document: an empty line stands between two sections. -/
def documentText (sections : List (String × Table)) : List Char :=
  ['\n'].intercalate (sections.map sectionText)

theorem documentText_singleton (part : String × Table) :
    documentText [part] = sectionText part := by
  rw [documentText, List.map_singleton, List.intercalate_singleton]

theorem documentText_cons_cons (part next : String × Table) (sections : List (String × Table)) :
    documentText (part :: next :: sections) =
      sectionText part ++ '\n' :: documentText (next :: sections) := by
  rw [documentText, List.map_cons, List.map_cons, List.intercalate_cons_cons, List.append_assoc]
  rfl

theorem LegibleTable.of_cons {entry : String × Datum} {entries : Table}
    (legible : LegibleTable (entry :: entries)) : LegibleTable entries where
  bare other among := legible.bare other (List.mem_cons_of_mem _ among)
  distinct := (List.nodup_cons.1 legible.distinct).2
  legible other among := legible.legible other (List.mem_cons_of_mem _ among)

theorem LegibleSections.of_cons {part : String × Table} {sections : List (String × Table)}
    (legible : LegibleSections (part :: sections)) : LegibleSections sections where
  bare other among := legible.bare other (List.mem_cons_of_mem _ among)
  distinct := (List.nodup_cons.1 legible.distinct).2
  legible other among := legible.legible other (List.mem_cons_of_mem _ among)

namespace Document

variable {read : Document} {root before : Table} {header : Path} {declared : List Path}

/-- The settings of a section are read one after another. -/
theorem reads_settings {part : String} {entries more : Table} (other : part ∉ before.map Prod.fst)
    (legible : LegibleTable more) (fresh : ∀ entry ∈ more, entry.1 ∉ entries.map Prod.fst)
    (later : (plain (before ++ [(part, .table (entries ++ more))]) [part] declared).Reads rest
      read) :
    (plain (before ++ [(part, .table entries)]) [part] declared).Reads
      ((more.map settingLine).flatMap (· ++ ['\n']) ++ rest) read := by
  induction more generalizing entries with
  | nil => rwa [List.append_nil] at later
  | cons entry more inductionHypothesis =>
    have apart := (List.nodup_cons.1 legible.distinct).1
    have tells := @tells_setting _ declared (legible.bare entry List.mem_cons_self) _
      (legible.legible entry List.mem_cons_self) part before entries other
      (fresh entry List.mem_cons_self)
    rw [List.map_cons, List.flatMap_cons, List.append_assoc, List.append_assoc]
    refine Reads.cons tells (inductionHypothesis legible.of_cons ?_ ?_)
    · intro next among
      rw [List.map_append, List.mem_append, not_or]
      refine ⟨fresh next (List.mem_cons_of_mem _ among), fun same => apart ?_⟩
      exact List.mem_map.2 ⟨next, among, List.mem_singleton.1 same⟩
    · rwa [List.append_assoc]

/-- A section is read behind those before it. -/
theorem reads_section {part : String × Table} (bare : BareKey part.1)
    (legible : LegibleTable part.2) (fresh : part.1 ∉ root.map Prod.fst)
    (undeclared : [part.1] ∉ declared)
    (later : (plain (root ++ [(part.1, .table part.2)]) [part.1] ([part.1] :: declared)).Reads rest
      read) :
    (plain root header declared).Reads (sectionText part ++ rest) read := by
  rw [sectionText, sectionLines, List.flatMap_cons, List.append_assoc, List.append_assoc]
  refine Reads.cons (tells_header bare fresh undeclared) ?_
  exact reads_settings fresh legible (fun _ _ => List.not_mem_nil) later

/-- All sections are read, in their order. -/
theorem reads_documentText {sections : List (String × Table)} (legible : LegibleSections sections)
    (fresh : ∀ part ∈ sections, part.1 ∉ root.map Prod.fst)
    (undeclared : ∀ part ∈ sections, [part.1] ∉ declared) :
    ∃ header' declared', (plain root header declared).Reads (documentText sections)
      (plain (root ++ tableOf sections) header' declared') := by
  induction sections generalizing root header declared with
  | nil =>
    refine ⟨header, declared, ?_⟩
    rw [tableOf, List.map_nil, List.append_nil]
    exact reads_nil
  | cons part sections inductionHypothesis =>
    have apart := (List.nodup_cons.1 legible.distinct).1
    have bare := legible.bare part List.mem_cons_self
    have table := legible.legible part List.mem_cons_self
    have new := fresh part List.mem_cons_self
    have free := undeclared part List.mem_cons_self
    have differs : ∀ other ∈ sections, other.1 ≠ part.1 := fun other among same =>
      apart (List.mem_map.2 ⟨other, among, same⟩)
    obtain ⟨header', declared', later⟩ := @inductionHypothesis
      (root ++ [(part.1, .table part.2)]) [part.1] ([part.1] :: declared) legible.of_cons
      (fun other among => by
        rw [List.map_append, List.mem_append, not_or]
        exact ⟨fresh other (List.mem_cons_of_mem _ among), by simpa using differs other among⟩)
      (fun other among => by
        rw [List.mem_cons, not_or]
        exact ⟨by simpa using differs other among, undeclared other (List.mem_cons_of_mem _ among)⟩)
    have whole : root ++ [(part.1, .table part.2)] ++ tableOf sections =
        root ++ tableOf (part :: sections) := by
      rw [List.append_assoc]
      rfl
    rw [whole] at later
    refine ⟨header', declared', ?_⟩
    rcases sections with _ | ⟨next, sections⟩
    · rw [documentText_singleton, ← List.append_nil (sectionText part)]
      exact reads_section bare table new free later
    · rw [documentText_cons_cons]
      exact reads_section bare table new free (Reads.cons tells_blank later)

end Document

/-! ## No carriage returns -/

theorem joinLineEnds_of_notMem {text : List Char} (straight : '\r' ∉ text) :
    joinLineEnds text = text := by
  induction text with
  | nil => rfl
  | cons character text inductionHypothesis =>
    rw [List.mem_cons, not_or] at straight
    rw [joinLineEnds, inductionHypothesis straight.2]
    rintro _ rfl
    exact absurd rfl straight.1

theorem BareKey.straight (bare : BareKey name) : '\r' ∉ name.toList := fun among =>
  Bool.false_ne_true (bare.isBare _ among)

theorem straight_sectionText {part : String × Table} (bare : BareKey part.1)
    (legible : LegibleTable part.2) : '\r' ∉ sectionText part := by
  simp only [sectionText, sectionLines, headerLine, settingLine, List.flatMap_cons, List.mem_append,
    List.mem_flatMap, List.mem_map, List.mem_cons, not_or, not_exists, not_and]
  refine ⟨⟨⟨by decide, bare.straight, by decide, List.not_mem_nil⟩, by decide⟩, ?_⟩
  rintro _ ⟨entry, among, rfl⟩
  simp [(legible.bare entry among).straight,
    (standsFor_written (legible.legible entry among)).straight]

theorem straight_documentText {sections : List (String × Table)}
    (legible : LegibleSections sections) : '\r' ∉ documentText sections := by
  induction sections with
  | nil => exact List.not_mem_nil
  | cons part sections inductionHypothesis =>
    have first := straight_sectionText (legible.bare part List.mem_cons_self)
      (legible.legible part List.mem_cons_self)
    have others := inductionHypothesis legible.of_cons
    rcases sections with _ | ⟨next, sections⟩
    · rwa [documentText_singleton]
    · rw [documentText_cons_cons, List.mem_append, List.mem_cons, not_or, not_or]
      exact ⟨first, by decide, others⟩

/-! ## What is written -/

theorem filterM_ok {α : Type} {test : α → Except Datum.Kind Bool} {known : Bool} {items : List α}
    (each : ∀ item ∈ items, test item = .ok known) :
    items.filterM test = .ok (if known then items else []) := by
  have collect : ∀ front, items.filterAuxM test front =
      .ok (if known then items.reverse ++ front else front) := by
    induction items with
    | nil => intro front; cases known <;> rfl
    | cons item items inductionHypothesis =>
      intro front
      have others := inductionHypothesis fun other among =>
        each other (List.mem_cons_of_mem _ among)
      rw [List.filterAuxM, each item List.mem_cons_self]
      cases known
      · exact others front
      · refine (others (item :: front)).trans ?_
        simp
  rw [List.filterM, collect]
  cases known <;> simp [bind, Except.bind, pure, Except.pure]

/-- The pieces of some lines, each with its end. -/
def piecesOf (lines : List (List Char)) : Pieces :=
  lines.map fun line => .ok (String.ofList (line ++ ['\n']))

theorem gather_append (lines : List (List Char)) (rest : Pieces) :
    gather (piecesOf lines ++ rest) =
      ⟨String.ofList (lines.flatMap (· ++ ['\n'])) ++ (gather rest).text,
        (gather rest).missing⟩ := by
  induction lines with
  | nil => simp [piecesOf]
  | cons line lines inductionHypothesis =>
    rw [piecesOf] at inductionHypothesis ⊢
    rw [List.map_cons, List.cons_append, gather, inductionHypothesis, List.flatMap_cons]
    refine congrArg (Written.mk · _) (String.toList_injective ?_)
    simp

theorem gather_sections (sections : List (String × Table)) :
    gather ([.ok "\n"].intercalate (sections.map fun part => piecesOf (sectionLines part))) =
      ⟨String.ofList (documentText sections), none⟩ := by
  induction sections with
  | nil => rfl
  | cons part sections inductionHypothesis =>
    rcases sections with _ | ⟨next, sections⟩
    · rw [List.map_singleton, List.intercalate_singleton, ← List.append_nil (piecesOf _),
        gather_append, documentText_singleton]
      simp [gather, sectionText]
    · rw [List.map_cons] at inductionHypothesis
      rw [List.map_cons, List.map_cons, List.intercalate_cons_cons, List.append_assoc,
        gather_append, List.singleton_append, gather, inductionHypothesis, documentText_cons_cons]
      refine congrArg (Written.mk · none) (String.toList_injective ?_)
      simp [sectionText]

theorem literal_of_legible {datum : Datum} (legible : Legible datum) :
    literal 0 datum = .ok (String.ofList (written datum)) := by
  obtain ⟨text, shown, -⟩ := standsFor_literal legible
  rw [written, shown]
  exact congrArg _ String.ofList_toList.symm

theorem pairLine_of_legible {pair : String × Datum} (bare : BareKey pair.1)
    (legible : Legible pair.2) :
    pairLine pair = .ok (String.ofList (settingLine pair ++ ['\n'])) := by
  rw [pairLine, writeKey_of_bareKey bare, literal_of_legible legible, settingLine]
  refine congrArg Except.ok (String.toList_injective ?_)
  simp

theorem isPlain_of_legible {datum : Datum} (legible : Legible datum) :
    isPlain datum = .ok true := by
  cases datum with
  | text | whole | real => rfl
  | nothing | truth | moment | list | table => exact legible.elim

/-- No table is written below the settings of a section. -/
theorem tablesBelow_of_legible {entries : Table} (header : String)
    (legible : LegibleTable entries) : tablesBelow header entries = [] := by
  induction entries with
  | nil => rw [tablesBelow]
  | cons entry entries inductionHypothesis =>
    have value := legible.legible entry List.mem_cons_self
    rw [tablesBelow, inductionHypothesis legible.of_cons, List.append_nil]
    rcases entry with ⟨name, datum⟩
    cases datum with
    | text | whole | real => simp [underHeader]
    | nothing | truth | moment | list | table => exact value.elim

/-- A section is written as its lines. -/
theorem underHeader_of_legible {part : String × Table} (bare : BareKey part.1)
    (legible : LegibleTable part.2) :
    underHeader (headerBelow "" part.1) false (.table part.2) = [piecesOf (sectionLines part)] := by
  have plain : plainPairs part.2 = .ok part.2 :=
    filterM_ok fun entry among => isPlain_of_legible (legible.legible entry among)
  have lines : part.2.map pairLine =
      (part.2.map settingLine).map fun line => .ok (String.ofList (line ++ ['\n'])) := by
    rw [List.map_map]
    exact List.map_congr_left fun entry among =>
      pairLine_of_legible (legible.bare entry among) (legible.legible entry among)
  have title : "[" ++ part.1 ++ "]\n" = String.ofList (headerLine part.1 ++ ['\n']) :=
    String.toList_injective (by simp [headerLine])
  rw [underHeader, tablesBelow_of_legible _ legible, headerBelow, if_pos rfl,
    writeKey_of_bareKey bare]
  simp [arrange, plain, lines, title, bare.1, piecesOf, sectionLines]

theorem tablesBelow_tableOf {sections : List (String × Table)}
    (legible : LegibleSections sections) :
    tablesBelow "" (tableOf sections) = sections.map fun part => piecesOf (sectionLines part) := by
  induction sections with
  | nil => rw [tableOf, List.map_nil, tablesBelow, List.map_nil]
  | cons part sections inductionHypothesis =>
    have others := inductionHypothesis legible.of_cons
    rw [tableOf] at others ⊢
    rw [List.map_cons, tablesBelow, others, List.map_cons,
      underHeader_of_legible (legible.bare part List.mem_cons_self)
        (legible.legible part List.mem_cons_self)]
    rfl

/-- A document of sections is written as its text. -/
theorem write_tableOf {sections : List (String × Table)} (legible : LegibleSections sections) :
    write (tableOf sections) = ⟨String.ofList (documentText sections), none⟩ := by
  have noPairs : plainPairs (tableOf sections) = .ok [] := by
    refine (@filterM_ok _ _ false _ fun entry among => ?_).trans rfl
    obtain ⟨part, -, rfl⟩ := List.mem_map.1 among
    rfl
  rw [write, tablesBelow_tableOf legible, arrange, noPairs]
  exact gather_sections sections

/-- What is written of sections is read back. -/
theorem parse_write {sections : List (String × Table)} (legible : LegibleSections sections) :
    parse (write (tableOf sections)).text.toList = .ok (tableOf sections) := by
  obtain ⟨header, declared, reads⟩ := @Document.reads_documentText [] [] [] sections legible
    (fun _ _ => List.not_mem_nil) fun _ _ => List.not_mem_nil
  have read := reads _ (Nat.lt_succ_self _)
  rw [write_tableOf legible, String.toList_ofList, parse,
    joinLineEnds_of_notMem (straight_documentText legible)]
  exact congrArg (Except.map Document.root) read

end ThreadHost.Toml
