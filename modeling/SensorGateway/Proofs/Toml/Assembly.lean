import SensorGateway.Proofs.Toml.Statement

/-!
# `SensorGateway.Proofs.Toml.Assembly`: documents written and read back

The statements of a document are carried out one after another. Those of a written one
only add to its end: a header adds an empty table, and the assignments behind it add to
this table until the next header comes.

`Opened path place` says where assignments go while the table at `path` is open, and
`Opened.foldlM` that a whole section goes there. It holds of the document itself and of
the table that was added last. `Writable.parse?` is the result: what is written as a
document is read as the values of its settings, each in its own table.
-/

set_option autoImplicit false

namespace SensorGateway.Toml

/-! ### Entries -/

/-- The values of settings under their keys. -/
def Section.values (entries : Section) : List (String × Toml) :=
  entries.map fun (key, setting) => (key, setting.toToml)

/-- Settings that one table can hold. -/
structure Section.Sound (entries : Section) : Prop where
  bare : ∀ entry ∈ entries, Bare entry.1
  fits : ∀ entry ∈ entries, entry.2.Fits
  nodup : (entries.map Prod.fst).Nodup

/-- The entries of a document under construction that settings become. -/
def Section.nodes (entries : Section) : Entries :=
  entries.map fun (key, setting) => (key, .value setting.toToml)

theorem lookup_eq_none {α : Type} {entries : List (String × α)} {key : String}
    (h : key ∉ entries.map Prod.fst) : entries.lookup key = none := by
  rw [List.lookup_eq_none_iff]
  intro entry hentry
  have hne : key ≠ entry.1 := fun heq => h (heq ▸ List.mem_map_of_mem hentry)
  simpa using hne

theorem notMem_of_nodup {before after : List String} {key : String}
    (h : (before ++ key :: after).Nodup) : key ∉ before := by
  intro hmem
  exact (List.nodup_append.mp h).2.2 key hmem key List.mem_cons_self rfl

/-- A new key stands behind all others. -/
theorem setEntry_of_notMem {entries : Entries} {key : String} (h : key ∉ entries.map Prod.fst)
    (node : Node) : setEntry key node entries = entries ++ [(key, node)] := by
  induction entries with
  | nil => rfl
  | cons entry entries ih =>
    rw [List.map_cons, List.mem_cons, not_or] at h
    rw [setEntry, if_neg (Ne.symm h.1), ih h.2]
    rfl

theorem setEntry_append {entries : Entries} {key : String} (h : key ∉ entries.map Prod.fst)
    (old node : Node) : setEntry key node (entries ++ [(key, old)]) = entries ++ [(key, node)] := by
  induction entries with
  | nil => exact if_pos rfl
  | cons entry entries ih =>
    rw [List.map_cons, List.mem_cons, not_or] at h
    rw [List.cons_append, setEntry, if_neg (Ne.symm h.1), ih h.2]
    rfl

theorem addValue_of_notMem {entries : Entries} {key : String} (h : key ∉ entries.map Prod.fst)
    (value : Toml) (origin : Origin) :
    addValue false key value origin entries = some (entries ++ [(key, .value value)]) := by
  rw [addValue, if_neg (by simp), lookup_eq_none h]
  exact congrArg some (setEntry_of_notMem h _)

/-! ### The open table -/

/-- The table that a path opens: `place` puts its entries where they belong in the
document. -/
def Opened (path : List String) (place : Entries → Entries) : Prop :=
  ∀ (change : Origin → Entries → Option Entries) {inner changed : Entries},
    change .header inner = some changed →
      changeAt .path change path .header (place inner) = some (place changed)

theorem opened_nil : Opened [] id := fun _ _ _ h => h

/-- The table of the last header takes what follows it. Tables in front of it are out of
reach. -/
theorem opened_table {done : Entries} {name : String} (h : name ∉ done.map Prod.fst) :
    Opened [name] fun inner => done ++ [(name, .table .header inner)] := by
  intro change inner changed hchange
  have hlookup : (done ++ [(name, Node.table .header inner)]).lookup name =
      some (Node.table .header inner) := by
    rw [List.lookup_append, lookup_eq_none h]
    simp
  rw [changeAt, hlookup]
  -- Only dotted keys keep out of tables that a header opened.
  show (if Origin.path = .dottedKey ∧ Origin.header = .header then none else _) = _
  rw [if_neg (by simp), changeAt, hchange]
  exact congrArg some (setEntry_append h _ _)

/-- An assignment adds an entry to the open table. -/
theorem Opened.step {path : List String} {place : Entries → Entries} (hopened : Opened path place)
    {inner : Entries} {entry : String × Setting} (h : entry.1 ∉ inner.map Prod.fst) :
    Builder.step ⟨path, place inner⟩ (assignment entry) =
      some ⟨path, place (inner ++ [(entry.1, .value entry.2.toToml)])⟩ := by
  have hchange := hopened (Toml.assign [] entry.1 entry.2.toToml)
    (addValue_of_notMem h entry.2.toToml .header)
  show (changeAt .path (Toml.assign [] entry.1 entry.2.toToml) path .header (place inner)).bind _ =
    _
  rw [hchange]
  rfl

/-- A section goes into the open table as a whole, if its keys are new there. -/
theorem Opened.foldlM {path : List String} {place : Entries → Entries}
    (hopened : Opened path place) {entries : Section} (inner : Entries)
    (h : (inner.map Prod.fst ++ entries.map Prod.fst).Nodup) :
    (entries.map assignment).foldlM Builder.step ⟨path, place inner⟩ =
      some ⟨path, place (inner ++ entries.nodes)⟩ := by
  induction entries generalizing inner with
  | nil =>
    show some _ = some _
    rw [Section.nodes, List.map_nil, List.append_nil]
  | cons entry entries ih =>
    -- The key is new, and with it in the table the keys behind it still are.
    have hnew : entry.1 ∉ inner.map Prod.fst := notMem_of_nodup h
    rw [List.map_cons, List.foldlM_cons, hopened.step hnew]
    show (entries.map assignment).foldlM Builder.step _ = _
    rw [ih _ (by simpa using h), Section.nodes, List.append_assoc]
    rfl

/-! ### Documents -/

/-- The statements of a table with its header. -/
def tableStatements (table : String × Section) : List Statement :=
  .table [] table.1 :: table.2.map assignment

/-- A header opens a new table, and what follows it goes in there. -/
theorem foldlM_tableStatements {opened : List String} {done : Entries} {table : String × Section}
    (hname : table.1 ∉ done.map Prod.fst) (hentries : (table.2.map Prod.fst).Nodup) :
    (tableStatements table).foldlM Builder.step ⟨opened, done⟩ =
      some ⟨[table.1], done ++ [(table.1, .table .header table.2.nodes)]⟩ := by
  have hheader : Builder.step ⟨opened, done⟩ (.table [] table.1) =
      some ⟨[table.1], done ++ [(table.1, .table .header [])]⟩ := by
    show (openTable table.1 done).bind _ = _
    rw [openTable, lookup_eq_none hname]
    dsimp only
    rw [setEntry_of_notMem hname]
    rfl
  rw [tableStatements, List.foldlM_cons, hheader]
  exact (opened_table hname).foldlM [] (by simpa using hentries)

/-- Tables follow each other. Which one is open in the end is of no interest. -/
theorem foldlM_flatMap_tableStatements (opened : List String) {done : Entries}
    {tables : List (String × Section)}
    (hnames : (done.map Prod.fst ++ tables.map Prod.fst).Nodup)
    (hentries : ∀ table ∈ tables, (table.2.map Prod.fst).Nodup) :
    ((tables.flatMap tableStatements).foldlM Builder.step ⟨opened, done⟩).map Builder.entries =
      some (done ++ tables.map fun (name, inner) => (name, .table .header inner.nodes)) := by
  induction tables generalizing opened done with
  | nil =>
    show some done = _
    rw [List.map_nil, List.append_nil]
  | cons table tables ih =>
    have hnew : table.1 ∉ done.map Prod.fst := notMem_of_nodup hnames
    rw [List.flatMap_cons, List.foldlM_append,
      foldlM_tableStatements hnew (hentries table List.mem_cons_self)]
    show ((tables.flatMap tableStatements).foldlM Builder.step _).map Builder.entries = _
    rw [ih _ (by simpa using hnames) (fun later hlater =>
      hentries later (List.mem_cons_of_mem table hlater)), List.append_assoc]
    rfl

theorem finishEntries_eq_map (entries : Entries) :
    finishEntries entries = entries.map fun (key, node) => (key, node.toToml) := by
  induction entries with
  | nil => rfl
  | cons entry entries ih => rw [finishEntries, ih]; rfl

theorem finishEntries_nodes (entries : Section) : finishEntries entries.nodes = entries.values := by
  rw [finishEntries_eq_map, Section.nodes, List.map_map]
  rfl

/-- Settings and tables of settings that one document can hold. -/
structure Writable (entries : Section) (tables : List (String × Section)) : Prop where
  settings : entries.Sound
  headers : ∀ table ∈ tables, Bare table.1
  sections : ∀ table ∈ tables, table.2.Sound
  nodup : (entries.map Prod.fst ++ tables.map Prod.fst).Nodup

/-- The value of a document. -/
def documentValue (entries : Section) (tables : List (String × Section)) : Toml :=
  .table (entries.values ++ tables.map fun (name, inner) => (name, .table inner.values))

variable {entries : Section} {tables : List (String × Section)}

/-- The entries of the document come first, and then each table under its name. -/
theorem Writable.ofStatements? (h : Writable entries tables) :
    ofStatements? (entries.map assignment ++ tables.flatMap tableStatements) =
      some (documentValue entries tables) := by
  have hkeys : entries.nodes.map Prod.fst = entries.map Prod.fst := by
    rw [Section.nodes, List.map_map]
    rfl
  have hfirst : (entries.map assignment).foldlM Builder.step ⟨[], []⟩ = some ⟨[], entries.nodes⟩ :=
    opened_nil.foldlM [] h.settings.nodup
  have hnames : (entries.nodes.map Prod.fst ++ tables.map Prod.fst).Nodup := hkeys ▸ h.nodup
  have hrest := foldlM_flatMap_tableStatements [] hnames fun table htable =>
    (h.sections table htable).nodup
  obtain ⟨builder, hbuilder, hdone⟩ := Option.map_eq_some_iff.mp hrest
  have hfinish : finishEntries builder.entries =
      entries.values ++ tables.map fun (name, inner) => (name, .table inner.values) := by
    rw [hdone, finishEntries_eq_map, List.map_append, ← finishEntries_eq_map, finishEntries_nodes,
      List.map_map]
    congr 1
    refine List.map_congr_left fun table _ => ?_
    show (table.1, Toml.table (finishEntries table.2.nodes)) = _
    rw [finishEntries_nodes]
  rw [Toml.ofStatements?, List.foldlM_append, hfirst]
  show ((tables.flatMap tableStatements).foldlM Builder.step ⟨[], entries.nodes⟩).map _ = _
  rw [hbuilder, Option.map_some, hfinish]
  rfl

/-- The text of a document consists of whole lines. -/
theorem Writable.lines (h : Writable entries tables) :
    Lines (writeSection entries ++ tables.flatMap fun (name, inner) => writeTable name inner)
      (entries.map assignment ++ tables.flatMap tableStatements) := by
  have hheaders := h.headers
  have hsections := h.sections
  refine (lines_writeSection h.settings.bare h.settings.fits).append ?_
  clear h
  induction tables with
  | nil => exact lines_nil
  | cons table tables ih =>
    have hsound := hsections table List.mem_cons_self
    refine (lines_writeTable (hheaders table List.mem_cons_self)
      (lines_writeSection hsound.bare hsound.fits)).append (ih ?_ ?_)
    · exact fun later hlater => hheaders later (List.mem_cons_of_mem table hlater)
    · exact fun later hlater => hsections later (List.mem_cons_of_mem table hlater)

/-- No written document starts with a byte order mark. -/
theorem toNat_ne_of_mem_head? (h : ∀ entry ∈ entries, Bare entry.1) :
    ∀ c ∈ (writeSection entries ++ tables.flatMap fun (name, inner) =>
      writeTable name inner).head?, c.toNat ≠ 0xFEFF := by
  intro c hc hmark
  cases entries with
  | nil =>
    cases tables with
    | nil => cases hc
    | cons table tables =>
      -- An empty line stands in front of the first header.
      obtain rfl : '\n' = c := Option.some.inj hc
      exact absurd hmark (by decide)
  | cons entry entries =>
    obtain ⟨first, others, hkey, hfirst⟩ := (h entry List.mem_cons_self).exists_cons
    have hwritten : writeSection (entry :: entries) =
        entry.1.toList ++ " = ".toList ++ entry.2.write ++ ['\n'] ++ writeSection entries := rfl
    rw [hwritten, hkey] at hc
    obtain rfl : first = c := Option.some.inj hc
    have heq : first = Char.ofNat 0xFEFF := by
      rw [← hmark, Char.ofNat_toNat]
    rw [heq] at hfirst
    exact absurd hfirst (by decide)

/-- Without such a mark nothing is ignored. -/
theorem parse?_ofList {chars : List Char} (h : ∀ c ∈ chars.head?, c.toNat ≠ 0xFEFF) :
    parse? (String.ofList chars) =
      (statements? (chars.length + 1) chars).bind Toml.ofStatements? := by
  rw [Toml.parse?, String.toList_ofList]
  cases chars with
  | nil => rfl
  | cons c rest =>
    dsimp only
    rw [if_neg (h c rfl)]
    rfl

/-- A written document is read back, whatever its settings are: no key is taken for one
of another table. -/
theorem Writable.parse? (h : Writable entries tables) :
    parse? (writeDocument entries tables) = some (documentValue entries tables) := by
  obtain ⟨lines, hle, hread⟩ := h.lines
  -- One unit of fuel is left for the end of the text.
  obtain ⟨fuel, hfuel⟩ := Nat.exists_eq_add_of_le hle
  have hfuel' : fuel + 1 + lines = (writeSection entries ++
      tables.flatMap fun (name, inner) => writeTable name inner).length + 1 := by
    omega
  have hstatements := hread (fuel + 1) []
  rw [List.append_nil, hfuel'] at hstatements
  rw [writeDocument, parse?_ofList (toNat_ne_of_mem_head? h.settings.bare), hstatements]
  show Toml.ofStatements? ((entries.map assignment ++ tables.flatMap tableStatements) ++ []) = _
  rw [List.append_nil, h.ofStatements?]

end SensorGateway.Toml
