import SensorGateway.Proofs.Toml.Assembly

/-!
# `SensorGateway.Proofs.Toml.Range`: the integers of a document

Every integer of a document is one of 64 bits, however it is spelled and however deep it
stands (`long_of_parse?`). A reader of settings may ask for a larger range, but there is
nothing to be found in it.

The readers give such integers only (`ReadsLong`, by the fuel of the readers), and the
steps that put a document together make no new ones (`KeepsLong`, by the path that a step
takes into the document).
-/

set_option autoImplicit false

namespace SensorGateway.Toml

/-- A value whose integers are all of 64 bits. -/
inductive Long : Toml → Prop
  | string (text : String) : Long (.string text)
  | integer {n : Int} (h : IsLong n) : Long (.integer n)
  | float (bits : Nat) : Long (.float bits)
  | boolean (b : Bool) : Long (.boolean b)
  | datetime (text : String) : Long (.datetime text)
  | array {items : List Toml} (h : ∀ item ∈ items, Long item) : Long (.array items)
  | table {entries : List (String × Toml)} (h : ∀ entry ∈ entries, Long entry.2) :
      Long (.table entries)

/-! ### Documents under construction -/

/-- A node whose values are of 64 bits. -/
inductive Node.Long : Node → Prop
  | value {value : Toml} (h : value.Long) : Node.Long (.value value)
  | table {origin : Origin} {entries : Entries} (h : ∀ entry ∈ entries, Node.Long entry.2) :
      Node.Long (.table origin entries)
  | tables {elements : List Node} (h : ∀ node ∈ elements, Node.Long node) :
      Node.Long (.tables elements)

theorem finishElements_eq_map (elements : List Node) :
    finishElements elements = elements.map Node.toToml := by
  induction elements with
  | nil => rfl
  | cons node elements ih => rw [finishElements, ih]; rfl

theorem Node.Long.toToml {node : Node} (h : node.Long) : node.toToml.Long := by
  induction h with
  | value h => exact h
  | table _ ih =>
    rw [Node.toToml, finishEntries_eq_map]
    refine .table fun entry hentry => ?_
    obtain ⟨⟨key, node⟩, hmem, rfl⟩ := List.mem_map.mp hentry
    exact ih (key, node) hmem
  | tables _ ih =>
    rw [Node.toToml, finishElements_eq_map]
    refine .array fun item hitem => ?_
    obtain ⟨node, hmem, rfl⟩ := List.mem_map.mp (List.mem_reverse.mp hitem)
    exact ih node hmem

/-- Entries whose values are of 64 bits. -/
def Entries.Long (entries : Entries) : Prop := ∀ entry ∈ entries, entry.2.Long

theorem Entries.long_nil : Entries.Long [] := fun _ hmem => absurd hmem List.not_mem_nil

theorem Entries.Long.setEntry {entries : Entries} (h : entries.Long) (key : String) {node : Node}
    (hnode : node.Long) : Entries.Long (setEntry key node entries) := by
  induction entries with
  | nil =>
    intro entry hentry
    obtain rfl := List.mem_singleton.mp hentry
    exact hnode
  | cons first entries ih =>
    have hlater : Entries.Long entries :=
      fun entry hentry => h entry (List.mem_cons_of_mem _ hentry)
    rw [Toml.setEntry]
    intro entry hentry
    split at hentry
    · rcases List.mem_cons.mp hentry with rfl | hentry
      · exact hnode
      · exact hlater entry hentry
    · rcases List.mem_cons.mp hentry with rfl | hentry
      · exact h first List.mem_cons_self
      · exact ih hlater entry hentry

theorem Entries.Long.lookup {entries : Entries} (h : entries.Long) {key : String} {node : Node}
    (hlookup : entries.lookup key = some node) : node.Long := by
  obtain ⟨before, after, rfl, -⟩ := List.lookup_eq_some_iff.mp hlookup
  exact h (key, node) (by simp)

/-- A change of a table that leaves all values in it of 64 bits. -/
def KeepsLong (change : Origin → Entries → Option Entries) : Prop :=
  ∀ (origin : Origin) (entries changed : Entries), entries.Long →
    change origin entries = some changed → changed.Long

theorem keepsLong_addValue (dotted : Bool) (key : String) {value : Toml} (hvalue : value.Long) :
    KeepsLong (addValue dotted key value) := by
  intro origin entries changed h hchange
  unfold addValue at hchange
  split at hchange
  · cases hchange
  · split at hchange
    · cases hchange
    · obtain rfl := Option.some.inj hchange
      exact h.setEntry key (.value hvalue)

theorem keepsLong_openTable (key : String) : KeepsLong fun _ => openTable key := by
  intro origin entries changed h hchange
  dsimp only [openTable] at hchange
  split at hchange
  · obtain rfl := Option.some.inj hchange
    exact h.setEntry key (.table Entries.long_nil)
  · next inner hlookup =>
    obtain rfl := Option.some.inj hchange
    cases h.lookup hlookup with
    | table hinner => exact h.setEntry key (.table hinner)
  · cases hchange

theorem keepsLong_openElement (key : String) : KeepsLong fun _ => openElement key := by
  intro origin entries changed h hchange
  dsimp only [openElement] at hchange
  split at hchange
  · obtain rfl := Option.some.inj hchange
    refine h.setEntry key (.tables fun node hnode => ?_)
    obtain rfl := List.mem_singleton.mp hnode
    exact .table Entries.long_nil
  · next elements hlookup =>
    obtain rfl := Option.some.inj hchange
    cases h.lookup hlookup with
    | tables helements =>
      refine h.setEntry key (.tables fun node hnode => ?_)
      rcases List.mem_cons.mp hnode with rfl | hnode
      · exact .table Entries.long_nil
      · exact helements node hnode
  · cases hchange

/-- A change at the end of a path changes nothing on the way there. -/
theorem KeepsLong.changeAt {change : Origin → Entries → Option Entries} (hkeeps : KeepsLong change)
    (fresh : Origin) (path : List String) : KeepsLong (changeAt fresh change path) := by
  induction path with
  | nil => exact hkeeps
  | cons key path ih =>
    intro origin entries changed h hchange
    unfold Toml.changeAt at hchange
    split at hchange
    · -- The path names a new table, which starts without entries.
      obtain ⟨inner, hinner, heq⟩ := Option.bind_eq_some_iff.mp hchange
      obtain rfl := Option.some.inj heq
      exact h.setEntry key (.table (ih fresh [] inner Entries.long_nil hinner))
    · next hlookup =>
      split at hchange
      · cases hchange
      · obtain ⟨inner, hinner, heq⟩ := Option.bind_eq_some_iff.mp hchange
        obtain rfl := Option.some.inj heq
        cases h.lookup hlookup with
        | table hold => exact h.setEntry key (.table (ih _ _ inner hold hinner))
    · next hlookup =>
      -- The path goes on in the last table of an array, and the others stay.
      obtain ⟨inner, hinner, heq⟩ := Option.bind_eq_some_iff.mp hchange
      obtain rfl := Option.some.inj heq
      cases h.lookup hlookup with
      | tables helements =>
        refine h.setEntry key (.tables fun node hnode => ?_)
        rcases List.mem_cons.mp hnode with rfl | hnode
        · cases helements _ List.mem_cons_self with
          | table hold => exact .table (ih _ _ inner hold hinner)
        · exact helements node (List.mem_cons_of_mem _ hnode)
    · cases hchange

/-! ### Statements -/

/-- A statement that assigns no other value than one of 64 bits. -/
def Statement.Long : Statement → Prop
  | .assign _ _ value => value.Long
  | _ => True

theorem foldlM_invariant {α β : Type} {step : β → α → Option β} {P : β → Prop} {Q : α → Prop}
    (hstep : ∀ {b a next}, P b → Q a → step b a = some next → P next) {items : List α}
    (hitems : ∀ a ∈ items, Q a) {first last : β} (hfirst : P first)
    (h : items.foldlM step first = some last) : P last := by
  induction items generalizing first with
  | nil =>
    obtain rfl := Option.some.inj h
    exact hfirst
  | cons a items ih =>
    rw [List.foldlM_cons] at h
    obtain ⟨next, hnext, hrest⟩ := Option.bind_eq_some_iff.mp h
    exact ih (fun b hb => hitems b (List.mem_cons_of_mem a hb))
      (hstep hfirst (hitems a List.mem_cons_self) hnext) hrest

theorem Statement.Long.step {statement : Statement} (hstatement : statement.Long)
    {builder next : Builder} (h : builder.entries.Long)
    (hstep : builder.step statement = some next) : next.entries.Long := by
  cases statement with
  | table path key =>
    obtain ⟨entries, hentries, heq⟩ := Option.bind_eq_some_iff.mp hstep
    obtain rfl := Option.some.inj heq
    exact (keepsLong_openTable key).changeAt .path path _ _ entries h hentries
  | element path key =>
    obtain ⟨entries, hentries, heq⟩ := Option.bind_eq_some_iff.mp hstep
    obtain rfl := Option.some.inj heq
    exact (keepsLong_openElement key).changeAt .path path _ _ entries h hentries
  | assign path key value =>
    obtain ⟨entries, hentries, heq⟩ := Option.bind_eq_some_iff.mp hstep
    obtain rfl := Option.some.inj heq
    have hassign : KeepsLong (Toml.assign path key value) :=
      (keepsLong_addValue _ key hstatement).changeAt .dottedKey path
    exact hassign.changeAt .path builder.opened _ _ entries h hentries

theorem long_of_ofStatements? {statements : List Statement}
    (hstatements : ∀ statement ∈ statements, statement.Long) {value : Toml}
    (h : ofStatements? statements = some value) : value.Long := by
  obtain ⟨builder, hbuilder, rfl⟩ := Option.map_eq_some_iff.mp h
  have hentries : builder.entries.Long :=
    foldlM_invariant (P := fun builder => builder.entries.Long) (fun h hs => hs.step h) hstatements
      Entries.long_nil hbuilder
  have htable : Node.Long (.table .header _) := .table hentries
  exact htable.toToml

theorem long_of_ofAssignments? {assignments : List (List String × String × Toml)}
    (hassignments : ∀ assignment ∈ assignments, assignment.2.2.Long) {value : Toml}
    (h : ofAssignments? assignments = some value) : value.Long := by
  obtain ⟨entries, hfold, rfl⟩ := Option.map_eq_some_iff.mp h
  have hentries : Entries.Long entries := by
    refine foldlM_invariant (P := Entries.Long) (Q := fun assignment => assignment.2.2.Long) ?_
      hassignments Entries.long_nil hfold
    intro entries (path, key, value) next h hvalue hnext
    exact (keepsLong_addValue _ key hvalue).changeAt .dottedKey path _ _ next h hnext
  have htable : Node.Long (.table .header _) := .table hentries
  exact htable.toToml

/-! ### Texts -/

theorem isLong_of_signedNumeral {radix : Nat} (hradix : 0 < radix) {digits : List Char} {n : Int}
    (h : (Text.signedNumeral radix 64 digits).toOption = some n) : IsLong n := by
  cases hread : Text.signedNumeral radix 64 digits with
  | error reason =>
    rw [hread] at h
    cases h
  | ok m =>
    rw [hread] at h
    obtain rfl : m = n := Option.some.inj h
    exact ((Text.signedNumeral_eq_ok_iff hradix 64 digits m).mp hread).2

theorem isLong_of_radixInteger? {radix : Nat} (hradix : 0 < radix) {chars : List Char}
    {read : Int × List Char} (h : radixInteger? radix chars = some read) : IsLong read.1 := by
  obtain ⟨⟨digits, rest⟩, -, hdigits⟩ := Option.bind_eq_some_iff.mp h
  obtain ⟨n, hn, heq⟩ := Option.bind_eq_some_iff.mp hdigits
  obtain rfl := Option.some.inj heq
  exact isLong_of_signedNumeral hradix hn

theorem isLong_of_integer? {chars : List Char} {read : Int × List Char}
    (h : integer? chars = some read) : IsLong read.1 := by
  unfold integer? at h
  split at h
  · exact isLong_of_radixInteger? (by decide) h
  · exact isLong_of_radixInteger? (by decide) h
  · exact isLong_of_radixInteger? (by decide) h
  · obtain ⟨⟨digits, rest⟩, -, hdigits⟩ := Option.bind_eq_some_iff.mp h
    obtain ⟨n, hn, heq⟩ := Option.bind_eq_some_iff.mp hdigits
    obtain rfl := Option.some.inj heq
    exact isLong_of_signedNumeral (by decide) hn

theorem long_of_scalarValue? {chars : List Char} {read : Toml × List Char}
    (h : scalarValue? chars = some read) : read.1.Long := by
  unfold scalarValue? at h
  split at h
  · obtain rfl := Option.some.inj h
    exact .boolean true
  · obtain rfl := Option.some.inj h
    exact .boolean false
  · -- Whichever reader comes first, only the last one gives an integer.
    rcases Option.or_eq_some_iff.mp h with htext | ⟨-, h⟩
    · obtain ⟨⟨text, rest⟩, -, rfl⟩ := Option.map_eq_some_iff.mp htext
      exact .string text
    · rcases Option.or_eq_some_iff.mp h with hdatetime | ⟨-, h⟩
      · obtain ⟨⟨text, rest⟩, -, rfl⟩ := Option.map_eq_some_iff.mp hdatetime
        exact .datetime text
      · rcases Option.or_eq_some_iff.mp h with hfloat | ⟨-, h⟩
        · obtain ⟨⟨bits, rest⟩, -, rfl⟩ := Option.map_eq_some_iff.mp hfloat
          exact .float bits
        · rcases Option.or_eq_some_iff.mp h with hnamed | ⟨-, h⟩
          · obtain ⟨⟨bits, rest⟩, -, rfl⟩ := Option.map_eq_some_iff.mp hnamed
            exact .float bits
          · obtain ⟨⟨n, rest⟩, hinteger, rfl⟩ := Option.map_eq_some_iff.mp h
            exact .integer (isLong_of_integer? hinteger)

/-- With some fuel the readers of values give no integers but those of 64 bits. -/
structure ReadsLong (fuel : Nat) : Prop where
  value : ∀ depth chars read, value? fuel depth chars = some read → read.1.Long
  items : ∀ depth chars read, items? fuel depth chars = some read → ∀ item ∈ read.1, item.Long
  assignments : ∀ depth chars read, assignments? fuel depth chars = some read →
    ∀ assignment ∈ read.1, assignment.2.2.Long

theorem ReadsLong.value_succ {fuel : Nat} (h : ReadsLong fuel) {depth : Nat} {chars : List Char}
    {read : Toml × List Char} (hread : value? (fuel + 1) depth chars = some read) :
    read.1.Long := by
  rw [value?.eq_def] at hread
  dsimp only at hread
  split at hread
  · cases hread
  · next heq =>
    obtain rfl := Nat.succ.inj heq
    split at hread
    · obtain ⟨⟨items, rest⟩, hitems, heq⟩ := Option.bind_eq_some_iff.mp hread
      obtain rfl := Option.some.inj heq
      exact .array (h.items _ _ _ hitems)
    · cases hread
  · next heq =>
    obtain rfl := Nat.succ.inj heq
    split at hread
    · split at hread
      · obtain rfl := Option.some.inj hread
        exact .table fun _ hmem => absurd hmem List.not_mem_nil
      · obtain ⟨⟨assignments, rest⟩, hassignments, hread⟩ := Option.bind_eq_some_iff.mp hread
        obtain ⟨table, htable, heq⟩ := Option.bind_eq_some_iff.mp hread
        obtain rfl := Option.some.inj heq
        exact long_of_ofAssignments? (h.assignments _ _ _ hassignments) htable
    · cases hread
  · exact long_of_scalarValue? hread

theorem ReadsLong.items_succ {fuel : Nat} (h : ReadsLong fuel) {depth : Nat} {chars : List Char}
    {read : List Toml × List Char} (hread : items? (fuel + 1) depth chars = some read) :
    ∀ item ∈ read.1, item.Long := by
  rw [items?.eq_def] at hread
  dsimp only at hread
  split at hread
  · obtain rfl := Option.some.inj hread
    exact fun _ hmem => absurd hmem List.not_mem_nil
  · obtain ⟨⟨item, after⟩, hitem, hmore⟩ := Option.bind_eq_some_iff.mp hread
    have hlong : item.Long := h.value _ _ _ hitem
    dsimp only at hmore
    split at hmore
    · obtain ⟨⟨items, rest⟩, hitems, heq⟩ := Option.bind_eq_some_iff.mp hmore
      obtain rfl := Option.some.inj heq
      intro other hmem
      rcases List.mem_cons.mp hmem with rfl | hmem
      · exact hlong
      · exact h.items _ _ _ hitems other hmem
    · obtain rfl := Option.some.inj hmore
      intro other hmem
      obtain rfl := List.mem_singleton.mp hmem
      exact hlong
    · cases hmore

theorem ReadsLong.assignments_succ {fuel : Nat} (h : ReadsLong fuel) {depth : Nat}
    {chars : List Char} {read : List (List String × String × Toml) × List Char}
    (hread : assignments? (fuel + 1) depth chars = some read) :
    ∀ assignment ∈ read.1, assignment.2.2.Long := by
  rw [assignments?.eq_def] at hread
  dsimp only at hread
  obtain ⟨⟨⟨path, key⟩, afterKey⟩, -, hread⟩ := Option.bind_eq_some_iff.mp hread
  obtain ⟨start, -, hread⟩ := Option.bind_eq_some_iff.mp hread
  obtain ⟨⟨value, after⟩, hvalue, hmore⟩ := Option.bind_eq_some_iff.mp hread
  have hlong : value.Long := h.value _ _ _ hvalue
  dsimp only at hmore
  split at hmore
  · obtain ⟨⟨assignments, rest⟩, hassignments, heq⟩ := Option.bind_eq_some_iff.mp hmore
    obtain rfl := Option.some.inj heq
    intro other hmem
    rcases List.mem_cons.mp hmem with rfl | hmem
    · exact hlong
    · exact h.assignments _ _ _ hassignments other hmem
  · obtain rfl := Option.some.inj hmore
    intro other hmem
    obtain rfl := List.mem_singleton.mp hmem
    exact hlong
  · cases hmore

theorem readsLong (fuel : Nat) : ReadsLong fuel := by
  induction fuel with
  | zero =>
    constructor
    · intro _ _ _ h
      cases h
    · intro _ _ _ h
      cases h
    · intro _ _ _ h
      cases h
  | succ fuel ih =>
    exact ⟨fun _ _ _ h => ih.value_succ h, fun _ _ _ h => ih.items_succ h,
      fun _ _ _ h => ih.assignments_succ h⟩

theorem long_of_statement? {chars : List Char} {read : Statement × List Char}
    (h : statement? chars = some read) : read.1.Long := by
  unfold statement? at h
  split at h
  · obtain ⟨⟨⟨path, key⟩, rest⟩, -, h⟩ := Option.bind_eq_some_iff.mp h
    obtain ⟨inner, -, h⟩ := Option.bind_eq_some_iff.mp h
    obtain ⟨outer, -, h⟩ := Option.bind_eq_some_iff.mp h
    obtain rfl := Option.some.inj h
    exact True.intro
  · obtain ⟨⟨⟨path, key⟩, rest⟩, -, h⟩ := Option.bind_eq_some_iff.mp h
    obtain ⟨outer, -, h⟩ := Option.bind_eq_some_iff.mp h
    obtain rfl := Option.some.inj h
    exact True.intro
  · obtain ⟨⟨⟨path, key⟩, rest⟩, -, h⟩ := Option.bind_eq_some_iff.mp h
    obtain ⟨start, -, h⟩ := Option.bind_eq_some_iff.mp h
    obtain ⟨⟨value, after⟩, hvalue, h⟩ := Option.bind_eq_some_iff.mp h
    obtain rfl := Option.some.inj h
    exact (readsLong _).value _ _ _ hvalue

theorem long_of_statements? {fuel : Nat} {chars : List Char} {statements : List Statement}
    (h : statements? fuel chars = some statements) : ∀ statement ∈ statements, statement.Long := by
  induction fuel generalizing chars statements with
  | zero => cases h
  | succ fuel ih =>
    rw [statements?] at h
    split at h
    · obtain rfl := Option.some.inj h
      exact fun _ hmem => absurd hmem List.not_mem_nil
    · split at h
      · exact ih h
      · obtain ⟨⟨statement, rest⟩, hstatement, h⟩ := Option.bind_eq_some_iff.mp h
        obtain ⟨next, -, h⟩ := Option.bind_eq_some_iff.mp h
        obtain ⟨later, hlater, heq⟩ := Option.bind_eq_some_iff.mp h
        obtain rfl := Option.some.inj heq
        intro other hmem
        rcases List.mem_cons.mp hmem with rfl | hmem
        · exact long_of_statement? hstatement
        · exact ih hlater other hmem

/-- The integers of every document that can be read are of 64 bits. -/
theorem long_of_parse? {text : String} {value : Toml} (h : parse? text = some value) :
    value.Long := by
  obtain ⟨statements, hstatements, hvalue⟩ := Option.bind_eq_some_iff.mp h
  exact long_of_ofStatements? (long_of_statements? hstatements) hvalue

/-! ### Members -/

theorem Long.member? {value : Toml} (h : value.Long) {names : List String} {name : String}
    {member : Toml} (hmember : value.member? names name = some member) : member.Long := by
  cases h with
  | table hentries =>
    obtain ⟨before, after, rfl, -⟩ := List.lookup_eq_some_iff.mp hmember
    exact hentries (name, member) (by simp)
  | array hitems => exact hitems member (List.mem_of_getElem? hmember)
  | string => cases hmember
  | integer => cases hmember
  | float => cases hmember
  | boolean => cases hmember
  | datetime => cases hmember

end SensorGateway.Toml
