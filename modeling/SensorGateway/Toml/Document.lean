import SensorGateway.Toml.Basic

/-!
# `SensorGateway.Toml.Document`: tables from statements

A document is a list of statements: headers that open a table, headers
that open a further table of an array, and assignments of a value to a
dotted key inside the open table. `Node` is a document under
construction. It remembers of each table whether a header or only a
longer path has named it so far, because a table may be opened by a
header once, and dotted keys may only add to tables that dotted keys
made.
-/

set_option autoImplicit false

namespace SensorGateway.Toml

/-- What has named a table so far. -/
inductive Origin where
  /-- A header or the document itself. -/
  | header
  /-- A longer header. -/
  | path
  /-- A dotted key. -/
  | dottedKey
  deriving Repr, DecidableEq

/-- A document under construction. -/
inductive Node where
  /-- A finished value. -/
  | value (value : Toml)
  | table (origin : Origin) (entries : List (String × Node))
  /-- An array to which headers add tables, last one first. -/
  | tables (elements : List Node)
  deriving Inhabited

/-- The entries of a table under construction. -/
abbrev Entries := List (String × Node)

mutual

/-- The finished value. -/
def Node.toToml : Node → Toml
  | .value value => value
  | .table _ entries => .table (finishEntries entries)
  | .tables elements => .array (finishElements elements).reverse

def finishEntries : List (String × Node) → List (String × Toml)
  | [] => []
  | (key, node) :: rest => (key, node.toToml) :: finishEntries rest

def finishElements : List Node → List Toml
  | [] => []
  | node :: rest => node.toToml :: finishElements rest

end

/-- Puts a node under a key, in place if the key is there. -/
def setEntry (key : String) (node : Node) : Entries → Entries
  | [] => [(key, node)]
  | (k, old) :: rest => if k = key then (key, node) :: rest else (k, old) :: setEntry key node rest

/-- Changes the table at the end of a path. Tables that the path names for
the first time are created with the origin `fresh`. Through an array the
path goes to its last table, through a finished value it does not go. A
path of dotted keys does not go through a table that a header opened. -/
def changeAt (fresh : Origin) (change : Origin → Entries → Option Entries) :
    List String → Origin → Entries → Option Entries
  | [], origin, entries => change origin entries
  | key :: path, _, entries =>
    match entries.lookup key with
    | none => do
      let inner ← changeAt fresh change path fresh []
      some (setEntry key (.table fresh inner) entries)
    | some (.table origin inner) =>
      if fresh = .dottedKey ∧ origin = .header then none
      else do
        let inner ← changeAt fresh change path origin inner
        some (setEntry key (.table origin inner) entries)
    | some (.tables (.table origin inner :: earlier)) => do
      let inner ← changeAt fresh change path origin inner
      some (setEntry key (.tables (.table origin inner :: earlier)) entries)
    | some _ => none

/-- Opens a table by a header. A table that only longer headers have named
keeps what they put into it. -/
def openTable (key : String) (entries : Entries) : Option Entries :=
  match entries.lookup key with
  | none => some (setEntry key (.table .header []) entries)
  | some (.table .path inner) => some (setEntry key (.table .header inner) entries)
  | some _ => none

/-- Opens a further table of an array. -/
def openElement (key : String) (entries : Entries) : Option Entries :=
  match entries.lookup key with
  | none => some (setEntry key (.tables [.table .header []]) entries)
  | some (.tables elements) =>
    some (setEntry key (.tables (.table .header [] :: elements)) entries)
  | some _ => none

/-- Adds a value under a new key. A table that the path of a dotted key
leads to takes values only if a dotted key made it. -/
def addValue (dotted : Bool) (key : String) (value : Toml) (origin : Origin) (entries : Entries) :
    Option Entries :=
  if dotted ∧ origin ≠ .dottedKey then none
  else match entries.lookup key with
    | some _ => none
    | none => some (setEntry key (.value value) entries)

/-- Assigns a value to a dotted key inside a table. -/
def assign (path : List String) (key : String) (value : Toml) (origin : Origin)
    (entries : Entries) : Option Entries :=
  changeAt .dottedKey (addValue (!path.isEmpty) key value) path origin entries

/-- A statement of a document. Headers have at least one key. -/
inductive Statement where
  | table (path : List String) (key : String)
  | element (path : List String) (key : String)
  | assign (path : List String) (key : String) (value : Toml)

/-- The document so far and the path of the table that is open. -/
structure Builder where
  opened : List String
  entries : Entries

/-- Carries out a statement. -/
def Builder.step (builder : Builder) : Statement → Option Builder
  | .table path key => do
    let entries ← changeAt .path (fun _ => openTable key) path .header builder.entries
    some ⟨path ++ [key], entries⟩
  | .element path key => do
    let entries ← changeAt .path (fun _ => openElement key) path .header builder.entries
    some ⟨path ++ [key], entries⟩
  | .assign path key value => do
    let entries ← changeAt .path (Toml.assign path key value) builder.opened .header
      builder.entries
    some ⟨builder.opened, entries⟩

/-- The document that statements describe. -/
def ofStatements? (statements : List Statement) : Option Toml :=
  (statements.foldlM Builder.step ⟨[], []⟩).map fun builder =>
    .table (finishEntries builder.entries)

/-- The table that the assignments between braces describe. -/
def ofAssignments? (assignments : List (List String × String × Toml)) : Option Toml :=
  (assignments.foldlM (fun entries (path, key, value) => assign path key value .header entries)
    []).map fun entries => .table (finishEntries entries)

end SensorGateway.Toml
