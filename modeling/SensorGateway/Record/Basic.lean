import SensorGateway.Record.Value

/-!
# `SensorGateway.Record.Basic`: values under keys, in order

A record is a list of keys with their values in which no key occurs
twice. Inserting under a key that is there replaces its value in place;
a new key goes to the end.
-/

set_option autoImplicit false

namespace SensorGateway

/-- Puts a value under a key: in place if the key is there, else at the
end. -/
def upsert (key : String) (value : Value) : List (String × Value) → List (String × Value)
  | [] => [(key, value)]
  | (k, v) :: rest => if k = key then (key, value) :: rest else (k, v) :: upsert key value rest

/-- The keys after an insertion: the same ones if the key was there, else
the new one behind them. -/
theorem keys_upsert (key : String) (value : Value) (entries : List (String × Value)) :
    (upsert key value entries).map Prod.fst =
      if key ∈ entries.map Prod.fst then entries.map Prod.fst
      else entries.map Prod.fst ++ [key] := by
  induction entries with
  | nil => simp [upsert]
  | cons entry rest ih =>
    obtain ⟨k, v⟩ := entry
    by_cases h : k = key
    · simp [upsert, h]
    · have h' : ¬ key = k := fun hk => h hk.symm
      simp only [upsert, h, if_false, List.map_cons, ih, List.mem_cons, h', false_or]
      split <;> simp

/-- Keys that occur once still do after an insertion. -/
theorem nodup_keys_upsert {key : String} {value : Value} {entries : List (String × Value)}
    (h : (entries.map Prod.fst).Nodup) : ((upsert key value entries).map Prod.fst).Nodup := by
  rw [keys_upsert]
  split
  · exact h
  · next hnew =>
    rw [List.nodup_append]
    refine ⟨h, by simp, ?_⟩
    intro a ha b hb hab
    simp only [List.mem_singleton] at hb
    exact hnew (hb ▸ hab ▸ ha)

/-- Values under keys, in the order in which the keys came. -/
structure Record where
  entries : List (String × Value)
  /-- No key occurs twice. -/
  nodup : (entries.map Prod.fst).Nodup
  deriving Repr, DecidableEq

namespace Record

/-- The record without entries. -/
def empty : Record := ⟨[], by simp⟩

/-- Puts a value under a key: in place if the key is there, else at the
end. -/
def insert (record : Record) (key : String) (value : Value) : Record :=
  ⟨upsert key value record.entries, nodup_keys_upsert record.nodup⟩

/-- The value under a key. -/
def get? (record : Record) (key : String) : Option Value := record.entries.lookup key

/-- The keys in order. -/
def keys (record : Record) : List String := record.entries.map Prod.fst

/-- How many keys there are. -/
def size (record : Record) : Nat := record.entries.length

/-- The integer under a key. -/
def int64? (record : Record) (key : String) : Option Int :=
  (record.get? key).bind Value.asInt64?

/-- Null in place of every NaN. -/
def nullNaNs (record : Record) : Record where
  entries := record.entries.map fun (key, value) => (key, value.nullNaN)
  nodup := by
    have h : (record.entries.map fun (key, value) => (key, value.nullNaN)).map Prod.fst =
        record.entries.map Prod.fst := by simp [Function.comp_def]
    rw [h]
    exact record.nodup

/-- Inserts entries one after the other. -/
def ofList (entries : List (String × Value)) : Record :=
  entries.foldl (fun record (key, value) => record.insert key value) empty

end Record

end SensorGateway
