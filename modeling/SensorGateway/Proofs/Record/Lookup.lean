import SensorGateway.Record.Basic

/-!
# `SensorGateway.Proofs.Record.Lookup`: what a record holds

`Record.get?` and `Record.keys` say everything about a record. Here is
what the operations do to both:

* `get?_insert` and `keys_insert`: an insertion gives its key the new
  value, leaves every other key alone, and puts only a new key behind the
  others.
* `get?_nullNaNs` and `keys_nullNaNs`: removing NaN changes values, not
  keys, and `int64?_nullNaNs`: it changes no integer.
* `get?_eq_none_iff`: exactly the keys of a record have a value.
-/

set_option autoImplicit false

namespace SensorGateway

/-! ### Lists of entries -/

/-- The first entry decides if it stands under the key. -/
theorem lookup_cons_ite (key k : String) (value : Value) (rest : List (String × Value)) :
    ((key, value) :: rest).lookup k = if k = key then some value else rest.lookup k := by
  rw [List.lookup_cons]
  by_cases hk : k = key
  · simp [hk]
  · simp [hk, beq_false_of_ne hk]

/-- Lookup after `upsert`, by induction on the entries in front of the
key. -/
theorem lookup_upsert (key k : String) (value : Value) (entries : List (String × Value)) :
    (upsert key value entries).lookup k = if k = key then some value else entries.lookup k := by
  induction entries with
  | nil => exact lookup_cons_ite key k value []
  | cons entry rest ih =>
    obtain ⟨name, old⟩ := entry
    by_cases hname : name = key
    · -- The key stands here: its value is replaced in place.
      subst hname
      rw [upsert, if_pos rfl, lookup_cons_ite, lookup_cons_ite]
      by_cases hk : k = name <;> simp [hk]
    · rw [upsert, if_neg hname, lookup_cons_ite, lookup_cons_ite, ih]
      by_cases hk : k = name
      · subst hk
        simp [hname]
      · simp [hk]

/-- Lookup after a change of all values. -/
theorem lookup_map_values (change : Value → Value) (entries : List (String × Value))
    (k : String) :
    (entries.map fun entry => (entry.1, change entry.2)).lookup k =
      (entries.lookup k).map change := by
  induction entries with
  | nil => rfl
  | cons entry rest ih =>
    obtain ⟨name, value⟩ := entry
    rw [List.map_cons, lookup_cons_ite, lookup_cons_ite, ih]
    by_cases hk : k = name <;> simp [hk]

/-- A key has a value exactly when an entry stands under it. -/
theorem lookup_eq_none_iff_notMem (entries : List (String × Value)) (k : String) :
    entries.lookup k = none ↔ k ∉ entries.map Prod.fst := by
  induction entries with
  | nil => simp
  | cons entry rest ih =>
    obtain ⟨name, value⟩ := entry
    rw [lookup_cons_ite, List.map_cons, List.mem_cons]
    by_cases hk : k = name
    · simp [hk]
    · rw [if_neg hk, ih]
      simp [hk]

namespace Record

/-- An insertion gives its key the new value and leaves all others
alone. -/
theorem get?_insert (record : Record) (key k : String) (value : Value) :
    (record.insert key value).get? k = if k = key then some value else record.get? k :=
  lookup_upsert key k value record.entries

@[simp]
theorem get?_insert_self (record : Record) (key : String) (value : Value) :
    (record.insert key value).get? key = some value := by
  rw [get?_insert, if_pos rfl]

theorem get?_insert_of_ne (record : Record) {key k : String} (value : Value) (h : k ≠ key) :
    (record.insert key value).get? k = record.get? k := by
  rw [get?_insert, if_neg h]

/-- An insertion puts a new key behind the others. -/
theorem keys_insert (record : Record) (key : String) (value : Value) :
    (record.insert key value).keys =
      if key ∈ record.keys then record.keys else record.keys ++ [key] :=
  keys_upsert key value record.entries

theorem keys_insert_of_mem {record : Record} {key : String} (value : Value)
    (h : key ∈ record.keys) : (record.insert key value).keys = record.keys := by
  rw [keys_insert, if_pos h]

/-- A key is in a record exactly when it has a value there. -/
theorem get?_eq_none_iff (record : Record) (key : String) :
    record.get? key = none ↔ key ∉ record.keys :=
  lookup_eq_none_iff_notMem record.entries key

/-- The keys of a record occur once each. -/
theorem nodup_keys (record : Record) : record.keys.Nodup := record.nodup

/-! ### NaN -/

/-- Removing NaN changes values. -/
theorem get?_nullNaNs (record : Record) (key : String) :
    record.nullNaNs.get? key = (record.get? key).map Value.nullNaN :=
  lookup_map_values Value.nullNaN record.entries key

/-- Removing NaN keeps the keys. -/
@[simp]
theorem keys_nullNaNs (record : Record) : record.nullNaNs.keys = record.keys := by
  simp [keys, nullNaNs, Function.comp_def]

/-- An integer is no NaN, and NaN is no integer. -/
theorem asInt64?_nullNaN (value : Value) : value.nullNaN.asInt64? = value.asInt64? := by
  cases value with
  | float bits =>
    unfold Value.nullNaN
    split <;> rfl
  | double bits =>
    unfold Value.nullNaN
    split <;> rfl
  | _ => rfl

/-- Removing NaN changes no integer. -/
theorem int64?_nullNaNs (record : Record) (key : String) :
    record.nullNaNs.int64? key = record.int64? key := by
  rw [int64?, int64?, get?_nullNaNs]
  cases record.get? key with
  | none => rfl
  | some value => exact asInt64?_nullNaN value

/-- The integer under a key depends on the value under it only. -/
theorem int64?_congr {a b : Record} {key : String} (h : a.get? key = b.get? key) :
    a.int64? key = b.int64? key := by
  rw [int64?, int64?, h]

end Record

end SensorGateway
