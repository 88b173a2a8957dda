import Mathlib.Data.Finset.Card
import Mathlib.Data.List.Forall2
import Mathlib.Data.List.Induction
import SensorGateway.Proofs.Record.Lookup

/-!
# `SensorGateway.Proofs.Record.Insertion`: records as histories of insertions

A record is filled by insertions from the empty one on. `Record.ofList` is the
record after a list of them, and everything about it can be read off the list:

* `mem_keys_ofList` and `pairwise_keys_ofList`: its keys are the inserted ones,
  in the order in which they came first.
* `get?_ofList_of_last` and `get?_ofList_eq_none`: a key has the value that came
  last under it, and no value if none came.
* `size_ofList`: there is one entry for each different key.

An insertion under a known key changes the value of one entry where it stands
(`entries_insert_of_mem`), one under a new key appends an entry
(`entries_insert_of_notMem`). Removing NaN works entry by entry
(`forall₂_nullNaNs`) and has nothing left to do a second time
(`nullNaNs_nullNaNs`). `ofList_ordered` puts all of this together.
-/

set_option autoImplicit false

namespace SensorGateway

/-! ### One insertion, entry by entry -/

/-- Where the key stands, its value is replaced. A key that stands once only is
met once only. -/
theorem upsert_of_mem {key : String} {entries : List (String × Value)} (value : Value)
    (hnodup : (entries.map Prod.fst).Nodup) (h : key ∈ entries.map Prod.fst) :
    upsert key value entries =
      entries.map fun entry => if entry.1 = key then (key, value) else entry := by
  induction entries with
  | nil => simp at h
  | cons entry rest ih =>
    obtain ⟨name, old⟩ := entry
    obtain ⟨hfresh, hrest⟩ := List.nodup_cons.mp hnodup
    by_cases hname : name = key
    · -- The key stands here, and so nowhere behind.
      subst hname
      have hsame : rest.map (fun entry => if entry.1 = name then (name, value) else entry) =
          rest := by
        refine (List.map_congr_left ?_).trans (List.map_id rest)
        intro entry hmem
        have hmem' : entry.1 ∈ rest.map Prod.fst := List.mem_map_of_mem hmem
        have hne : entry.1 ≠ name := fun heq => hfresh (heq ▸ hmem')
        exact if_neg hne
      rw [upsert, if_pos rfl, List.map_cons, if_pos rfl, hsame]
    · have hlater : key ∈ rest.map Prod.fst := by
        rcases List.mem_cons.mp h with heq | hmem
        · exact absurd heq.symm hname
        · exact hmem
      rw [upsert, if_neg hname, List.map_cons, if_neg hname, ih hrest hlater]

/-- A key that stands nowhere is put behind all others. -/
theorem upsert_of_notMem {key : String} {entries : List (String × Value)} (value : Value)
    (h : key ∉ entries.map Prod.fst) : upsert key value entries = entries ++ [(key, value)] := by
  induction entries with
  | nil => rfl
  | cons entry rest ih =>
    obtain ⟨name, old⟩ := entry
    rw [List.map_cons, List.mem_cons, not_or] at h
    rw [upsert, if_neg (Ne.symm h.1), ih h.2, List.cons_append]

/-! ### NaN -/

/-- A floating-point number is NaN when its bits, without the sign, lie above those
of infinity. -/
inductive Value.NaN : Value → Prop
  | float {bits : UInt32} (h : 0x7F800000 < bits.toNat % 2 ^ 31) : NaN (.float bits)
  | double {bits : UInt64} (h : 0x7FF0000000000000 < bits.toNat % 2 ^ 63) : NaN (.double bits)

/-- NaN has all exponent bits set and a fraction: without its sign it exceeds
infinity. -/
theorem Floating.Format.isNaN_iff (format : Floating.Format) (bits : Nat) :
    format.isNaN bits = true ↔ format.infinity < bits % format.signWeight := by
  have hfield := Nat.mod_lt (bits / 2 ^ format.fractionBits) (Nat.two_pow_pos format.exponentBits)
  have hfraction := Nat.mod_lt bits (Nat.two_pow_pos format.fractionBits)
  have hmagnitude : bits % format.signWeight =
      bits % 2 ^ format.fractionBits +
        2 ^ format.fractionBits * (bits / 2 ^ format.fractionBits % 2 ^ format.exponentBits) := by
    rw [signWeight, Nat.add_comm, Nat.pow_add, Nat.mod_mul]
  rw [hmagnitude, infinity, Nat.mul_comm (2 ^ format.exponentBits - 1), isNaN, datum, beq_iff_eq]
  by_cases hones : bits / 2 ^ format.fractionBits % 2 ^ format.exponentBits =
      2 ^ format.exponentBits - 1
  · rw [if_pos hones, hones]
    by_cases hzero : bits % 2 ^ format.fractionBits = 0
    · simp [hzero]
    · simp only [if_neg hzero, true_iff]
      omega
  · -- A smaller exponent field leaves room for any fraction below infinity.
    have hless : bits / 2 ^ format.fractionBits % 2 ^ format.exponentBits + 1 ≤
        2 ^ format.exponentBits - 1 := by omega
    have hroom := Nat.mul_le_mul_left (2 ^ format.fractionBits) hless
    rw [Nat.mul_add_one] at hroom
    rw [if_neg hones]
    split <;> simp only [reduceCtorEq, false_iff] <;> omega

theorem Value.isNaN_iff (value : Value) : value.isNaN = true ↔ value.NaN := by
  cases value with
  | float bits =>
    show Floating.single.isNaN bits.toNat = true ↔ _
    rw [Floating.Format.isNaN_iff]
    constructor
    · exact NaN.float
    · intro h
      cases h with
      | _ h => exact h
  | double bits =>
    show Floating.double.isNaN bits.toNat = true ↔ _
    rw [Floating.Format.isNaN_iff]
    constructor
    · exact NaN.double
    · intro h
      cases h with
      | _ h => exact h
  | _ =>
    constructor <;> intro h <;> cases h

/-- Null is no NaN, so there is none left. -/
theorem Value.nullNaN_nullNaN (value : Value) : value.nullNaN.nullNaN = value.nullNaN := by
  by_cases h : value.isNaN = true
  · have hnull : value.nullNaN = .null := if_pos h
    rw [hnull]
    rfl
  · have hsame : value.nullNaN = value := if_neg h
    rw [hsame, hsame]

namespace Record

theorem ext_entries {a b : Record} (h : a.entries = b.entries) : a = b := by
  cases a
  cases b
  cases h
  rfl

/-! ### One insertion -/

theorem entries_insert_of_mem {record : Record} {key : String} (value : Value)
    (h : key ∈ record.keys) :
    (record.insert key value).entries =
      record.entries.map fun entry => if entry.1 = key then (key, value) else entry :=
  upsert_of_mem value record.nodup h

theorem entries_insert_of_notMem {record : Record} {key : String} (value : Value)
    (h : key ∉ record.keys) :
    (record.insert key value).entries = record.entries ++ [(key, value)] :=
  upsert_of_notMem value h

/-! ### Many insertions -/

theorem ofList_concat (inserts : List (String × Value)) (key : String) (value : Value) :
    ofList (inserts ++ [(key, value)]) = (ofList inserts).insert key value := by
  rw [ofList, List.foldl_append]
  rfl

/-- The keys are those that were inserted. -/
theorem mem_keys_ofList (inserts : List (String × Value)) (key : String) :
    key ∈ (ofList inserts).keys ↔ key ∈ inserts.map Prod.fst := by
  induction inserts using List.reverseRecOn with
  | nil => rfl
  | append_singleton inserts entry ih =>
    obtain ⟨name, value⟩ := entry
    rw [ofList_concat, keys_insert, List.map_append, List.mem_append, ← ih]
    by_cases hname : name ∈ (ofList inserts).keys
    · have hsame : key ∈ [name] → key ∈ (ofList inserts).keys := by
        intro hmem
        rw [List.mem_singleton.mp hmem]
        exact hname
      rw [if_pos hname]
      exact ⟨Or.inl, fun h => h.elim id hsame⟩
    · rw [if_neg hname, List.mem_append]
      rfl

/-- The keys stand in the order of their first insertions. Later insertions do not
change where a key was inserted first. -/
theorem pairwise_keys_ofList (inserts : List (String × Value)) :
    (ofList inserts).keys.Pairwise fun a b =>
      (inserts.map Prod.fst).idxOf a < (inserts.map Prod.fst).idxOf b := by
  induction inserts using List.reverseRecOn with
  | nil => exact List.Pairwise.nil
  | append_singleton inserts entry ih =>
    obtain ⟨name, value⟩ := entry
    have hfirst : ∀ a ∈ (ofList inserts).keys,
        ((inserts ++ [(name, value)]).map Prod.fst).idxOf a = (inserts.map Prod.fst).idxOf a := by
      intro a ha
      rw [List.map_append, List.idxOf_append_of_mem ((mem_keys_ofList inserts a).mp ha)]
    have hbefore : (ofList inserts).keys.Pairwise fun a b =>
        ((inserts ++ [(name, value)]).map Prod.fst).idxOf a <
          ((inserts ++ [(name, value)]).map Prod.fst).idxOf b := by
      refine ih.imp_of_mem ?_
      intro a b ha hb hlt
      rwa [hfirst a ha, hfirst b hb]
    rw [ofList_concat, keys_insert]
    split
    · exact hbefore
    · next hname =>
      -- A new key comes first at the very end.
      rw [List.pairwise_append]
      refine ⟨hbefore, List.pairwise_singleton _ _, ?_⟩
      intro a ha b hb
      obtain rfl := List.mem_singleton.mp hb
      have hnew : b ∉ inserts.map Prod.fst := fun hmem =>
        hname ((mem_keys_ofList inserts b).mpr hmem)
      rw [hfirst a ha, List.map_append, List.idxOf_append_of_notMem hnew]
      have hlt := List.idxOf_lt_length_of_mem ((mem_keys_ofList inserts a).mp ha)
      omega

/-- Insertions under other keys leave a key its value. -/
theorem get?_foldl_insert_of_notMem (record : Record) (inserts : List (String × Value))
    {key : String} (h : key ∉ inserts.map Prod.fst) :
    (inserts.foldl (fun record entry => record.insert entry.1 entry.2) record).get? key =
      record.get? key := by
  induction inserts generalizing record with
  | nil => rfl
  | cons entry rest ih =>
    rw [List.map_cons, List.mem_cons, not_or] at h
    rw [List.foldl_cons, ih _ h.2, get?_insert_of_ne record entry.2 h.1]

/-- The last insertion under a key gives it its value. -/
theorem get?_ofList_of_last {before after : List (String × Value)} {key : String} (value : Value)
    (h : key ∉ after.map Prod.fst) :
    (ofList (before ++ (key, value) :: after)).get? key = some value := by
  rw [ofList, List.foldl_append, List.foldl_cons]
  exact (get?_foldl_insert_of_notMem _ after h).trans (get?_insert_self _ key value)

theorem get?_ofList_eq_none {inserts : List (String × Value)} {key : String}
    (h : key ∉ inserts.map Prod.fst) : (ofList inserts).get? key = none :=
  (get?_eq_none_iff _ key).mpr fun hmem => h ((mem_keys_ofList inserts key).mp hmem)

/-- There is one entry for each different key. -/
theorem size_ofList (inserts : List (String × Value)) :
    (ofList inserts).size = (inserts.map Prod.fst).toFinset.card := by
  have hsame : (inserts.map Prod.fst).toFinset = (ofList inserts).keys.toFinset := by
    ext key
    rw [List.mem_toFinset, List.mem_toFinset, mem_keys_ofList]
  rw [hsame, List.toFinset_card_of_nodup (nodup_keys _), size, keys, List.length_map]

/-! ### Removing NaN -/

/-- Entry by entry the key stays, NaN becomes null, and every other value stays. -/
theorem forall₂_nullNaNs (record : Record) :
    List.Forall₂ (fun entry changed => changed.1 = entry.1 ∧
        (entry.2.NaN → changed.2 = .null) ∧ (¬ entry.2.NaN → changed.2 = entry.2))
      record.entries record.nullNaNs.entries := by
  show List.Forall₂ _ record.entries (record.entries.map fun entry => (entry.1, entry.2.nullNaN))
  rw [List.forall₂_map_right_iff, List.forall₂_same]
  intro entry _
  refine ⟨rfl, ?_, ?_⟩
  · intro hnan
    exact if_pos ((Value.isNaN_iff entry.2).mpr hnan)
  · intro hnumber
    exact if_neg fun hnan => hnumber ((Value.isNaN_iff entry.2).mp hnan)

theorem nullNaNs_nullNaNs (record : Record) : record.nullNaNs.nullNaNs = record.nullNaNs := by
  have hentries : record.nullNaNs.nullNaNs.entries = record.nullNaNs.entries := by
    show (record.entries.map fun entry => (entry.1, entry.2.nullNaN)).map
      (fun entry => (entry.1, entry.2.nullNaN)) = _
    rw [List.map_map]
    refine List.map_congr_left ?_
    intro entry _
    exact congrArg (entry.1, ·) (Value.nullNaN_nullNaN entry.2)
  exact ext_entries hentries

/-! ### Records in order of insertion -/

/-- A record is an insertion-ordered map. After any list of insertions each inserted
key is there once, in the order of the first insertions, with the value that came last
under it; the size counts different keys. A further insertion under a key that is
there changes that one value where it stands, one under a new key only appends.
Removing NaN replaces exactly the values that are NaN, where they stand, and all of
them at once. -/
theorem ofList_ordered (inserts : List (String × Value)) :
    let names := inserts.map Prod.fst
    let record := ofList inserts
    record.keys.Nodup ∧
    (∀ key, key ∈ record.keys ↔ key ∈ names) ∧
    record.keys.Pairwise (fun a b => names.idxOf a < names.idxOf b) ∧
    (∀ before key value after, inserts = before ++ (key, value) :: after →
      key ∉ after.map Prod.fst → record.get? key = some value) ∧
    (∀ key, key ∉ names → record.get? key = none) ∧
    record.size = names.toFinset.card ∧
    (∀ key value, key ∈ names → (record.insert key value).entries =
      record.entries.map fun entry => if entry.1 = key then (key, value) else entry) ∧
    (∀ key value, key ∉ names →
      (record.insert key value).entries = record.entries ++ [(key, value)]) ∧
    List.Forall₂ (fun entry changed => changed.1 = entry.1 ∧
        (entry.2.NaN → changed.2 = .null) ∧ (¬ entry.2.NaN → changed.2 = entry.2))
      record.entries record.nullNaNs.entries ∧
    record.nullNaNs.nullNaNs = record.nullNaNs := by
  intro names record
  have hmem : ∀ key, key ∈ record.keys ↔ key ∈ names := mem_keys_ofList inserts
  refine ⟨nodup_keys record, hmem, pairwise_keys_ofList inserts, ?latest, ?never,
    size_ofList inserts, ?known, ?new, forall₂_nullNaNs record, nullNaNs_nullNaNs record⟩
  case latest =>
    rintro before key value after hsplit hlast
    show (ofList inserts).get? key = some value
    rw [hsplit]
    exact get?_ofList_of_last value hlast
  case never => exact fun key hkey => get?_ofList_eq_none hkey
  case known => exact fun key value hkey => entries_insert_of_mem value ((hmem key).mpr hkey)
  case new =>
    exact fun key value hkey => entries_insert_of_notMem value fun h => hkey ((hmem key).mp h)

/-- A key inserted twice keeps its first place and has its second value. -/
example : (ofList [("a", .int 1), ("b", .int 2), ("a", .int 3)]).entries =
    [("a", .int 3), ("b", .int 2)] := by decide

end Record

end SensorGateway
