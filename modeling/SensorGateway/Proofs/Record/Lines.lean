import Mathlib.Data.List.Basic
import SensorGateway.Proofs.Text.Utf8
import SensorGateway.Record.Lines

/-!
# `SensorGateway.Proofs.Record.Lines`: what reaches the output

The bytes of a line are written in pieces, and what a writer accepted of them
stays in the output when a later piece, or the flush, fails.

* `flatten_linePieces`: the pieces of a line are the line.
* `MayLeave` says what a call may leave in the output: all bytes of its line
  if it says that the record is kept, and the first of them otherwise.
* `output_storeAll`: the output grows by what the calls leave, in their
  order. It grows by the lines of the records that are kept, and by nothing
  else, exactly when no failing call leaves anything.
* `exists_trace_of_failure`: a failing call may leave all of its line, so
  that the record is there twice after another attempt, or the first bytes of
  it, in front of the next line, with one half of a character at their end.
-/

set_option autoImplicit false

namespace SensorGateway

namespace Json

/-! ### The pieces of a line -/

/-- The fragments of characters are what stands for these inside quotes, behind
the characters that came before. -/
theorem flatten_fragments (run chars : List Char) :
    (fragments run chars).flatten = run ++ chars.flatMap escape := by
  have hended : ∀ run, (fragments.ended run).flatten = run := by
    intro run
    unfold fragments.ended
    split
    · next hnil => rw [hnil, List.flatten_nil]
    · exact List.flatten_singleton
  induction chars generalizing run with
  | nil => rw [fragments, hended, List.flatMap_nil, List.append_nil]
  | cons c rest ih =>
    rw [fragments, List.flatMap_cons]
    split
    · next hself => rw [ih, hself, List.append_assoc]
    · rw [List.flatten_append, hended, List.flatten_cons, ih, List.nil_append]

/-- The pieces of a text in quotes are the text in quotes. -/
@[simp]
theorem flatten_quotedPieces (text : String) : (quotedPieces text).flatten = quoted text := by
  simp [quotedPieces, flatten_fragments, quoted]

/-- Groups of pieces with a comma between them are their texts with a comma
between them. -/
@[simp]
theorem flatten_separatedPieces (groups : List (List (List Char))) :
    (separatedPieces groups).flatten = separated (groups.map List.flatten) := by
  induction groups with
  | nil => rfl
  | cons first rest ih =>
    cases rest with
    | nil => simp [separatedPieces, separated]
    | cons second rest =>
      have hpieces : separatedPieces (first :: second :: rest) =
          first ++ [','] :: separatedPieces (second :: rest) := by
        simp [separatedPieces]
      rw [hpieces, List.flatten_append, List.flatten_cons, ih]
      simp [separated]

/-- The pieces of a value are the value. -/
@[simp]
theorem flatten_valuePieces (v : Value) : (valuePieces v).flatten = value v := by
  cases v with
  | bytes data => simp [valuePieces, value, Function.comp_def]
  | _ => exact List.flatten_singleton

@[simp]
theorem flatten_entryPieces (key : String) (pieces : List (List Char)) :
    (entryPieces key pieces).flatten = entry key pieces.flatten := by
  simp [entryPieces, entry]

@[simp]
theorem flatten_objectPieces (members : List (List (List Char))) :
    (objectPieces members).flatten = object (members.map List.flatten) := by
  simp [objectPieces, object]

/-- The pieces of a record's object are the object. -/
@[simp]
theorem flatten_recordPieces (record : Record) :
    (recordPieces record).flatten = Json.record record := by
  simp [recordPieces, Json.record, Function.comp_def]

/-- The pieces of a line are the line. -/
theorem flatten_linePieces (source : String) (record : Record) :
    (linePieces source record).flatten = line source record := by
  simp [linePieces, line]

end Json

namespace LineWriter

/-! ### Single calls -/

/-- A write adds a beginning of its piece to the output, and all of it if it
succeeds. -/
theorem accepted_write (writer : LineWriter) (piece : Bytes) :
    ∃ accepted, (writer.write piece).2.accepted = writer.accepted ++ accepted ∧
      accepted <+: piece ∧ ((writer.write piece).1 = true → accepted = piece) := by
  unfold write
  simp only
  split
  · exact ⟨_, rfl, List.take_prefix _ _, fun h => by cases h⟩
  · exact ⟨piece, rfl, List.prefix_rfl, fun _ => rfl⟩

/-- Pieces add a beginning of all of them together. Induction over the
pieces: they are written up to the first that fails. -/
theorem accepted_writeAll (writer : LineWriter) (pieces : List Bytes) :
    ∃ accepted, (writer.writeAll pieces).2.accepted = writer.accepted ++ accepted ∧
      accepted <+: pieces.flatten ∧
      ((writer.writeAll pieces).1 = true → accepted = pieces.flatten) := by
  induction pieces generalizing writer with
  | nil => exact ⟨[], by simp [writeAll], List.prefix_rfl, fun _ => rfl⟩
  | cons piece rest ih =>
    obtain ⟨first, hfirst, hprefix, hall⟩ := writer.accepted_write piece
    rw [writeAll, List.flatten_cons]
    cases hwrite : writer.write piece with
    | mk succeeded after =>
      rw [hwrite] at hfirst hall
      cases succeeded with
      | false => exact ⟨first, hfirst, hprefix.trans (List.prefix_append _ _), fun h => by cases h⟩
      | true =>
        obtain ⟨others, hothers, hprefix', hall'⟩ := ih after
        have hpiece : first = piece := hall rfl
        subst hpiece
        refine ⟨first ++ others, ?_, (List.prefix_append_right_inj first).mpr hprefix', ?_⟩
        · rw [hothers, hfirst, List.append_assoc]
        · intro h
          rw [hall' h]

/-- What a call may leave in the output, given what it says. -/
structure MayLeave (source : String) (record : Record) (isKept : Bool) (trace : Bytes) :
    Prop where
  /-- The first bytes of its line. -/
  trace_prefix : trace <+: Text.encoded (Json.line source record)
  /-- All of its line, if it says that the record is kept. -/
  trace_eq : isKept = true → trace = Text.encoded (Json.line source record)

/-- What a call leaves in the output. -/
def trace (writer : LineWriter) (source : String) (record : Record) : Bytes :=
  (writer.store source record).2.accepted.drop writer.accepted.length

/-- A call only adds to the output, and it adds what it may leave. -/
theorem accepted_store (writer : LineWriter) (source : String) (record : Record) :
    (writer.store source record).2.accepted = writer.accepted ++ writer.trace source record ∧
      MayLeave source record (writer.store source record).1 (writer.trace source record) := by
  obtain ⟨accepted, houtput, hprefix, hall⟩ :=
    writer.accepted_writeAll ((Json.linePieces source record).map Text.encoded)
  rw [← Text.encoded_flatten, Json.flatten_linePieces] at hprefix hall
  -- The flush accepts nothing more, but may spoil the success.
  have hstore : (writer.store source record).2.accepted = writer.accepted ++ accepted ∧
      ((writer.store source record).1 = true →
        (writer.writeAll ((Json.linePieces source record).map Text.encoded)).1 = true) := by
    unfold store
    cases hwrite : writer.writeAll ((Json.linePieces source record).map Text.encoded) with
    | mk succeeded after =>
      rw [hwrite] at houtput
      cases succeeded with
      | false => exact ⟨houtput, id⟩
      | true => exact ⟨houtput, fun _ => rfl⟩
  have htrace : writer.trace source record = accepted := by
    rw [trace, hstore.1, List.drop_left]
  rw [htrace]
  exact ⟨hstore.1, hprefix, fun h => hall (hstore.2 h)⟩

/-! ### Whole runs -/

/-- What each call of a run leaves in the output. -/
def traces (writer : LineWriter) : List (String × Record) → List Bytes
  | [] => []
  | (source, record) :: rest =>
    writer.trace source record :: (writer.store source record).2.traces rest

/-- What the calls of a run may leave in the output. -/
inductive MayLeaveAll : List (String × Record) → List Bool → List Bytes → Prop where
  | nil : MayLeaveAll [] [] []
  | cons {source : String} {record : Record} {isKept : Bool} {trace : Bytes}
    {calls : List (String × Record)} {verdicts : List Bool} {traces : List Bytes}
    (hfirst : MayLeave source record isKept trace) (hrest : MayLeaveAll calls verdicts traces) :
    MayLeaveAll ((source, record) :: calls) (isKept :: verdicts) (trace :: traces)

/-- The lines of the records of which the calls say that they are kept. -/
def keptLines : List (String × Record) → List Bool → Bytes
  | (source, record) :: calls, isKept :: verdicts =>
    (if isKept then Text.encoded (Json.line source record) else []) ++ keptLines calls verdicts
  | _, _ => []

/-- No call that says that its record is not kept leaves anything. -/
def Traceless (verdicts : List Bool) (traces : List Bytes) : Prop :=
  ∀ entry ∈ verdicts.zip traces, entry.1 = false → entry.2 = []

theorem traceless_cons (isKept : Bool) (trace : Bytes) (verdicts : List Bool)
    (traces : List Bytes) :
    Traceless (isKept :: verdicts) (trace :: traces) ↔
      (isKept = false → trace = []) ∧ Traceless verdicts traces := by
  simp [Traceless]

/-- The traces are at least as long as the lines of kept records. -/
theorem MayLeaveAll.length_keptLines_le {calls : List (String × Record)} {verdicts : List Bool}
    {traces : List Bytes} (h : MayLeaveAll calls verdicts traces) :
    (keptLines calls verdicts).length ≤ traces.flatten.length := by
  induction h with
  | nil => simp [keptLines]
  | @cons _ _ isKept _ _ _ _ hfirst hrest ih =>
    rw [keptLines, List.flatten_cons, List.length_append, List.length_append]
    cases isKept with
    | false => exact Nat.add_le_add (Nat.zero_le _) ih
    | true =>
      rw [hfirst.trace_eq rfl]
      exact Nat.add_le_add_left ih _

/-- The traces are the lines of kept records and nothing else exactly when
failing calls leave none: what they leave would make the traces longer than
these lines. -/
theorem MayLeaveAll.flatten_eq_iff {calls : List (String × Record)} {verdicts : List Bool}
    {traces : List Bytes} (h : MayLeaveAll calls verdicts traces) :
    traces.flatten = keptLines calls verdicts ↔ Traceless verdicts traces := by
  induction h with
  | nil => simp [keptLines, Traceless]
  | @cons _ _ isKept trace _ _ _ hfirst hrest ih =>
    rw [keptLines, List.flatten_cons, traceless_cons, ← ih]
    cases isKept with
    | true =>
      rw [hfirst.trace_eq rfl, if_pos rfl, List.append_right_inj]
      simp
    | false =>
      have hle := hrest.length_keptLines_le
      rw [if_neg Bool.false_ne_true, List.nil_append]
      constructor
      · intro heq
        have hlength := congrArg List.length heq
        rw [List.length_append] at hlength
        have htrace : trace = [] := List.eq_nil_of_length_eq_zero (by omega)
        subst htrace
        exact ⟨fun _ => rfl, heq⟩
      · rintro ⟨htrace, heq⟩
        rw [htrace rfl, List.nil_append, heq]

/-- The calls of a run leave what they may leave, in their order. Induction
over the calls: each starts with the writer that the one before left. -/
theorem accepted_storeAll (writer : LineWriter) (calls : List (String × Record)) :
    (writer.storeAll calls).2.accepted = writer.accepted ++ (writer.traces calls).flatten ∧
      MayLeaveAll calls (writer.storeAll calls).1 (writer.traces calls) := by
  induction calls generalizing writer with
  | nil => exact ⟨(List.append_nil _).symm, .nil⟩
  | cons call rest ih =>
    obtain ⟨source, record⟩ := call
    obtain ⟨houtput, hfirst⟩ := writer.accepted_store source record
    obtain ⟨hothers, hrest⟩ := ih (writer.store source record).2
    rw [storeAll, traces]
    refine ⟨?_, .cons hfirst hrest⟩
    simp only
    rw [hothers, houtput, List.flatten_cons, List.append_assoc]

/-- Whatever fails, the output grows by what the calls leave, in their
order: a call that says that its record is kept leaves all bytes of its line,
and one that says that it is not the first of them, which may be none and may
be all. So the output grows by the lines of the kept records
and nothing else exactly when no failing call leaves anything. -/
theorem output_storeAll (writer : LineWriter) (calls : List (String × Record)) :
    (writer.storeAll calls).2.accepted = writer.accepted ++ (writer.traces calls).flatten ∧
    MayLeaveAll calls (writer.storeAll calls).1 (writer.traces calls) ∧
    ((writer.storeAll calls).2.accepted =
        writer.accepted ++ keptLines calls (writer.storeAll calls).1 ↔
      Traceless (writer.storeAll calls).1 (writer.traces calls)) := by
  obtain ⟨houtput, hleave⟩ := writer.accepted_storeAll calls
  refine ⟨houtput, hleave, ?_⟩
  rw [houtput, List.append_right_inj]
  exact hleave.flatten_eq_iff

/-- A record that is sent twice, because the first attempt to keep it
failed. -/
def sentTwice : List (String × Record) := [("ü", Record.empty), ("ü", Record.empty)]

/-- If the flush fails, the record is in the output before it is sent
again, and twice afterwards. If the writer takes the first of the two bytes of
a character and no more, it stands at the end of half a line in front of the line
of the second attempt. -/
theorem exists_trace_of_failure :
    (∃ writer : LineWriter, writer.accepted = [] ∧
      (writer.storeAll sentTwice).1 = [false, true] ∧
      (writer.storeAll sentTwice).2.accepted = Text.encoded (Json.line "ü" Record.empty) ++
        Text.encoded (Json.line "ü" Record.empty)) ∧
    ∃ writer : LineWriter, writer.accepted = [] ∧
      (writer.storeAll sentTwice).1 = [false, true] ∧
      (writer.storeAll sentTwice).2.accepted =
        Text.encoded ['\x7b', '"', 's', 'o', 'u', 'r', 'c', 'e', '"', ':', '"'] ++
          [0xC3] ++ Text.encoded (Json.line "ü" Record.empty) :=
  ⟨⟨{ flushFails := fun n => n == 1 }, rfl, by decide, by decide⟩,
    { writeFails := fun n => n == 7, torn := fun _ => 1 }, rfl, by decide, by decide⟩

end LineWriter

end SensorGateway
