import SensorGateway.Proofs.Record.Lines
import SensorGateway.Proofs.Record.Reader

/-!
# `SensorGateway.Proofs.Record.ReadBack`: records read back from their lines

Whatever a source and the keys of a record contain, their line has one line feed,
at its end, and a reader of JSON finds in it what was stored.

* `Json.shown` is what a reader finds of a value, `reads_value` that he does.
* `newline_notMem_body`: no character breaks a line.
* `Flawless.storeAll`: a writer that does not fail takes one line for each record.
* `storeAll_readable`: and each of these lines says what was stored.
-/

set_option autoImplicit false

namespace SensorGateway

namespace Json

/-! ### Numbers -/

/-- All characters may stand in a number. -/
def AllNumeric (chars : List Char) : Prop := ∀ c ∈ chars, isNumeric c = true

theorem allNumeric_append (first second : List Char) :
    AllNumeric (first ++ second) ↔ AllNumeric first ∧ AllNumeric second := List.forall_mem_append

theorem allNumeric_cons (c : Char) (rest : List Char) :
    AllNumeric (c :: rest) ↔ isNumeric c = true ∧ AllNumeric rest := List.forall_mem_cons

theorem allNumeric_toDigits (n : Nat) : AllNumeric (Nat.toDigits 10 n) := by
  intro c hmem
  rw [isNumeric, Text.isDigit_of_mem_toDigits hmem, Bool.true_or]

theorem allNumeric_toString (n : Nat) : AllNumeric (toString n).toList := by
  rw [Text.toList_toString]
  exact allNumeric_toDigits n

theorem allNumeric_toString_int (n : Int) : AllNumeric (toString n).toList := by
  rw [Text.toList_toString_int]
  split
  · exact (allNumeric_cons _ _).mpr ⟨rfl, allNumeric_toDigits _⟩
  · exact allNumeric_toDigits _

theorem toString_ne_nil (n : Nat) : (toString n).toList ≠ [] := by
  rw [Text.toList_toString]
  exact Nat.toDigits_ne_nil

theorem toString_int_ne_nil (n : Int) : (toString n).toList ≠ [] := by
  rw [Text.toList_toString_int]
  split
  · exact List.cons_ne_nil _ _
  · exact Nat.toDigits_ne_nil

section

variable {digits : List Char}

theorem allNumeric_positionalText (h : AllNumeric digits) (wholeFraction : Bool)
    (exponent : Int) : AllNumeric (Floating.positionalText wholeFraction digits exponent) := by
  have hzeros (n : Nat) : AllNumeric (List.replicate n '0') := fun c hmem =>
    List.eq_of_mem_replicate hmem ▸ rfl
  have hfraction : AllNumeric (if wholeFraction then ['.', '0'] else []) := by
    cases wholeFraction <;> simp [AllNumeric, isNumeric]
  unfold Floating.positionalText
  split
  case isTrue =>
    simp only [allNumeric_append]
    exact ⟨⟨h, hzeros _⟩, hfraction⟩
  case isFalse =>
    simp only
    split
    -- The point stands among the digits, or zeros stand between it and them.
    case isTrue =>
      rw [allNumeric_append, allNumeric_cons]
      exact ⟨fun c hmem => h c (List.mem_of_mem_take hmem), rfl,
        fun c hmem => h c (List.mem_of_mem_drop hmem)⟩
    case isFalse =>
      simp only [allNumeric_cons, List.cons_append, allNumeric_append]
      exact ⟨rfl, rfl, hzeros _, h⟩

theorem positionalText_ne_nil (h : digits ≠ []) (wholeFraction : Bool) (exponent : Int) :
    Floating.positionalText wholeFraction digits exponent ≠ [] := by
  unfold Floating.positionalText
  split
  case isTrue => simp [h]
  case isFalse =>
    simp only
    split <;> simp

theorem allNumeric_scientificText (h : AllNumeric digits) (leading : Int) :
    AllNumeric (Floating.scientificText digits leading) := by
  have hsign : isNumeric (if leading < 0 then '-' else '+') = true := by
    split <;> rfl
  unfold Floating.scientificText
  simp only [allNumeric_append, allNumeric_cons]
  refine ⟨⟨fun c hmem => h c (List.mem_of_mem_take hmem), ?_⟩, rfl, hsign, allNumeric_toDigits _⟩
  split
  case h_1 => exact fun _ hmem => absurd hmem List.not_mem_nil
  case h_2 =>
    exact (allNumeric_cons _ _).mpr ⟨rfl, fun c hmem => h c (List.mem_of_mem_drop hmem)⟩

theorem scientificText_ne_nil (leading : Int) : Floating.scientificText digits leading ≠ [] := by
  unfold Floating.scientificText
  simp

end

/-- A number that is finite is written with characters that may stand in a number. -/
theorem allNumeric_print? {format : Floating.Format} {style : Floating.Style} {bits : Nat}
    {text : String} (h : format.print? style bits = some text) :
    text.toList ≠ [] ∧ AllNumeric text.toList := by
  -- Digits, points and exponents are numeric, whichever way they are put together.
  have hstyle (decimal : Floating.Decimal) :
      style.text decimal ≠ [] ∧ AllNumeric (style.text decimal) := by
    have hdigits := allNumeric_toDigits decimal.digits
    unfold Floating.Style.text
    cases style.positional with
    | none =>
      exact ⟨positionalText_ne_nil Nat.toDigits_ne_nil _ _, allNumeric_positionalText hdigits _ _⟩
    | some range =>
      simp only
      split
      · exact ⟨positionalText_ne_nil Nat.toDigits_ne_nil _ _,
          allNumeric_positionalText hdigits _ _⟩
      · exact ⟨scientificText_ne_nil _, allNumeric_scientificText hdigits _⟩
  unfold Floating.Format.print? at h
  cases hdatum : format.datum bits with
  | nan =>
    rw [hdatum] at h
    cases h
  | infinite negative =>
    rw [hdatum] at h
    cases h
  | finite negative significand exponent =>
    rw [hdatum] at h
    rw [← Option.some.inj h, String.toList_ofList]
    obtain ⟨hne, hall⟩ := hstyle (if significand = 0 then ⟨0, 0⟩
      else format.shortest style.tie significand exponent)
    cases negative with
    | false => exact ⟨hne, hall⟩
    | true => exact ⟨List.cons_ne_nil _ _, (allNumeric_cons _ _).mpr ⟨rfl, hall⟩⟩

/-! ### Values -/

/-- What a reader finds of a floating-point number: its text, or nothing if it is not
finite. -/
def shownReal (format : Floating.Format) (style : Floating.Style) (bits : Nat) : Tree :=
  match format.datum bits with
  | .finite _ _ _ => .number ((format.print? style bits).getD "")
  | .nan | .infinite _ => .null

/-- What a reader finds of a value. -/
def shown : Value → Tree
  | .int n => .number (toString n)
  | .uint n => .number (toString n)
  | .float bits => shownReal Floating.single Floating.singleJsonStyle bits.toNat
  | .double bits => shownReal Floating.double Floating.doubleJsonStyle bits.toNat
  | .bytes data => .array (data.map fun byte => .number (toString byte.toNat))
  | .null => .null

variable {depth : Nat}

theorem reads_real (format : Floating.Format) (style : Floating.Style) (bits : Nat) :
    Reads (readTree (depth + 1)) (value.number (format.print? style bits))
      (shownReal format style bits) := by
  cases hdatum : format.datum bits with
  | nan =>
    rw [shownReal, Floating.Format.print?, hdatum]
    exact reads_null
  | infinite negative =>
    rw [shownReal, Floating.Format.print?, hdatum]
    exact reads_null
  | finite negative significand exponent =>
    obtain ⟨text, hprint⟩ : ∃ text, format.print? style bits = some text := by
      rw [Floating.Format.print?, hdatum]
      exact ⟨_, rfl⟩
    obtain ⟨hne, hall⟩ := allNumeric_print? hprint
    rw [shownReal, hdatum, hprint]
    exact reads_number hne hall

/-- Every value is read as what is shown of it. An array is nested one deeper. -/
theorem reads_value (v : Value) : Reads (readTree (depth + 2)) (value v) (shown v) := by
  cases v with
  | int n => exact reads_number (toString_int_ne_nil n) (allNumeric_toString_int n)
  | uint n => exact reads_number (toString_ne_nil n) (allNumeric_toString n)
  | float bits => exact reads_real _ _ _
  | double bits => exact reads_real _ _ _
  | null => exact reads_null
  | bytes data =>
    refine reads_array ?_ ?_
    · rw [List.forall₂_map_left_iff, List.forall₂_map_right_iff, List.forall₂_same]
      intro byte _
      exact reads_number (toString_ne_nil _) (allNumeric_toString _)
    -- No number starts with a bracket.
    · intro text hmem
      obtain ⟨byte, -, rfl⟩ := List.mem_map.mp hmem
      obtain ⟨c, rest, heq⟩ := List.exists_cons_of_ne_nil (toString_ne_nil byte.toNat)
      have hnumeric : isNumeric c = true :=
        allNumeric_toString byte.toNat c (heq ▸ List.mem_cons_self)
      refine ⟨c, rest, heq, ?_⟩
      rintro rfl
      cases hnumeric

theorem opens_entry (key : String) (text : List Char) : Opens '\x7d' (entry key text) :=
  ⟨'"', _, rfl, by decide⟩

/-! ### Records and lines -/

/-- What a reader finds of a record: its keys in order, with what is shown of their
values. -/
def members (record : Record) : List (String × Tree) :=
  record.entries.map fun (key, v) => (key, shown v)

theorem map_fst_members (record : Record) : (members record).map Prod.fst = record.keys := by
  simp [members, Record.keys, Function.comp_def]

theorem reads_record (record : Record) :
    Reads (readTree (depth + 3)) (Json.record record) (.object (members record)) := by
  refine reads_object ?_ ?_
  · rw [members, List.forall₂_map_left_iff, List.forall₂_map_right_iff, List.forall₂_same]
    intro member _
    exact reads_entry (reads_value member.2) member.1
  · intro text hmem
    obtain ⟨member, -, rfl⟩ := List.mem_map.mp hmem
    exact opens_entry member.1 _

/-- A line without its line feed. -/
def body (source : String) (record : Record) : List Char :=
  object [entry "source" (quoted source), entry "record" (Json.record record)]

/-- A line says which source and which record it is of. -/
theorem parse?_body (source : String) (record : Record) :
    parse? (body source record) =
      some (.object [("source", .text source), ("record", .object (members record))]) := by
  -- An array in a record in a line: four levels, of which a reader knows more.
  refine parse?_eq_some (reads_object ?_ ?_)
  · exact .cons (reads_entry (reads_quoted source) "source")
      (.cons (reads_entry (reads_record record) "record") .nil)
  · intro text hmem
    obtain rfl | hmem := List.mem_cons.mp hmem
    · exact opens_entry _ _
    · obtain rfl := List.mem_singleton.mp hmem
      exact opens_entry _ _

/-! ### Line feeds -/

/-- No character is written with a line feed. -/
theorem newline_notMem_escape (c : Char) : '\n' ∉ escape c := by
  obtain ⟨letter, hescape, -, -, hne⟩ | ⟨hcontrol, hescape⟩ | ⟨-, -, hle, hescape⟩ := escape_cases c
  · rw [hescape]
    simp [Ne.symm hne]
  -- A line feed is a control character, but its number has none in it.
  · have hdigits : ∀ n : Fin 0x20, '\n' ∉
        ['\\', 'u', '0', '0', Nat.digitChar (n.val / 16), Nat.digitChar (n.val % 16)] := by decide
    rw [hescape]
    exact hdigits ⟨c.toNat, hcontrol⟩
  · rw [hescape, List.mem_singleton]
    rintro rfl
    exact absurd hle (by decide)

theorem newline_notMem_quoted (text : String) : '\n' ∉ quoted text := by
  simp only [quoted, List.cons_append, List.mem_cons, List.mem_append, List.mem_flatMap,
    List.not_mem_nil, or_false]
  rintro (h | ⟨c, -, h⟩ | h)
  · exact absurd h (by decide)
  · exact newline_notMem_escape c h
  · exact absurd h (by decide)

theorem newline_notMem_separated {texts : List (List Char)} (h : ∀ text ∈ texts, '\n' ∉ text) :
    '\n' ∉ separated texts := by
  induction texts with
  | nil => exact List.not_mem_nil
  | cons first rest ih =>
    obtain ⟨hfirst, hrest⟩ := List.forall_mem_cons.mp h
    cases rest with
    | nil => exact hfirst
    | cons second others =>
      show '\n' ∉ first ++ ',' :: separated (second :: others)
      simp only [List.mem_append, List.mem_cons, not_or]
      exact ⟨hfirst, by decide, ih hrest⟩

theorem newline_notMem_of_allNumeric {chars : List Char} (h : AllNumeric chars) :
    '\n' ∉ chars := fun hmem => nomatch h '\n' hmem

theorem newline_notMem_value (v : Value) : '\n' ∉ value v := by
  have hreal (format : Floating.Format) (style : Floating.Style) (bits : Nat) :
      '\n' ∉ value.number (format.print? style bits) := by
    cases hprint : format.print? style bits with
    | none => decide
    | some text => exact newline_notMem_of_allNumeric (allNumeric_print? hprint).2
  cases v with
  | int n => exact newline_notMem_of_allNumeric (allNumeric_toString_int n)
  | uint n => exact newline_notMem_of_allNumeric (allNumeric_toString n)
  | float bits => exact hreal _ _ _
  | double bits => exact hreal _ _ _
  | null => decide
  | bytes data =>
    have hitems : '\n' ∉ separated (data.map fun byte => (toString byte.toNat).toList) := by
      refine newline_notMem_separated fun text hmem => ?_
      obtain ⟨byte, -, rfl⟩ := List.mem_map.mp hmem
      exact newline_notMem_of_allNumeric (allNumeric_toString _)
    simpa [value] using hitems

theorem newline_notMem_entry (key : String) {text : List Char} (h : '\n' ∉ text) :
    '\n' ∉ entry key text := by
  simp only [entry, List.mem_append, List.mem_cons, not_or]
  exact ⟨newline_notMem_quoted key, by decide, h⟩

theorem newline_notMem_object {texts : List (List Char)} (h : ∀ text ∈ texts, '\n' ∉ text) :
    '\n' ∉ object texts := by
  simp only [object, List.cons_append, List.mem_cons, List.mem_append, List.not_mem_nil, or_false,
    not_or]
  exact ⟨by decide, newline_notMem_separated h, by decide⟩

/-- No character of a source or a key, and no value, breaks a line. -/
theorem newline_notMem_body (source : String) (record : Record) : '\n' ∉ body source record := by
  have hrecord : '\n' ∉ Json.record record := by
    refine newline_notMem_object fun text hmem => ?_
    obtain ⟨member, -, rfl⟩ := List.mem_map.mp hmem
    exact newline_notMem_entry _ (newline_notMem_value _)
  refine newline_notMem_object fun text hmem => ?_
  obtain rfl | hmem := List.mem_cons.mp hmem
  · exact newline_notMem_entry _ (newline_notMem_quoted source)
  · obtain rfl := List.mem_singleton.mp hmem
    exact newline_notMem_entry _ hrecord

end Json

namespace LineWriter

/-! ### Writers that do not fail -/

/-- No call fails. -/
structure Flawless (writer : LineWriter) : Prop where
  writes : ∀ n, writer.writeFails n = false
  flushes : ∀ n, writer.flushFails n = false

/-- The later writer is the earlier one with more output. -/
structure Extends (writer : LineWriter) (bytes : Bytes) (later : LineWriter) : Prop where
  accepted_eq : later.accepted = writer.accepted ++ bytes
  writeFails_eq : later.writeFails = writer.writeFails
  flushFails_eq : later.flushFails = writer.flushFails

variable {writer later : LineWriter}

theorem Extends.flawless {bytes : Bytes} (h : writer.Extends bytes later)
    (hflawless : writer.Flawless) : later.Flawless :=
  ⟨h.writeFails_eq ▸ hflawless.writes, h.flushFails_eq ▸ hflawless.flushes⟩

theorem Extends.trans {last : LineWriter} {first second : Bytes}
    (h : writer.Extends first later) (h' : later.Extends second last) :
    writer.Extends (first ++ second) last where
  accepted_eq := by rw [h'.accepted_eq, h.accepted_eq, List.append_assoc]
  writeFails_eq := h'.writeFails_eq.trans h.writeFails_eq
  flushFails_eq := h'.flushFails_eq.trans h.flushFails_eq

theorem Flawless.write (h : writer.Flawless) (piece : Bytes) :
    (writer.write piece).1 = true ∧ writer.Extends piece (writer.write piece).2 := by
  have hwrite : ¬ writer.writeFails (writer.writes + 1) = true := Bool.eq_false_iff.mp (h.writes _)
  rw [LineWriter.write, if_neg hwrite]
  exact ⟨rfl, rfl, rfl, rfl⟩

/-- All pieces are written, one after the other. -/
theorem Flawless.writeAll (h : writer.Flawless) (pieces : List Bytes) :
    (writer.writeAll pieces).1 = true ∧
      writer.Extends pieces.flatten (writer.writeAll pieces).2 := by
  induction pieces generalizing writer with
  | nil => exact ⟨rfl, (List.append_nil _).symm, rfl, rfl⟩
  | cons piece rest ih =>
    obtain ⟨hwritten, hfirst⟩ := h.write piece
    rw [LineWriter.writeAll, List.flatten_cons]
    cases hwrite : writer.write piece with
    | mk succeeded later =>
      rw [hwrite] at hwritten hfirst
      obtain rfl : succeeded = true := hwritten
      obtain ⟨hrest, hothers⟩ := ih (hfirst.flawless h)
      exact ⟨hrest, hfirst.trans hothers⟩

/-- A record is kept as its line. -/
theorem Flawless.store (h : writer.Flawless) (source : String) (record : Record) :
    (writer.store source record).1 = true ∧
      writer.Extends (Text.encoded (Json.line source record)) (writer.store source record).2 := by
  obtain ⟨hwritten, hline⟩ := h.writeAll ((Json.linePieces source record).map Text.encoded)
  rw [← Text.encoded_flatten, Json.flatten_linePieces] at hline
  rw [LineWriter.store]
  cases hwrite : writer.writeAll ((Json.linePieces source record).map Text.encoded) with
  | mk succeeded later =>
    rw [hwrite] at hwritten hline
    obtain rfl : succeeded = true := hwritten
    -- The flush accepts nothing more.
    have hflush : later.flushFails (later.flushes + 1) = false := (hline.flawless h).flushes _
    refine ⟨?_, hline.accepted_eq, hline.writeFails_eq, hline.flushFails_eq⟩
    show (!later.flushFails (later.flushes + 1)) = true
    rw [hflush]
    rfl

/-- Records are kept as their lines, in order. Induction over the calls: each leaves
a writer that does not fail either. -/
theorem Flawless.storeAll (h : writer.Flawless) (calls : List (String × Record)) :
    (writer.storeAll calls).1 = calls.map (fun _ => true) ∧
      writer.Extends (Text.encoded (calls.flatMap fun call => Json.line call.1 call.2))
        (writer.storeAll calls).2 := by
  induction calls generalizing writer with
  | nil => exact ⟨rfl, (List.append_nil _).symm, rfl, rfl⟩
  | cons call rest ih =>
    obtain ⟨source, record⟩ := call
    obtain ⟨hstored, hfirst⟩ := h.store source record
    obtain ⟨hrest, hothers⟩ := ih (hfirst.flawless h)
    rw [LineWriter.storeAll, List.flatMap_cons, List.map_cons, Text.encoded_append]
    exact ⟨congrArg₂ _ hstored hrest, hfirst.trans hothers⟩

/-! ### Lines read back -/

/-- A line without its line feed says what was stored. -/
structure Says (call : String × Record) (line : List Char) : Prop where
  /-- No line feed is in it. -/
  newline_notMem : '\n' ∉ line
  /-- A reader finds the source and the members of the record under the two keys of
  every line. -/
  parse? : Json.parse? line =
    some (.object [("source", .text call.1), ("record", .object (Json.members call.2))])
  /-- The members have the keys of the record in order, each once. -/
  keys : (Json.members call.2).map Prod.fst = call.2.keys ∧ call.2.keys.Nodup

theorem says_body (call : String × Record) : Says call (Json.body call.1 call.2) :=
  ⟨Json.newline_notMem_body _ _, Json.parse?_body _ _, Json.map_fst_members _, call.2.nodup⟩

/-- Parts that do not contain what ends them are what the whole is split into. -/
theorem splitOn_flatten_ended {α : Type} [BEq α] [LawfulBEq α] {ending : α} {parts : List (List α)}
    (h : ∀ part ∈ parts, ending ∉ part) :
    (parts.map (· ++ [ending])).flatten.splitOn ending = parts ++ [[]] := by
  induction parts with
  | nil => exact List.splitOn_nil _
  | cons part rest ih =>
    obtain ⟨hpart, hrest⟩ := List.forall_mem_cons.mp h
    rw [List.map_cons, List.flatten_cons, List.append_assoc, List.singleton_append,
      List.splitOn_append_cons_self_of_not_mem hpart, ih hrest, List.cons_append]

/-- The bytes of lines are those of each line and a line feed. -/
theorem encoded_lines (lines : List (List Char)) :
    Text.encoded (lines.map (· ++ ['\n'])).flatten =
      ((lines.map Text.encoded).map (· ++ [10])).flatten := by
  rw [Text.encoded_flatten, List.map_map, List.map_map]
  congr 1
  refine List.map_congr_left fun line _ => ?_
  exact Text.encoded_append line ['\n']

/-- Record lines are never broken by their content. A writer that does not fail keeps
every record, and takes the bytes of one line for each, in order, that ends with the
only line feed in it, among its characters and among its bytes. A reader finds in it the
source and the record. -/
theorem storeAll_readable {writer : LineWriter} (h : writer.Flawless)
    (calls : List (String × Record)) :
    (writer.storeAll calls).1 = calls.map (fun _ => true) ∧
    ∃ (lines : List (List Char)) (text : String),
      (writer.storeAll calls).2.accepted = writer.accepted ++ Text.utf8 text ∧
      text.toList = (lines.map (· ++ ['\n'])).flatten ∧
      text.toList.splitOn '\n' = lines ++ [[]] ∧
      (Text.utf8 text).splitOn 10 = lines.map Text.encoded ++ [[]] ∧
      List.Forall₂ Says calls lines := by
  obtain ⟨hstored, hbytes⟩ := h.storeAll calls
  let lines := calls.map fun call => Json.body call.1 call.2
  have hlines : (calls.flatMap fun call => Json.line call.1 call.2) =
      (lines.map (· ++ ['\n'])).flatten := by
    rw [List.flatMap_def, List.map_map]
    rfl
  have hnewline : ∀ line ∈ lines, '\n' ∉ line := by
    intro line hmem
    obtain ⟨call, -, rfl⟩ := List.mem_map.mp hmem
    exact Json.newline_notMem_body _ _
  -- No other character has the byte of a line feed in it.
  have hbyte : ∀ bytes ∈ lines.map Text.encoded, 10 ∉ bytes := by
    intro bytes hmem
    obtain ⟨line, hline, rfl⟩ := List.mem_map.mp hmem
    rw [Text.newline_mem_encoded_iff]
    exact hnewline line hline
  have htext : Text.utf8 (String.ofList (lines.map (· ++ ['\n'])).flatten) =
      Text.encoded (lines.map (· ++ ['\n'])).flatten := by
    rw [Text.utf8_eq_encoded, String.toList_ofList]
  rw [hlines] at hbytes
  refine ⟨hstored, lines, String.ofList (lines.map (· ++ ['\n'])).flatten, ?_, ?_, ?_, ?_, ?_⟩
  · rw [htext]
    exact hbytes.accepted_eq
  · exact String.toList_ofList
  · rw [String.toList_ofList]
    exact splitOn_flatten_ended hnewline
  · rw [htext, encoded_lines]
    exact splitOn_flatten_ended hbyte
  · rw [List.forall₂_map_right_iff, List.forall₂_same]
    exact fun call _ => says_body call

/-- What was accepted is shown as the text that it is of. -/
theorem output_eq {text : String} (h : writer.accepted = Text.utf8 text) :
    writer.output = text.toList := by
  rw [output, h, Text.ofUtf8?_utf8, Option.getD_some]

/-- A source with quotes and a line feed, and keys that would end a member or a line. -/
def hostile : List (String × Record) :=
  [("a\"\nb", Record.ofList [("k\":1,\"l", .int (-5)), ("\r\n\\", .bytes [0, 255])]),
    ("", Record.ofList [("nan", .float 0x7FC00000)])]

/-- They break no line. -/
theorem storeAll_readable_hostile :
    Flawless {} ∧ (storeAll {} hostile).1 = [true, true] ∧
    ∃ lines, lines.length = 2 ∧ (storeAll {} hostile).2.output.splitOn '\n' = lines ++ [[]] ∧
      List.Forall₂ Says hostile lines := by
  have hflawless : Flawless {} := ⟨fun _ => rfl, fun _ => rfl⟩
  obtain ⟨hstored, lines, text, haccepted, -, hsplit, -, hsays⟩ :=
    storeAll_readable hflawless hostile
  refine ⟨hflawless, hstored, lines, hsays.length_eq.symm, ?_, hsays⟩
  rw [output_eq haccepted]
  exact hsplit

end LineWriter

end SensorGateway
