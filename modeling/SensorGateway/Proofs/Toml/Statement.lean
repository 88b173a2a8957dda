import SensorGateway.Proofs.Toml.Number

/-!
# `SensorGateway.Proofs.Toml.Statement`: statements written and read back

A document is written line by line, and read statement by statement.

* `value?_write`: a setting is read back as the value that it stands for
  (`Setting.toToml`), an array on one line as well as on several.
* `key?_append`: a bare key ends in front of the first character that no key has.
* `Lines text statements` says that a text consists of whole lines in which these
  statements are written, whatever follows. `lines_writeSection` and `lines_writeTable`
  put it together from single lines (`Lines.append`).

The readers take fuel. Arrays take one unit an item and documents one unit a line, and
each of these is at least one character long, so the length of the text is enough.
-/

set_option autoImplicit false

namespace SensorGateway.Toml

variable {rest : List Char}

/-! ### Values -/

/-- The value that a setting is written as. -/
def Setting.toToml : Setting → Toml
  | .text content => .string content
  | .integer n => .integer n
  | .integers items => .array (items.map .integer)

/-- A setting whose integers documents can hold. -/
def Setting.Fits : Setting → Prop
  | .text _ => True
  | .integer n => IsLong n
  | .integers items => ∀ n ∈ items, IsLong n

/-- A character that is not skipped. -/
def Stays (c : Char) : Prop := isSpace c = false ∧ c ≠ '\n' ∧ c ≠ '\r' ∧ c ≠ '#'

instance (c : Char) : Decidable (Stays c) := inferInstanceAs (Decidable (_ ∧ _))

/-- A character that a plain value may start with. -/
def Leads (c : Char) : Prop := Stays c ∧ c ≠ '[' ∧ c ≠ ']' ∧ c ≠ '\x7b'

instance (c : Char) : Decidable (Leads c) := inferInstanceAs (Decidable (_ ∧ _))

theorem writeText_cases (text : String) :
    ∃ c tail, writeText text = c :: tail ∧ (c = '"' ∨ c = '\'') := by
  unfold writeText
  dsimp only
  split
  · exact ⟨'"', _, rfl, .inl rfl⟩
  · split
    · exact ⟨'\'', _, rfl, .inr rfl⟩
    · split
      · exact ⟨'"', _, rfl, .inl rfl⟩
      · split
        · exact ⟨'\'', _, rfl, .inr rfl⟩
        · split
          · exact ⟨'"', _, rfl, .inl rfl⟩
          · exact ⟨'"', _, rfl, .inl rfl⟩

theorem scalarValue?_writeText (text : String) (hrest : Ends rest) :
    scalarValue? (writeText text ++ rest) = some (.string text, rest) := by
  obtain ⟨c, tail, heq, hc⟩ := writeText_cases text
  have hletter : ∀ letter others, letter ≠ '"' → letter ≠ '\'' →
      writeText text ++ rest ≠ letter :: others := by
    intro letter others hquote hapostrophe h
    rw [heq, List.cons_append] at h
    obtain rfl := (List.cons.inj h).1
    rcases hc with hc | hc
    · exact hquote hc
    · exact hapostrophe hc
  unfold scalarValue?
  split
  · next h => exact absurd h (hletter 't' _ (by decide) (by decide))
  · next h => exact absurd h (hletter 'f' _ (by decide) (by decide))
  · rw [text?_writeText text hrest]
    rfl

/-- What opens neither an array nor a table is read as a plain value. -/
theorem value?_cons {c : Char} (h : Leads c) (fuel depth : Nat) (chars : List Char) :
    value? (fuel + 1) depth (c :: chars) = scalarValue? (c :: chars) := by
  obtain ⟨-, harray, -, htable⟩ := h
  rw [value?]
  · intro _ heq
    exact harray (List.cons.inj heq).1
  · intro _ heq
    exact htable (List.cons.inj heq).1

theorem leads_toString (n : Int) : ∃ c tail, (toString n).toList = c :: tail ∧ Leads c := by
  obtain ⟨c, tail, heq, hc, -⟩ := toString_cases n
  refine ⟨c, tail, heq, ?_⟩
  rcases hc with hdigit | rfl
  · have hblank : c ≠ ' ' := ne_of_isDigit hdigit (by decide)
    have htab : c ≠ '\t' := ne_of_isDigit hdigit (by decide)
    have hspace : isSpace c = false := by simp [isSpace, hblank, htab]
    have hstays : Stays c := ⟨hspace, ne_of_isDigit hdigit (by decide),
      ne_of_isDigit hdigit (by decide), ne_of_isDigit hdigit (by decide)⟩
    exact ⟨hstays, ne_of_isDigit hdigit (by decide), ne_of_isDigit hdigit (by decide),
      ne_of_isDigit hdigit (by decide)⟩
  · decide

theorem leads_writeText (text : String) : ∃ c tail, writeText text = c :: tail ∧ Leads c := by
  obtain ⟨c, tail, heq, hc⟩ := writeText_cases text
  refine ⟨c, tail, heq, ?_⟩
  rcases hc with rfl | rfl <;> decide

theorem value?_toString {n : Int} (hn : IsLong n) (hrest : Ends rest) (fuel depth : Nat) :
    value? (fuel + 1) depth ((toString n).toList ++ rest) = some (.integer n, rest) := by
  obtain ⟨c, tail, heq, hc⟩ := leads_toString n
  rw [← scalarValue?_toString hn hrest, heq, List.cons_append, value?_cons hc]

theorem skipFiller_cons {c : Char} (h : Stays c) (chars : List Char) :
    skipFiller false (c :: chars) = c :: chars := by
  obtain ⟨hspace, hfeed, hreturn, hcomment⟩ := h
  rw [skipFiller, if_neg hfeed, if_neg (by decide), hspace, if_neg (by decide), if_neg hcomment]
  intro _ heq
  exact absurd heq hreturn

/-- One item of an array, behind what is skipped. What follows it decides how the array
goes on. -/
theorem items?_of_value? {start chars after : List Char} {c : Char} (hc : Leads c)
    (hskip : skipFiller false chars = c :: start) {fuel depth : Nat} {item : Toml}
    (hvalue : value? fuel depth (c :: start) = some (item, after)) :
    items? (fuel + 1) depth chars =
      match skipFiller false after with
      | ',' :: rest => (items? fuel depth rest).map fun (items, rest) => (item :: items, rest)
      | ']' :: rest => some ([item], rest)
      | _ => none := by
  obtain ⟨-, -, hclosed, -⟩ := hc
  rw [items?, hskip]
  split
  · next h => exact absurd (List.cons.inj h).1 hclosed
  · rw [hvalue]
    show (match skipFiller false after with
      | ',' :: rest => _
      | ']' :: rest => _
      | _ => none) = _
    split
    · next rest _ =>
      show (items? fuel depth rest).bind _ = _
      cases items? fuel depth rest <;> rfl
    · rfl
    · rfl

/-- The items of an array, each on a line of its own. -/
def itemLines (items : List Int) : List Char :=
  items.flatMap fun n => "    ".toList ++ (toString n).toList ++ [',', '\n']

theorem itemLines_cons (n : Int) (items : List Int) :
    itemLines (n :: items) =
      "    ".toList ++ ((toString n).toList ++ ',' :: '\n' :: itemLines items) := by
  simp [itemLines]

theorem length_le_length_itemLines (items : List Int) :
    items.length ≤ (itemLines items).length := by
  induction items with
  | nil => exact Nat.le_refl 0
  | cons n items ih =>
    rw [itemLines_cons]
    simp only [List.length_append, List.length_cons]
    omega

/-- The items of an array are read line by line, from the end of the line before. -/
theorem items?_itemLines {items : List Int} (hitems : ∀ n ∈ items, IsLong n) {fuel : Nat}
    (hfuel : items.length < fuel) (depth : Nat) (rest : List Char) :
    items? fuel depth ('\n' :: (itemLines items ++ ']' :: rest)) =
      some (items.map .integer, rest) := by
  induction items generalizing fuel with
  | nil =>
    obtain ⟨fuel, rfl⟩ := Nat.exists_eq_add_one_of_ne_zero (Nat.ne_of_gt hfuel)
    rfl
  | cons n items ih =>
    obtain ⟨fuel, rfl⟩ := Nat.exists_eq_add_one_of_ne_zero (Nat.ne_zero_of_lt hfuel)
    replace hfuel := Nat.lt_of_succ_lt_succ hfuel
    obtain ⟨fuel, rfl⟩ := Nat.exists_eq_add_one_of_ne_zero (Nat.ne_zero_of_lt hfuel)
    have hread := ih (fun m hm => hitems m (List.mem_cons_of_mem n hm)) hfuel
    have hends : Ends (',' :: '\n' :: (itemLines items ++ ']' :: rest)) :=
      ⟨',', _, rfl, .inr (.inl rfl)⟩
    have hvalue := value?_toString (hitems n List.mem_cons_self) hends fuel depth
    have hsplit : itemLines (n :: items) ++ ']' :: rest = "    ".toList ++
        ((toString n).toList ++ ',' :: '\n' :: (itemLines items ++ ']' :: rest)) := by
      simp [itemLines_cons]
    obtain ⟨c, tail, heq, hc⟩ := leads_toString n
    rw [heq, List.cons_append] at hvalue hsplit
    -- In front of an item stand the end of the line before and the indentation.
    have hskip : skipFiller false ('\n' :: (itemLines (n :: items) ++ ']' :: rest)) =
        c :: (tail ++ ',' :: '\n' :: (itemLines items ++ ']' :: rest)) := by
      rw [hsplit]
      exact skipFiller_cons hc.1 _
    rw [items?_of_value? hc hskip hvalue]
    show (items? (fuel + 1) depth ('\n' :: (itemLines items ++ ']' :: rest))).map _ = _
    rw [hread]
    rfl

theorem items?_singleton {n : Int} (hn : IsLong n) (fuel depth : Nat) (rest : List Char) :
    items? (fuel + 2) depth ((toString n).toList ++ ']' :: rest) = some ([.integer n], rest) := by
  obtain ⟨c, tail, heq, hc⟩ := leads_toString n
  have hends : Ends (']' :: rest) := ⟨']', rest, rfl, .inr (.inr rfl)⟩
  have hvalue := value?_toString hn hends fuel depth
  rw [heq, List.cons_append] at hvalue ⊢
  rw [items?_of_value? hc (skipFiller_cons hc.1 _) hvalue]
  rfl

theorem value?_array {fuel : Nat} {chars : List Char} {items : List Toml}
    (h : items? fuel 1 chars = some (items, rest)) :
    value? (fuel + 1) 0 ('[' :: chars) = some (.array items, rest) := by
  rw [value?, if_pos (by decide), h]
  rfl

/-- Fuel for each character is enough for an array, on one line or on several. -/
theorem value?_writeIntegers {items : List Int} (hitems : ∀ n ∈ items, IsLong n) {fuel : Nat}
    (hfuel : (writeIntegers items).length ≤ fuel) (rest : List Char) :
    value? (fuel + 1) 0 (writeIntegers items ++ rest) =
      some (.array (items.map .integer), rest) := by
  -- No item or one on the line of the brackets, more of them on lines of their own.
  obtain _ | ⟨n, _ | ⟨m, others⟩⟩ := items
  · obtain ⟨fuel, rfl⟩ := Nat.exists_eq_add_of_le' hfuel
    exact value?_array rfl
  · have hsplit : writeIntegers [n] ++ rest = '[' :: ((toString n).toList ++ ']' :: rest) := by
      simp [writeIntegers]
    obtain ⟨fuel, rfl⟩ : ∃ k, fuel = k + 2 := by
      refine Nat.exists_eq_add_of_le' (Nat.le_trans ?_ hfuel)
      simp [writeIntegers]
    rw [hsplit]
    exact value?_array (items?_singleton (hitems n List.mem_cons_self) fuel 1 rest)
  · have hsplit : ∀ after, writeIntegers (n :: m :: others) ++ after =
        '[' :: '\n' :: (itemLines (n :: m :: others) ++ ']' :: after) := by
      intro after
      simp [writeIntegers, itemLines]
    have hle := length_le_length_itemLines (n :: m :: others)
    have hlength := congrArg List.length (hsplit [])
    rw [List.append_nil] at hlength
    simp only [List.length_cons, List.length_append] at hlength hle
    rw [hsplit]
    exact value?_array (items?_itemLines hitems (by simp only [List.length_cons]; omega) 1 rest)

/-- Every setting is read back as the value that it stands for. -/
theorem value?_write {setting : Setting} (hfits : setting.Fits) (hrest : Ends rest) {fuel : Nat}
    (hfuel : setting.write.length ≤ fuel) :
    value? (fuel + 1) 0 (setting.write ++ rest) = some (setting.toToml, rest) := by
  cases setting with
  | text content =>
    obtain ⟨c, tail, heq, hc⟩ := leads_writeText content
    show value? (fuel + 1) 0 (writeText content ++ rest) = some (.string content, rest)
    rw [← scalarValue?_writeText content hrest, heq, List.cons_append, value?_cons hc]
  | integer n => exact value?_toString hfits hrest fuel 0
  | integers items => exact value?_writeIntegers hfits hfuel rest

theorem not_isSpace_write (setting : Setting) :
    ∃ c tail, setting.write = c :: tail ∧ isSpace c = false := by
  cases setting with
  | text content =>
    obtain ⟨c, tail, heq, hc⟩ := leads_writeText content
    exact ⟨c, tail, heq, hc.1.1⟩
  | integer n =>
    obtain ⟨c, tail, heq, hc⟩ := leads_toString n
    exact ⟨c, tail, heq, hc.1.1⟩
  | integers items =>
    show ∃ c tail, writeIntegers items = c :: tail ∧ isSpace c = false
    unfold writeIntegers
    split
    · exact ⟨'[', _, rfl, rfl⟩
    · exact ⟨'[', _, rfl, rfl⟩
    · exact ⟨'[', _, rfl, rfl⟩

/-! ### Keys -/

/-- A key that needs no quotes. -/
def Bare (key : String) : Prop :=
  key.toList.isEmpty = false ∧ key.toList.all isBareKeyChar = true

instance (key : String) : Decidable (Bare key) := inferInstanceAs (Decidable (_ ∧ _))

theorem Bare.exists_cons {key : String} (h : Bare key) :
    ∃ first others, key.toList = first :: others ∧ isBareKeyChar first = true := by
  obtain ⟨hne, hall⟩ := h
  obtain ⟨first, others, heq⟩ := List.exists_cons_of_ne_nil (List.isEmpty_eq_false_iff.mp hne)
  exact ⟨first, others, heq, List.all_eq_true.mp hall first (heq ▸ List.mem_cons_self)⟩

theorem ne_of_isBareKeyChar {c mark : Char} (h : isBareKeyChar c = true)
    (hmark : isBareKeyChar mark = false) : c ≠ mark := by
  rintro rfl
  rw [h] at hmark
  cases hmark

theorem isSpace_of_isBareKeyChar {c : Char} (h : isBareKeyChar c = true) : isSpace c = false := by
  have hblank : c ≠ ' ' := ne_of_isBareKeyChar h (by decide)
  have htab : c ≠ '\t' := ne_of_isBareKeyChar h (by decide)
  simp [isSpace, hblank, htab]

theorem stays_of_isBareKeyChar {c : Char} (h : isBareKeyChar c = true) : Stays c :=
  ⟨isSpace_of_isBareKeyChar h, ne_of_isBareKeyChar h (by decide),
    ne_of_isBareKeyChar h (by decide), ne_of_isBareKeyChar h (by decide)⟩

/-- A bare key is read up to the first character that belongs to no key. -/
theorem simpleKey?_append {key : String} (hbare : Bare key) {c : Char}
    (hc : isBareKeyChar c = false) (rest : List Char) :
    simpleKey? (key.toList ++ c :: rest) = some (key, c :: rest) := by
  obtain ⟨first, others, heq, hfirst⟩ := hbare.exists_cons
  have hchars : ∀ c ∈ key.toList, isBareKeyChar c = true := List.all_eq_true.mp hbare.2
  have htake : (key.toList ++ c :: rest).takeWhile isBareKeyChar = key.toList := by
    rw [List.takeWhile_append_of_pos hchars, List.takeWhile_cons_of_neg (by simp [hc]),
      List.append_nil]
  have hdrop : (key.toList ++ c :: rest).dropWhile isBareKeyChar = c :: rest := by
    rw [List.dropWhile_append_of_pos hchars, List.dropWhile_cons_of_neg (by simp [hc])]
  unfold simpleKey?
  split
  · next h =>
    rw [heq] at h
    exact absurd (List.cons.inj h).1 (ne_of_isBareKeyChar hfirst (by decide))
  · next h =>
    rw [heq] at h
    exact absurd (List.cons.inj h).1 (ne_of_isBareKeyChar hfirst (by decide))
  · rw [htake, hdrop]
    split
    · next hnil =>
      rw [heq] at hnil
      cases hnil
    · rw [String.ofList_toList]

theorem skipSpaces_append {key : String} (hbare : Bare key) (rest : List Char) :
    skipSpaces (key.toList ++ rest) = key.toList ++ rest := by
  obtain ⟨first, others, heq, hfirst⟩ := hbare.exists_cons
  rw [heq, List.cons_append]
  exact skipSpaces_cons _ (isSpace_of_isBareKeyChar hfirst)

/-- A key of one part ends in front of a character other than a dot, blanks aside. -/
theorem key?_append {key : String} (hbare : Bare key) {c mark : Char} {rest after : List Char}
    (hc : isBareKeyChar c = false) (hafter : skipSpaces (c :: rest) = mark :: after)
    (hdot : mark ≠ '.') :
    key? (key.toList ++ c :: rest) = some (([], key), mark :: after) := by
  have hparts : dottedKey? (79 + 1) (key.toList ++ c :: rest) = some ([key], mark :: after) := by
    rw [dottedKey?, skipSpaces_append hbare, simpleKey?_append hbare hc]
    simp only [Option.bind_eq_bind, Option.bind_some, hafter]
    split
    · next h => exact absurd (List.cons.inj h).1 hdot
    · rfl
  -- One part is far from the number of parts that is refused.
  show (dottedKey? (79 + 1) (key.toList ++ c :: rest)).bind _ = _
  rw [hparts]
  rfl

/-! ### Statements -/

/-- The assignment that an entry is written as. -/
def assignment (entry : String × Setting) : Statement := .assign [] entry.1 entry.2.toToml

theorem statement?_writeAssignment {key : String} (hbare : Bare key) {setting : Setting}
    (hfits : setting.Fits) (rest : List Char) :
    statement? (writeAssignment key setting ++ rest) =
      some (assignment (key, setting), '\n' :: rest) := by
  have hsplit : writeAssignment key setting ++ rest =
      key.toList ++ ' ' :: '=' :: ' ' :: (setting.write ++ '\n' :: rest) := by
    simp [writeAssignment]
  have hkey : key? (key.toList ++ ' ' :: '=' :: ' ' :: (setting.write ++ '\n' :: rest)) =
      some (([], key), '=' :: ' ' :: (setting.write ++ '\n' :: rest)) :=
    key?_append hbare (by decide) rfl (by decide)
  -- A value is read with fuel for all that is left of the text, its own part included.
  have hends : Ends ('\n' :: rest) := ⟨'\n', rest, rfl, .inl rfl⟩
  have hlength : setting.write.length ≤ (setting.write ++ '\n' :: rest).length := by simp
  have hvalue := value?_write hfits hends hlength
  have hskip : skipSpaces (' ' :: (setting.write ++ '\n' :: rest)) =
      setting.write ++ '\n' :: rest := by
    obtain ⟨c, tail, heq, hspace⟩ := not_isSpace_write setting
    rw [heq]
    exact skipSpaces_cons _ hspace
  obtain ⟨first, others, heq, hfirst⟩ := hbare.exists_cons
  rw [hsplit]
  unfold statement?
  split
  · next h =>
    rw [heq] at h
    exact absurd (List.cons.inj h).1 (ne_of_isBareKeyChar hfirst (by decide))
  · next h =>
    rw [heq] at h
    exact absurd (List.cons.inj h).1 (ne_of_isBareKeyChar hfirst (by decide))
  · rw [hkey]
    show (value? ((skipSpaces (' ' :: (setting.write ++ '\n' :: rest))).length + 1) 0
      (skipSpaces (' ' :: (setting.write ++ '\n' :: rest)))).bind _ = _
    rw [hskip, hvalue]
    rfl

theorem statement?_header {name : String} (hbare : Bare name) (rest : List Char) :
    statement? ('[' :: (name.toList ++ ']' :: rest)) = some (.table [] name, rest) := by
  have hkey : key? (name.toList ++ ']' :: rest) = some (([], name), ']' :: rest) :=
    key?_append hbare (by decide) rfl (by decide)
  obtain ⟨first, others, heq, hfirst⟩ := hbare.exists_cons
  rw [statement?, hkey]
  · rfl
  · intro _ h
    rw [heq] at h
    exact ne_of_isBareKeyChar hfirst (by decide) (List.cons.inj h).1

/-! ### Lines -/

/-- A text of whole lines in which statements are written. Reading it takes one unit of
fuel a line, and no line is empty. -/
def Lines (text : List Char) (statements : List Statement) : Prop :=
  ∃ lines ≤ text.length, ∀ fuel rest,
    statements? (fuel + lines) (text ++ rest) = (statements? fuel rest).map (statements ++ ·)

theorem lines_nil : Lines [] [] := by
  refine ⟨0, Nat.le_refl 0, ?_⟩
  intro fuel rest
  show statements? fuel rest = (statements? fuel rest).map id
  rw [Option.map_id]
  rfl

theorem Lines.append {front back : List Char} {first second : List Statement}
    (hfront : Lines front first) (hback : Lines back second) :
    Lines (front ++ back) (first ++ second) := by
  obtain ⟨m, hm, hreadFront⟩ := hfront
  obtain ⟨n, hn, hreadBack⟩ := hback
  refine ⟨n + m, by rw [List.length_append]; omega, ?_⟩
  intro fuel rest
  rw [← Nat.add_assoc, List.append_assoc, hreadFront, hreadBack, Option.map_map]
  congr 1
  funext statements
  exact (List.append_assoc first second statements).symm

theorem endOfLine?_cons {c : Char} (h : Stays c) (chars : List Char) :
    endOfLine? (c :: chars) = none := by
  obtain ⟨hspace, hfeed, hreturn, hcomment⟩ := h
  unfold endOfLine?
  rw [skipSpaces_cons chars hspace]
  dsimp only
  split
  · next h => exact absurd (List.cons.inj h).1 hcomment
  · exact newline?_cons chars hfeed hreturn

/-- A statement on a line of its own. -/
theorem statements?_cons {c : Char} (hc : Stays c) {chars rest : List Char}
    {statement : Statement} (h : statement? (c :: chars) = some (statement, '\n' :: rest))
    (fuel : Nat) :
    statements? (fuel + 1) (c :: chars) = (statements? fuel rest).map ([statement] ++ ·) := by
  rw [statements?, skipSpaces_cons chars hc.1]
  dsimp only
  rw [endOfLine?_cons hc, h]
  show (statements? fuel rest).bind _ = _
  cases statements? fuel rest <;> rfl

theorem lines_writeAssignment {key : String} (hbare : Bare key) {setting : Setting}
    (hfits : setting.Fits) :
    Lines (writeAssignment key setting) [assignment (key, setting)] := by
  refine ⟨1, by simp only [writeAssignment, List.length_append, List.length_cons]; omega, ?_⟩
  intro fuel rest
  have hstatement := statement?_writeAssignment hbare hfits rest
  obtain ⟨first, others, heq, hfirst⟩ := hbare.exists_cons
  rw [writeAssignment, heq] at hstatement ⊢
  exact statements?_cons (stays_of_isBareKeyChar hfirst) hstatement fuel

theorem lines_writeSection {entries : Section} (hbare : ∀ entry ∈ entries, Bare entry.1)
    (hfits : ∀ entry ∈ entries, entry.2.Fits) :
    Lines (writeSection entries) (entries.map assignment) := by
  induction entries with
  | nil => exact lines_nil
  | cons entry entries ih =>
    refine (lines_writeAssignment (hbare entry List.mem_cons_self)
      (hfits entry List.mem_cons_self)).append (ih ?_ ?_)
    · exact fun later hlater => hbare later (List.mem_cons_of_mem entry hlater)
    · exact fun later hlater => hfits later (List.mem_cons_of_mem entry hlater)

/-- A header takes two lines: an empty one stands in front of it. -/
theorem lines_writeTable {name : String} (hbare : Bare name) {entries : Section}
    (hentries : Lines (writeSection entries) (entries.map assignment)) :
    Lines (writeTable name entries) (.table [] name :: entries.map assignment) := by
  have hheader : Lines (['\n', '['] ++ name.toList ++ [']', '\n']) [.table [] name] := by
    refine ⟨2, by simp, ?_⟩
    intro fuel rest
    have hstatement := statement?_header hbare ('\n' :: rest)
    have hsplit : ['\n', '['] ++ name.toList ++ [']', '\n'] ++ rest =
        '\n' :: '[' :: (name.toList ++ ']' :: '\n' :: rest) := by
      simp
    rw [hsplit]
    -- The empty line takes the first unit, by computing.
    exact statements?_cons (by decide) hstatement fuel
  exact hheader.append hentries

end SensorGateway.Toml
