import Mathlib.Data.List.Forall2
import SensorGateway.Record.Json
import SensorGateway.Proofs.Text.Decimal

/-!
# `SensorGateway.Proofs.Record.Reader`: JSON read back

Whoever reads record lines later knows the grammar of JSON and nothing of how
lines are written. `parse?` is such a reader, as far as it has to be: it knows all
escapes and rejects control characters inside quotes, but it skips no blanks and
takes numbers as they are.

* `Tree` is what is read.
* `Reads` says that a text is read as something wherever it stands.
* `reads_quoted`: a text in quotes is that text again, whatever its characters
  are. One lemma for each kind of character leads there (`readText_escape`).
* `reads_number`, `reads_null`, `reads_array` and `reads_object`: so are the other
  values.
-/

set_option autoImplicit false

namespace SensorGateway.Json

/-- What a JSON text says. Numbers are kept as they are written. -/
inductive Tree where
  | null
  | number (text : String)
  | text (text : String)
  | array (items : List Tree)
  | object (members : List (String × Tree))

/-! ### The reader -/

/-- The letters that may follow a backslash, and the characters they stand for. -/
def letters : List (Char × Char) :=
  [('"', '"'), ('\\', '\\'), ('/', '/'), ('b', Char.ofNat 8), ('f', Char.ofNat 12), ('n', '\n'),
    ('r', '\r'), ('t', '\t')]

/-- The number that hexadecimal digits spell. -/
def hexNumber? (digits : List Char) : Option Nat :=
  digits.foldlM (fun n c => (Text.digitValue? 16 c).map (16 * n + ·)) 0

/-- The character with a number of four hexadecimal digits. Halves of pairs are none. -/
def character? (n : Nat) : Option Char :=
  if n < 0xD800 ∨ 0xDFFF < n then some (Char.ofNat n) else none

/-- A character in front of what is read next. -/
def before (c : Char) (text : List Char × List Char) : List Char × List Char :=
  (c :: text.1, text.2)

/-- Reads a string up to its closing quote. -/
def readText : List Char → Option (List Char × List Char)
  | [] => none
  | '"' :: rest => some ([], rest)
  | '\\' :: 'u' :: a :: b :: c :: d :: rest =>
    ((hexNumber? [a, b, c, d]).bind character?).bind fun char => (readText rest).map (before char)
  | '\\' :: letter :: rest =>
    (letters.lookup letter).bind fun char => (readText rest).map (before char)
  | c :: rest => if c.toNat < 0x20 then none else (readText rest).map (before c)

/-- A character that may stand in a number. -/
def isNumeric (c : Char) : Bool := c.isDigit || ['-', '+', '.', 'e', 'E'].contains c

/-- Reads as many characters as may belong to a number, and at least one. -/
def readNumber (chars : List Char) : Option (Tree × List Char) :=
  match chars.takeWhile isNumeric with
  | [] => none
  | digits => some (.number (String.ofList digits), chars.dropWhile isNumeric)

section

variable {α : Type} (item : List Char → Option (α × List Char)) (close : Char)

/-- Reads items with commas between them up to the closing character. As many tries
are enough as there are characters. -/
def readItems : Nat → List Char → Option (List α × List Char)
  | 0, _ => none
  | tries + 1, chars =>
    match item chars with
    | some (first, next :: rest) =>
      if next = close then some ([first], rest)
      else if next = ',' then
        (readItems tries rest).map fun (items, rest) => (first :: items, rest)
      else none
    | _ => none

/-- Reads items, of which there may be none. -/
def readRow : List Char → Option (List α × List Char)
  | [] => none
  | c :: rest =>
    if c = close then some ([], rest)
    else readItems item close (rest.length + 1) (c :: rest)

/-- Reads a key and what stands behind its colon. -/
def readMember : List Char → Option ((String × α) × List Char)
  | '"' :: rest =>
    match readText rest with
    | some (key, ':' :: rest) =>
      (item rest).map fun (value, rest) => ((String.ofList key, value), rest)
    | _ => none
  | _ => none

end

/-- Reads a value that is nested no deeper than this. -/
def readTree : Nat → List Char → Option (Tree × List Char)
  | 0, _ => none
  | _ + 1, [] => none
  | depth + 1, c :: rest =>
    if c = '"' then (readText rest).map fun (text, rest) => (.text (String.ofList text), rest)
    else if c = '[' then
      (readRow (readTree depth) ']' rest).map fun (items, rest) => (.array items, rest)
    else if c = '\x7b' then
      (readRow (readMember (readTree depth)) '\x7d' rest).map fun (members, rest) =>
        (.object members, rest)
    else if ['n', 'u', 'l', 'l'].isPrefixOf (c :: rest) then some (.null, rest.drop 3)
    else readNumber (c :: rest)

/-- What a whole text says. -/
def parse? (chars : List Char) : Option Tree :=
  match readTree 128 chars with
  | some (tree, []) => some tree
  | _ => none

/-! ### Strings -/

/-- All ways in which a character is written: with a letter, with its number, or as
it is. -/
theorem escape_cases (c : Char) :
    (∃ letter, escape c = ['\\', letter] ∧ letters.lookup letter = some c ∧ letter ≠ 'u' ∧
      letter ≠ '\n') ∨
    (c.toNat < 0x20 ∧ escape c =
      ['\\', 'u', '0', '0', Nat.digitChar (c.toNat / 16), Nat.digitChar (c.toNat % 16)]) ∨
    (c ≠ '"' ∧ c ≠ '\\' ∧ 0x20 ≤ c.toNat ∧ escape c = [c]) := by
  unfold escape
  cases hlookup : shortEscapes.lookup c with
  | some letter =>
    have htable : ∀ entry ∈ shortEscapes, letters.lookup entry.2 = some entry.1 ∧
        entry.2 ≠ 'u' ∧ entry.2 ≠ '\n' := by decide
    obtain ⟨front, back, heq, -⟩ := List.lookup_eq_some_iff.mp hlookup
    exact .inl ⟨letter, rfl, htable (c, letter) (heq ▸ List.mem_append_right _ List.mem_cons_self)⟩
  | none =>
    have hother := List.lookup_eq_none_iff.mp hlookup
    have hquote : c ≠ '"' := by simpa using hother ('"', '"') (by decide)
    have hslash : c ≠ '\\' := by simpa using hother ('\\', '\\') (by decide)
    by_cases hcontrol : c.toNat < 0x20
    · exact .inr (.inl ⟨hcontrol, if_pos hcontrol⟩)
    · exact .inr (.inr ⟨hquote, hslash, Nat.not_lt.mp hcontrol, if_neg hcontrol⟩)

/-- The number of a control character, with two digits, is read back. -/
theorem character?_hexNumber? {n : Nat} (h : n < 0x20) :
    (hexNumber? ['0', '0', Nat.digitChar (n / 16), Nat.digitChar (n % 16)]).bind character? =
      some (Char.ofNat n) := by
  have hall : ∀ m : Fin 0x20, (hexNumber? ['0', '0', Nat.digitChar (m.val / 16),
      Nat.digitChar (m.val % 16)]).bind character? = some (Char.ofNat m.val) := by decide
  exact hall ⟨n, h⟩

theorem readText_escape (c : Char) (rest : List Char) :
    readText (escape c ++ rest) = (readText rest).map (before c) := by
  obtain ⟨letter, hescape, hletter, hne, -⟩ | ⟨hcontrol, hescape⟩ |
    ⟨hquote, hslash, hle, hescape⟩ := escape_cases c
  -- A letter that is no `u` stands for one character.
  · rw [hescape]
    show readText ('\\' :: letter :: rest) = _
    rw [readText, hletter]
    · rfl
    · intro _ _ _ _ _ hu
      exact absurd hu hne
  -- Four digits are a number.
  · rw [hescape]
    show ((hexNumber? _).bind character?).bind _ = _
    rw [character?_hexNumber? hcontrol, Char.ofNat_toNat]
    rfl
  -- Any other character stands for itself.
  · rw [hescape]
    show readText (c :: rest) = _
    rw [readText, if_neg (Nat.not_lt.mpr hle)]
    · exact hquote
    · intro _ _ _ _ _ hc
      exact absurd hc hslash
    · intro _ _ hc
      exact absurd hc hslash

/-- A text inside quotes is read to its end. -/
theorem readText_flatMap_escape (chars rest : List Char) :
    readText (chars.flatMap escape ++ '"' :: rest) = some (chars, rest) := by
  induction chars with
  | nil => rw [List.flatMap_nil, List.nil_append, readText]
  | cons c chars ih =>
    rw [List.flatMap_cons, List.append_assoc, readText_escape, ih]
    rfl

/-! ### Texts that are read wherever they stand -/

/-- What stands here belongs to no number. -/
def Ends (rest : List Char) : Prop := ∀ c ∈ rest.head?, isNumeric c = false

/-- The text is read as this wherever it ends. -/
def Reads {α : Type} (item : List Char → Option (α × List Char)) (text : List Char) (a : α) :
    Prop :=
  ∀ rest, Ends rest → item (text ++ rest) = some (a, rest)

theorem ends_cons {c : Char} (h : isNumeric c = false) (rest : List Char) : Ends (c :: rest) := by
  rintro _ ⟨⟩
  exact h

variable {depth : Nat}

/-- A text in quotes is read as that text. -/
theorem reads_quoted (text : String) : Reads (readTree (depth + 1)) (quoted text) (.text text) := by
  intro rest _
  have hread : readText (text.toList.flatMap escape ++ ['"'] ++ rest) =
      some (text.toList, rest) := by
    rw [List.append_assoc]
    exact readText_flatMap_escape text.toList rest
  show (readText (text.toList.flatMap escape ++ ['"'] ++ rest)).map _ = _
  rw [hread]
  show some (Tree.text (String.ofList text.toList), rest) = _
  rw [String.ofList_toList]

theorem reads_null : Reads (readTree (depth + 1)) value.null .null := by
  intro rest _
  rfl

/-- What ends a number is not read. -/
theorem readNumber_append {chars rest : List Char} (hne : chars ≠ [])
    (h : ∀ c ∈ chars, isNumeric c = true) (hends : Ends rest) :
    readNumber (chars ++ rest) = some (.number (String.ofList chars), rest) := by
  have hrest : rest.takeWhile isNumeric = [] ∧ rest.dropWhile isNumeric = rest := by
    cases rest with
    | nil => exact ⟨rfl, rfl⟩
    | cons c rest =>
      have hc : ¬ isNumeric c = true := Bool.eq_false_iff.mp (hends c rfl)
      exact ⟨List.takeWhile_cons_of_neg hc, List.dropWhile_cons_of_neg hc⟩
  obtain ⟨first, others, rfl⟩ := List.exists_cons_of_ne_nil hne
  rw [readNumber, List.takeWhile_append_of_pos h, List.dropWhile_append_of_pos h, hrest.1, hrest.2,
    List.append_nil]

/-- Characters that may stand in a number are read as that number. -/
theorem reads_number {text : String} (hne : text.toList ≠ [])
    (h : ∀ c ∈ text.toList, isNumeric c = true) :
    Reads (readTree (depth + 1)) text.toList (.number text) := by
  intro rest hends
  have hread := readNumber_append hne h hends
  rw [String.ofList_toList] at hread
  obtain ⟨first, others, heq⟩ := List.exists_cons_of_ne_nil hne
  have hfirst : isNumeric first = true := h first (heq ▸ List.mem_cons_self)
  have hother : ∀ c, isNumeric c = false → first ≠ c := by
    rintro c hc rfl
    exact absurd (hfirst.symm.trans hc) (by decide)
  -- A number starts with none of the characters that other values start with.
  have hnull : ¬ ['n', 'u', 'l', 'l'].isPrefixOf (first :: (others ++ rest)) = true := by
    intro hprefix
    obtain ⟨_, heq⟩ := List.isPrefixOf_iff_prefix.mp hprefix
    exact hother 'n' (by decide) (List.cons.inj heq).1.symm
  rw [heq] at hread ⊢
  show readTree (depth + 1) (first :: (others ++ rest)) = _
  rw [readTree, if_neg (hother '"' (by decide)), if_neg (hother '[' (by decide)),
    if_neg (hother '\x7b' (by decide)), if_neg hnull]
  exact hread

/-- A key with its value is read as both. -/
theorem reads_entry {α : Type} {item : List Char → Option (α × List Char)} {text : List Char}
    {a : α} (h : Reads item text a) (key : String) :
    Reads (readMember item) (entry key text) (key, a) := by
  intro rest hends
  have hread := readText_flatMap_escape key.toList (':' :: (text ++ rest))
  have hentry : entry key text ++ rest =
      '"' :: (key.toList.flatMap escape ++ '"' :: ':' :: (text ++ rest)) := by
    simp [entry, quoted]
  rw [hentry, readMember, hread]
  simp only [h rest hends, Option.map_some, String.ofList_toList]

/-! ### Rows -/

/-- No item starts like the end of the row. -/
def Opens (close : Char) (text : List Char) : Prop := ∃ c rest, text = c :: rest ∧ c ≠ close

section

variable {α : Type} {item : List Char → Option (α × List Char)} {close : Char}

/-- Items with commas between them are read one after the other. -/
theorem readItems_separated (hclose : isNumeric close = false ∧ close ≠ ',')
    {texts : List (List Char)} {items : List α} (h : List.Forall₂ (Reads item) texts items)
    (hne : texts ≠ []) {tries : Nat} (htries : texts.length ≤ tries) (rest : List Char) :
    readItems item close tries (separated texts ++ close :: rest) = some (items, rest) := by
  induction h generalizing tries with
  | nil => exact absurd rfl hne
  | @cons text a texts items hitem hitems ih =>
    obtain ⟨tries, rfl⟩ : ∃ n, tries = n + 1 :=
      Nat.exists_eq_add_one_of_ne_zero (by intro h; simp [h] at htries)
    rw [readItems]
    cases texts with
    | nil =>
      cases hitems
      -- The last item ends at the closing character.
      rw [separated, hitem _ (ends_cons hclose.1 rest)]
      simp
    | cons second others =>
      have hmore := ih (List.cons_ne_nil _ _) (Nat.le_of_succ_le_succ htries)
      have hsplit : separated (text :: second :: others) ++ close :: rest =
          text ++ ',' :: (separated (second :: others) ++ close :: rest) := by
        simp [separated]
      -- Any other ends at a comma, and the rest is read with one try less.
      rw [hsplit, hitem _ (ends_cons (by decide) _)]
      simp only [if_neg (Ne.symm hclose.2), if_true, hmore, Option.map_some]

/-- There is a comma for every item but the last. -/
theorem length_le_length_separated (texts : List (List Char)) :
    texts.length ≤ (separated texts).length + 1 := by
  induction texts with
  | nil => exact Nat.zero_le _
  | cons first rest ih =>
    cases rest with
    | nil => exact Nat.le_add_left 1 _
    | cons second others =>
      have hlength : (separated (first :: second :: others)).length =
          first.length + ((separated (second :: others)).length + 1) := by
        rw [separated, List.length_append, List.length_cons]
        exact List.cons_ne_nil _ _
      rw [hlength, List.length_cons]
      omega

theorem Opens.append {text : List Char} (h : Opens close text) (rest : List Char) :
    Opens close (text ++ rest) := by
  obtain ⟨c, others, rfl, hne⟩ := h
  exact ⟨c, others ++ rest, rfl, hne⟩

theorem opens_separated {texts : List (List Char)} (hne : texts ≠ [])
    (hopens : ∀ text ∈ texts, Opens close text) : Opens close (separated texts) := by
  match texts, hne with
  | [last], _ => exact hopens last List.mem_cons_self
  | first :: second :: others, _ => exact (hopens first List.mem_cons_self).append _

/-- A row, be it empty or not, is read up to its end. -/
theorem readRow_separated (hclose : isNumeric close = false ∧ close ≠ ',')
    {texts : List (List Char)} {items : List α} (h : List.Forall₂ (Reads item) texts items)
    (hopens : ∀ text ∈ texts, Opens close text) (rest : List Char) :
    readRow item close (separated texts ++ close :: rest) = some (items, rest) := by
  by_cases hne : texts = []
  · subst hne
    cases h
    exact if_pos rfl
  · obtain ⟨c, others, heq, hc⟩ := (opens_separated hne hopens).append (close :: rest)
    -- Every item takes up a character or is followed by a comma.
    have htries : texts.length ≤ others.length + 1 := by
      have hle := length_le_length_separated texts
      have hlength := congrArg List.length heq
      simp only [List.length_append, List.length_cons] at hlength
      omega
    have hread := readItems_separated hclose h hne htries rest
    rw [heq] at hread ⊢
    rw [readRow, if_neg hc]
    exact hread

end

/-- Values in brackets are read as an array. -/
theorem reads_array {texts : List (List Char)} {items : List Tree}
    (h : List.Forall₂ (Reads (readTree depth)) texts items)
    (hopens : ∀ text ∈ texts, Opens ']' text) :
    Reads (readTree (depth + 1)) ('[' :: separated texts ++ [']']) (.array items) := by
  intro rest _
  have hread := readRow_separated (by decide) h hopens rest
  have hsplit : '[' :: separated texts ++ [']'] ++ rest =
      '[' :: (separated texts ++ ']' :: rest) := by simp
  rw [hsplit, readTree, if_neg (by decide), if_pos rfl, hread]
  rfl

/-- Members in braces are read as an object. -/
theorem reads_object {texts : List (List Char)} {members : List (String × Tree)}
    (h : List.Forall₂ (Reads (readMember (readTree depth))) texts members)
    (hopens : ∀ text ∈ texts, Opens '\x7d' text) :
    Reads (readTree (depth + 1)) (object texts) (.object members) := by
  intro rest _
  have hread := readRow_separated (by decide) h hopens rest
  have hsplit : object texts ++ rest = '\x7b' :: (separated texts ++ '\x7d' :: rest) := by
    simp [object]
  rw [hsplit, readTree, if_neg (by decide), if_neg (by decide), if_pos rfl, hread]
  rfl

/-- A whole text says what it is read as. -/
theorem parse?_eq_some {text : List Char} {tree : Tree} (h : Reads (readTree 128) text tree) :
    parse? text = some tree := by
  have hread := h [] (by rintro _ ⟨⟩)
  rw [List.append_nil] at hread
  rw [parse?, hread]

end SensorGateway.Json
