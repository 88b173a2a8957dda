import SensorGateway.Toml.Token
import SensorGateway.Toml.Writer

/-!
# `SensorGateway.Proofs.Toml.Text`: texts written and read back

A text is written in one of four forms, and each form is read by a reader of its own.
Here every form is read back, and what follows it is left alone:

* `text?_quotedForm` and `text?_quotedLinesForm`: the quoted forms take any text.
  Each character is written in one of four ways (`quotedChars_cons_cases`). Over
  several lines quotes need care, because those in front of the closing marks are
  read together with them (`runLength_quotedChars`).
* `text?_literalForm` and `text?_literalLinesForm`: the literal forms take texts
  without control characters in which apostrophes are not mistaken for marks.
* `text?_writeText`: the form that is chosen is always one that takes the text.
-/

set_option autoImplicit false

namespace SensorGateway.Toml

/-! ### Characters -/

/-- What may follow a written value: the end of its line, or of its place in an
array. -/
def Ends (rest : List Char) : Prop := ∃ c tail, rest = c :: tail ∧ (c = '\n' ∨ c = ',' ∨ c = ']')

theorem newline?_cons {c : Char} (rest : List Char) (hfeed : c ≠ '\n') (hreturn : c ≠ '\r') :
    newline? (c :: rest) = none := by
  unfold newline?
  split
  · next heq => exact absurd (List.cons.inj heq).1 hfeed
  · next heq => exact absurd (List.cons.inj heq).1 hreturn
  · rfl

theorem skipSpaces_cons {c : Char} (rest : List Char) (h : isSpace c = false) :
    skipSpaces (c :: rest) = c :: rest :=
  List.dropWhile_cons_of_neg (by simp [h])

/-- Without control characters and line feeds a text can stand on one line. -/
theorem isPrintable_of_needsEscape {c : Char} (h : needsEscape c = false) (hfeed : c ≠ '\n') :
    isPrintable c = true ∧ c ≠ '\r' := by
  constructor
  · simp only [needsEscape, Bool.or_eq_false_iff, Bool.and_eq_false_iff, decide_eq_false_iff_not,
      beq_eq_false_iff_ne, bne_eq_false_iff_eq, Nat.not_lt] at h
    obtain ⟨(hlow | htab) | hfeed', hdelete⟩ := h
    · simp [isPrintable, hlow, hdelete]
    · simp [isPrintable, htab]
    · exact absurd hfeed' hfeed
  · rintro rfl
    exact absurd h (by decide)

/-! ### Escapes -/

/-- Behind a backslash, this stands for a character. It folds no line. -/
def Spells (mark : List Char) (c : Char) : Prop :=
  ∀ rest, escape? (mark ++ rest) = some (c, rest) ∧ folded? (mark ++ rest) = none

theorem spells_letter {letter c : Char} (h : escapes.lookup letter = some c)
    (hcode : letter ≠ 'u' ∧ letter ≠ 'U')
    (hblank : isSpace letter = false ∧ letter ≠ '\n' ∧ letter ≠ '\r') : Spells [letter] c := by
  intro rest
  constructor
  · show escape? (letter :: rest) = some (c, rest)
    rw [escape?, h]
    · rfl
    · intro _ _ _ _ _ heq
      exact absurd heq hcode.1
    · intro _ _ _ _ _ _ _ _ _ heq
      exact absurd heq hcode.2
  · show (newline? (skipSpaces (letter :: rest))).map skipBlankLines = none
    rw [skipSpaces_cons rest hblank.1, newline?_cons rest hblank.2.1 hblank.2.2]
    rfl

theorem spells_code {n : Nat} (h : n < 0x80) :
    Spells ['u', '0', '0', escaped.hexDigit (n / 16), escaped.hexDigit (n % 16)]
      (Char.ofNat n) := by
  have hall : ∀ m : Fin 0x80, scalar? ['0', '0', escaped.hexDigit (m.val / 16),
      escaped.hexDigit (m.val % 16)] = some (Char.ofNat m.val) := by decide
  intro rest
  constructor
  · show (scalar? _).map (·, rest) = some (Char.ofNat n, rest)
    rw [hall ⟨n, h⟩]
    rfl
  · show (newline? (skipSpaces ('u' :: _))).map skipBlankLines = none
    rw [skipSpaces_cons _ (by decide), newline?_cons _ (by decide) (by decide)]
    rfl

/-- Every character that cannot stand for itself in quotes has an escape. -/
theorem exists_escaped_eq {c : Char} (h : c = '\\' ∨ c = '\t' ∨ c = '\n' ∨ needsEscape c = true) :
    ∃ mark, escaped c = '\\' :: mark ∧ Spells mark c := by
  unfold escaped
  cases hlookup : escapeLetters.lookup c with
  | some letter =>
    have htable : ∀ entry ∈ escapeLetters, escapes.lookup entry.2 = some entry.1 ∧
        (entry.2 ≠ 'u' ∧ entry.2 ≠ 'U') ∧
        (isSpace entry.2 = false ∧ entry.2 ≠ '\n' ∧ entry.2 ≠ '\r') := by decide
    obtain ⟨front, back, heq, -⟩ := List.lookup_eq_some_iff.mp hlookup
    obtain ⟨hletter, hcode, hblank⟩ := htable (c, letter)
      (heq ▸ List.mem_append_right _ List.mem_cons_self)
    exact ⟨[letter], rfl, spells_letter hletter hcode hblank⟩
  | none =>
    have hother := List.lookup_eq_none_iff.mp hlookup
    have hslash : c ≠ '\\' := by simpa using hother ('\\', '\\') (by decide)
    have htab : c ≠ '\t' := by simpa using hother ('\t', 't') (by decide)
    have hfeed : c ≠ '\n' := by simpa using hother ('\n', 'n') (by decide)
    have hcontrol : c.toNat < 0x80 := by
      have hneeds : needsEscape c = true := by simpa [hslash, htab, hfeed] using h
      simp only [needsEscape, Bool.or_eq_true, Bool.and_eq_true, decide_eq_true_eq, beq_iff_eq]
        at hneeds
      omega
    have hspells := spells_code hcontrol
    rw [Char.ofNat_toNat] at hspells
    exact ⟨_, rfl, hspells⟩

/-! ### Quoted texts -/

/-- All ways in which a character is written in quotes: a quote or a line feed as it
is, if the form allows it, any character behind a backslash, or a harmless one as it
is. -/
theorem quotedChars_cons_cases (lines : Bool) (quotes run : Nat) (c : Char) (rest : List Char) :
    (c = '"' ∧ run < quotes ∧ quotedChars lines quotes run (c :: rest) =
      '"' :: quotedChars lines quotes (run + 1) rest) ∨
    (c = '\n' ∧ lines = true ∧ quotedChars lines quotes run (c :: rest) =
      '\n' :: quotedChars lines quotes 0 rest) ∨
    (∃ mark, Spells mark c ∧ quotedChars lines quotes run (c :: rest) =
      '\\' :: (mark ++ quotedChars lines quotes 0 rest)) ∨
    (c ≠ '"' ∧ c ≠ '\\' ∧ c ≠ '\n' ∧ c ≠ '\r' ∧ isPrintable c = true ∧
      quotedChars lines quotes run (c :: rest) = c :: quotedChars lines quotes 0 rest) := by
  rw [quotedChars]
  by_cases hquote : c = '"'
  · rw [if_pos hquote]
    by_cases hrun : run < quotes
    · rw [if_pos hrun, hquote]
      exact .inl ⟨rfl, hrun, rfl⟩
    · rw [if_neg hrun, hquote]
      exact .inr (.inr (.inl ⟨['"'], spells_letter (by decide) (by decide) (by decide), rfl⟩))
  · rw [if_neg hquote]
    by_cases hfeed : c = '\n' ∧ lines = true
    · rw [if_pos hfeed, hfeed.1]
      exact .inr (.inl ⟨rfl, hfeed.2, rfl⟩)
    · rw [if_neg hfeed]
      by_cases hescape : c = '\\' ∨ c = '\t' ∨ c = '\n' ∨ needsEscape c = true
      · obtain ⟨mark, hmark, hspells⟩ := exists_escaped_eq hescape
        rw [if_pos hescape, hmark]
        exact .inr (.inr (.inl ⟨mark, hspells, rfl⟩))
      · rw [if_neg hescape]
        simp only [not_or, Bool.not_eq_true] at hescape
        obtain ⟨hslash, -, hnewline, hneeds⟩ := hescape
        obtain ⟨hprint, hreturn⟩ := isPrintable_of_needsEscape hneeds hnewline
        exact .inr (.inr (.inr ⟨hquote, hslash, hnewline, hreturn, hprint, rfl⟩))

/-- Quoting makes no text shorter, so there is fuel for every character. -/
theorem length_le_length_quotedChars (lines : Bool) (quotes run : Nat) (chars : List Char) :
    chars.length ≤ (quotedChars lines quotes run chars).length := by
  induction chars generalizing run with
  | nil => exact Nat.zero_le _
  | cons c rest ih =>
    obtain ⟨-, -, heq⟩ | ⟨-, -, heq⟩ | ⟨mark, -, heq⟩ | ⟨-, -, -, -, -, heq⟩ :=
      quotedChars_cons_cases lines quotes run c rest
    · rw [heq, List.length_cons, List.length_cons]
      exact Nat.succ_le_succ (ih (run + 1))
    · rw [heq, List.length_cons, List.length_cons]
      exact Nat.succ_le_succ (ih 0)
    · rw [heq, List.length_cons, List.length_cons, List.length_append]
      have hrest := ih 0
      omega
    · rw [heq, List.length_cons, List.length_cons]
      exact Nat.succ_le_succ (ih 0)

/-- A quoted text on one line is read up to its closing quote. -/
theorem quotedBody_quotedChars (chars rest : List Char) {fuel : Nat} (h : chars.length < fuel) :
    quotedBody fuel (quotedChars false 0 0 chars ++ '"' :: rest) = some (chars, rest) := by
  induction chars generalizing fuel with
  | nil =>
    obtain ⟨fuel, rfl⟩ := Nat.exists_eq_add_one_of_ne_zero (Nat.ne_of_gt h)
    show quotedBody (fuel + 1) ('"' :: rest) = _
    rw [quotedBody, if_pos rfl]
  | cons c chars ih =>
    obtain ⟨fuel, rfl⟩ := Nat.exists_eq_add_one_of_ne_zero (Nat.ne_zero_of_lt h)
    have hrest := ih (Nat.lt_of_succ_lt_succ h)
    obtain ⟨-, hrun, -⟩ | ⟨-, hlines, -⟩ | ⟨mark, hspells, heq⟩ |
      ⟨hquote, hslash, -, -, hprint, heq⟩ := quotedChars_cons_cases false 0 0 c chars
    · exact absurd hrun (Nat.not_lt_zero 0)
    · cases hlines
    · rw [heq, List.cons_append, List.append_assoc, quotedBody, if_neg (by decide), if_pos rfl,
        (hspells _).1]
      show prepend c (quotedBody fuel _) = _
      rw [hrest]
      rfl
    · rw [heq, List.cons_append, quotedBody, if_neg hquote, if_neg hslash, if_pos hprint, hrest]
      rfl

/-! ### Closing marks -/

theorem runLength_cons_self (mark : Char) (text : List Char) :
    runLength mark (mark :: text) = runLength mark text + 1 := by
  rw [runLength, List.takeWhile_cons_of_pos (by simp), List.length_cons, runLength]

theorem runLength_cons_of_ne {mark c : Char} (text : List Char) (h : c ≠ mark) :
    runLength mark (c :: text) = 0 := by
  rw [runLength, List.takeWhile_cons_of_neg (by simpa using h), List.length_nil]

theorem runLength_replicate_append (mark : Char) (n : Nat) {rest : List Char}
    (h : ∀ c ∈ rest.head?, c ≠ mark) : runLength mark (List.replicate n mark ++ rest) = n := by
  induction n with
  | zero =>
    cases rest with
    | nil => rfl
    | cons c rest => exact runLength_cons_of_ne rest (h c rfl)
  | succ n ih => rw [List.replicate_succ, List.cons_append, runLength_cons_self, ih]

/-- Up to two marks in front of the closing ones belong to the text. -/
theorem closing?_replicate {mark : Char} {n : Nat} (hn : n ≤ 2) {rest : List Char}
    (h : ∀ c ∈ rest.head?, c ≠ mark) :
    closing? mark (List.replicate (n + 3) mark ++ rest) = some (List.replicate n mark, rest) := by
  have hmarks : 3 ≤ n + 3 ∧ n + 3 ≤ 5 := by omega
  have hdrop : (List.replicate (n + 3) mark ++ rest).drop (n + 3) = rest := by
    rw [List.drop_left' List.length_replicate]
  rw [closing?, runLength_replicate_append mark (n + 3) h, if_pos hmarks, hdrop, Nat.add_sub_cancel]

/-- Marks and closing marks are marks. -/
theorem replicate_append_three (mark : Char) (n : Nat) (rest : List Char) :
    List.replicate n mark ++ mark :: mark :: mark :: rest =
      List.replicate (n + 3) mark ++ rest := by
  rw [← List.replicate_append_replicate, List.append_assoc]
  rfl

/-! ### Texts over several lines -/

/-- Unless only quotes are left, fewer than three of them stand in a row, those just
passed included. -/
theorem runLength_quotedChars {run : Nat} (hrun : run ≤ 2) (chars : List Char) :
    (∃ n, run + n ≤ 2 ∧ chars = List.replicate n '"' ∧
      quotedChars true 2 run chars = List.replicate n '"') ∨
    ∀ rest, run + runLength '"' (quotedChars true 2 run chars ++ rest) ≤ 2 := by
  induction chars generalizing run with
  | nil => exact .inl ⟨0, hrun, rfl, rfl⟩
  | cons c chars ih =>
    obtain ⟨rfl, hless, heq⟩ | ⟨-, -, heq⟩ | ⟨mark, -, heq⟩ | ⟨hquote, -, -, -, -, heq⟩ :=
      quotedChars_cons_cases true 2 run c chars
    · replace hless : run + 1 ≤ 2 := hless
      obtain ⟨n, hn, hchars, hwritten⟩ | hruns := ih hless
      · refine .inl ⟨n + 1, by omega, ?_, ?_⟩
        · rw [List.replicate_succ, ← hchars]
        · rw [heq, List.replicate_succ, ← hwritten]
      · refine .inr fun rest => ?_
        rw [heq, List.cons_append, runLength_cons_self]
        have hrest := hruns rest
        omega
    all_goals
      refine .inr fun rest => ?_
      rw [heq, List.cons_append, runLength_cons_of_ne _ (by first | decide | exact hquote)]
      exact hrun

/-- Where only quotes are left, the text is over. -/
theorem quotedLines_replicate {n : Nat} (hn : n ≤ 2) {rest : List Char}
    (hrest : ∀ c ∈ rest.head?, c ≠ '"') (fuel : Nat) :
    quotedLines (fuel + 1) (List.replicate (n + 3) '"' ++ rest) =
      some (List.replicate n '"', rest) := by
  have hmarks := runLength_replicate_append '"' (n + 3) hrest
  have hclosing := closing?_replicate hn hrest
  rw [List.replicate_succ, List.cons_append] at hmarks hclosing ⊢
  rw [quotedLines, if_pos ⟨rfl, by omega⟩, hclosing]

/-- A quoted text over several lines is read up to its closing marks. -/
theorem quotedLines_quotedChars (chars : List Char) {rest : List Char}
    (hrest : ∀ c ∈ rest.head?, c ≠ '"') {run fuel : Nat} (hrun : run ≤ 2)
    (h : chars.length < fuel) :
    quotedLines fuel (quotedChars true 2 run chars ++ '"' :: '"' :: '"' :: rest) =
      some (chars, rest) := by
  induction chars generalizing run fuel with
  | nil =>
    obtain ⟨fuel, rfl⟩ := Nat.exists_eq_add_one_of_ne_zero (Nat.ne_of_gt h)
    exact quotedLines_replicate (Nat.zero_le 2) hrest fuel
  | cons c chars ih =>
    obtain ⟨fuel, rfl⟩ := Nat.exists_eq_add_one_of_ne_zero (Nat.ne_zero_of_lt h)
    replace h := Nat.lt_of_succ_lt_succ h
    obtain ⟨n, hn, hchars, hwritten⟩ | hruns := runLength_quotedChars hrun (c :: chars)
    · -- Only marks are left, and they are read together with the closing ones.
      rw [hwritten, hchars, replicate_append_three]
      exact quotedLines_replicate (by omega) hrest fuel
    · -- The text goes on, so what stands here is no closing mark.
      have hopen := hruns ('"' :: '"' :: '"' :: rest)
      obtain ⟨rfl, hless, heq⟩ | ⟨rfl, -, heq⟩ | ⟨mark, hspells, heq⟩ |
        ⟨hquote, hslash, hfeed, hreturn, hprint, heq⟩ := quotedChars_cons_cases true 2 run c chars
      · replace hless : run + 1 ≤ 2 := hless
        rw [heq, List.cons_append] at hopen ⊢
        rw [quotedLines, if_neg (by omega), if_neg (by decide), newline?_cons _ (by decide)
          (by decide)]
        show (if isPrintable '"' = true then _ else _) = _
        rw [if_pos (by decide), ih hless h]
        rfl
      · rw [heq, List.cons_append, quotedLines, if_neg (by simp), if_neg (by decide)]
        show prepend '\n' (quotedLines fuel _) = _
        rw [ih (Nat.zero_le 2) h]
        rfl
      · rw [heq, List.cons_append, List.append_assoc, quotedLines, if_neg (by simp), if_pos rfl,
          (hspells _).2, (hspells _).1]
        show prepend c (quotedLines fuel _) = _
        rw [ih (Nat.zero_le 2) h]
        rfl
      · rw [heq, List.cons_append, quotedLines, if_neg (by simp [hquote]), if_neg hslash,
          newline?_cons _ hfeed hreturn]
        show (if isPrintable c = true then _ else _) = _
        rw [if_pos hprint, ih (Nat.zero_le 2) h]
        rfl

/-! ### Literal texts -/

/-- A literal text on one line is read up to its closing apostrophe. -/
theorem literalBody_append {chars : List Char}
    (h : ∀ c ∈ chars, c ≠ '\'' ∧ isPrintable c = true) (rest : List Char) :
    literalBody (chars ++ '\'' :: rest) = some (chars, rest) := by
  induction chars with
  | nil =>
    show literalBody ('\'' :: rest) = _
    rw [literalBody, if_pos rfl]
  | cons c chars ih =>
    obtain ⟨hmark, hprint⟩ := h c List.mem_cons_self
    rw [List.cons_append, literalBody, if_neg hmark, if_pos hprint,
      ih fun d hd => h d (List.mem_cons_of_mem c hd)]
    rfl

/-- One character more: the best run so far, and the one that goes on. -/
def runStep (mark : Char) : Nat × Nat → Char → Nat × Nat := fun (best, run) c =>
  if c = mark then (max best (run + 1), run + 1) else (best, 0)

/-- The best run only grows, and it counts every run that goes on. -/
theorem le_foldl_runStep (mark : Char) (chars : List Char) {best run : Nat} (h : run ≤ best) :
    best ≤ (chars.foldl (runStep mark) (best, run)).1 ∧
      run + runLength mark chars ≤ (chars.foldl (runStep mark) (best, run)).1 := by
  induction chars generalizing best run with
  | nil => exact ⟨Nat.le_refl best, h⟩
  | cons c chars ih =>
    rw [List.foldl_cons, runStep]
    by_cases hc : c = mark
    · obtain ⟨hbest, hrun⟩ := ih (Nat.le_max_right best (run + 1))
      rw [if_pos hc, hc, runLength_cons_self]
      exact ⟨Nat.le_trans (Nat.le_max_left _ _) hbest, by omega⟩
    · obtain ⟨hbest, -⟩ := ih (Nat.zero_le best)
      rw [if_neg hc, runLength_cons_of_ne chars hc]
      exact ⟨hbest, Nat.le_trans h hbest⟩

theorem runLength_le_foldl_of_suffix (mark : Char) {chars back : List Char} (hback : back <:+ chars)
    {best run : Nat} (h : run ≤ best) :
    runLength mark back ≤ (chars.foldl (runStep mark) (best, run)).1 := by
  induction chars generalizing best run with
  | nil =>
    rw [List.suffix_nil.mp hback]
    exact Nat.zero_le _
  | cons c chars ih =>
    rcases List.suffix_cons_iff.mp hback with rfl | hlater
    · exact Nat.le_trans (Nat.le_add_left _ run) (le_foldl_runStep mark _ h).2
    · rw [List.foldl_cons, runStep]
      split
      · exact ih hlater (Nat.le_max_right _ _)
      · exact ih hlater (Nat.zero_le best)

/-- Nowhere in a text a mark stands in a row longer than its longest run. -/
theorem runLength_le_longestRun (mark : Char) {chars back : List Char} (h : back <:+ chars) :
    runLength mark back ≤ longestRun mark chars :=
  runLength_le_foldl_of_suffix mark h (Nat.le_refl 0)

theorem notMem_of_longestRun_eq_zero {mark : Char} {chars : List Char}
    (h : longestRun mark chars = 0) : mark ∉ chars := by
  intro hmem
  obtain ⟨front, back, rfl⟩ := List.append_of_mem hmem
  have hle := runLength_le_longestRun mark (List.suffix_append front (mark :: back))
  rw [runLength_cons_self] at hle
  omega

/-- Unless only marks are left, what follows does not lengthen the row. -/
theorem runLength_append (mark : Char) (chars : List Char) :
    chars = List.replicate (runLength mark chars) mark ∨
      ∀ rest, runLength mark (chars ++ rest) = runLength mark chars := by
  induction chars with
  | nil => exact .inl rfl
  | cons c chars ih =>
    by_cases hc : c = mark
    · subst hc
      rw [runLength_cons_self]
      rcases ih with hall | hsome
      · exact .inl (by rw [List.replicate_succ, ← hall])
      · exact .inr fun rest => by rw [List.cons_append, runLength_cons_self, hsome]
    · exact .inr fun rest => by
        rw [List.cons_append, runLength_cons_of_ne _ hc, runLength_cons_of_ne _ hc]

theorem literalLines_replicate {n : Nat} (hn : n ≤ 2) {rest : List Char}
    (hrest : ∀ c ∈ rest.head?, c ≠ '\'') (fuel : Nat) :
    literalLines (fuel + 1) (List.replicate (n + 3) '\'' ++ rest) =
      some (List.replicate n '\'', rest) := by
  have hmarks := runLength_replicate_append '\'' (n + 3) hrest
  have hclosing := closing?_replicate hn hrest
  rw [List.replicate_succ, List.cons_append] at hmarks hclosing ⊢
  rw [literalLines, if_pos ⟨rfl, by omega⟩, hclosing]

/-- A literal text over several lines is read up to its closing marks. -/
theorem literalLines_append {chars : List Char}
    (hruns : ∀ back, back <:+ chars → runLength '\'' back ≤ 2)
    (hneeds : ∀ c ∈ chars, needsEscape c = false) {rest : List Char}
    (hrest : ∀ c ∈ rest.head?, c ≠ '\'') {fuel : Nat} (h : chars.length < fuel) :
    literalLines fuel (chars ++ '\'' :: '\'' :: '\'' :: rest) = some (chars, rest) := by
  induction chars generalizing fuel with
  | nil =>
    obtain ⟨fuel, rfl⟩ := Nat.exists_eq_add_one_of_ne_zero (Nat.ne_of_gt h)
    exact literalLines_replicate (Nat.zero_le 2) hrest fuel
  | cons c chars ih =>
    obtain ⟨fuel, rfl⟩ := Nat.exists_eq_add_one_of_ne_zero (Nat.ne_zero_of_lt h)
    have hread := ih (fun back hback => hruns back (hback.trans (List.suffix_cons c chars)))
      (fun d hd => hneeds d (List.mem_cons_of_mem c hd)) (Nat.lt_of_succ_lt_succ h)
    have hrun := hruns (c :: chars) (List.suffix_refl _)
    rcases runLength_append '\'' (c :: chars) with hall | hsome
    · rw [hall, replicate_append_three]
      exact literalLines_replicate hrun hrest fuel
    · have hopen := hsome ('\'' :: '\'' :: '\'' :: rest)
      rw [List.cons_append] at hopen ⊢
      rw [literalLines, if_neg (by omega)]
      by_cases hfeed : c = '\n'
      · subst hfeed
        show prepend '\n' (literalLines fuel _) = _
        rw [hread]
        rfl
      · obtain ⟨hprint, hreturn⟩ := isPrintable_of_needsEscape (hneeds c List.mem_cons_self) hfeed
        rw [newline?_cons _ hfeed hreturn]
        show (if isPrintable c = true then _ else _) = _
        rw [if_pos hprint, hread]
        rfl

/-! ### The four forms -/

theorem Ends.head_ne {rest : List Char} (h : Ends rest) {mark : Char}
    (hmark : mark ≠ '\n' ∧ mark ≠ ',' ∧ mark ≠ ']') : ∀ c ∈ rest.head?, c ≠ mark := by
  obtain ⟨c, tail, rfl, hc⟩ := h
  rintro d ⟨⟩ rfl
  rcases hc with hc | hc | hc
  · exact hmark.1 hc
  · exact hmark.2.1 hc
  · exact hmark.2.2 hc

variable {rest : List Char}

/-- A text that starts with a quote, but not with three, stands on one line. -/
theorem text?_quote {text : List Char} (h : ∀ tail, text ≠ '"' :: '"' :: tail) :
    text? ('"' :: text) = text?.finish (quotedBody (text.length + 1) text) := by
  rw [text?]
  intro tail heq
  exact h tail heq

theorem text?_apostrophe {text : List Char} (h : ∀ tail, text ≠ '\'' :: '\'' :: tail) :
    text? ('\'' :: text) = text?.finish (literalBody text) := by
  rw [text?]
  intro tail heq
  exact h tail heq

/-- Inside a quoted text on one line no quote stands without its backslash. -/
theorem text?_quotedForm (chars : List Char) (hrest : Ends rest) :
    text? (quotedForm chars ++ rest) = some (String.ofList chars, rest) := by
  have hsplit : quotedForm chars ++ rest = '"' :: (quotedChars false 0 0 chars ++ '"' :: rest) := by
    simp [quotedForm]
  have hlength : chars.length < (quotedChars false 0 0 chars ++ '"' :: rest).length + 1 := by
    have hle := length_le_length_quotedChars false 0 0 chars
    rw [List.length_append]
    omega
  rw [hsplit, text?_quote, quotedBody_quotedChars chars rest hlength]
  · rfl
  · intro tail heq
    cases chars with
    | nil =>
      have hhead : rest.head? = some '"' := by
        rw [(List.cons.inj heq).2]
        rfl
      exact hrest.head_ne (by decide) '"' hhead rfl
    | cons c chars =>
      obtain ⟨-, hrun, -⟩ | ⟨-, hlines, -⟩ | ⟨mark, -, hwritten⟩ | ⟨hquote, -, -, -, -, hwritten⟩ :=
        quotedChars_cons_cases false 0 0 c chars
      · exact absurd hrun (Nat.not_lt_zero 0)
      · cases hlines
      · rw [hwritten] at heq
        exact absurd (List.cons.inj heq).1 (by decide)
      · rw [hwritten] at heq
        exact hquote (List.cons.inj heq).1

/-- A line end behind the opening marks is dropped, and one is there if the text has
line ends. -/
theorem dropNewline_firstLineEnd {chars text : List Char}
    (h : '\n' ∉ chars → newline? text = none) :
    dropNewline (firstLineEnd chars ++ text) = text := by
  unfold firstLineEnd
  by_cases hfeed : '\n' ∈ chars
  · rw [if_pos (by simpa using hfeed)]
    rfl
  · rw [if_neg (by simpa using hfeed)]
    show (newline? text).getD text = text
    rw [h hfeed]
    rfl

theorem text?_quotedLinesForm (chars : List Char) (hrest : Ends rest) :
    text? (quotedLinesForm chars ++ rest) = some (String.ofList chars, rest) := by
  have hsplit : quotedLinesForm chars ++ rest = '"' :: '"' :: '"' ::
      (firstLineEnd chars ++ (quotedChars true 2 0 chars ++ '"' :: '"' :: '"' :: rest)) := by
    simp [quotedLinesForm]
  have hopen : '\n' ∉ chars →
      newline? (quotedChars true 2 0 chars ++ '"' :: '"' :: '"' :: rest) = none := by
    intro hfeed
    cases chars with
    | nil => exact newline?_cons _ (by decide) (by decide)
    | cons c chars =>
      obtain ⟨-, -, hwritten⟩ | ⟨rfl, -, -⟩ | ⟨mark, -, hwritten⟩ |
        ⟨-, -, hnewline, hreturn, -, hwritten⟩ := quotedChars_cons_cases true 2 0 c chars
      · rw [hwritten]
        exact newline?_cons _ (by decide) (by decide)
      · exact absurd List.mem_cons_self hfeed
      · rw [hwritten]
        exact newline?_cons _ (by decide) (by decide)
      · rw [hwritten]
        exact newline?_cons _ hnewline hreturn
  have hle := length_le_length_quotedChars true 2 0 chars
  rw [hsplit, text?, dropNewline_firstLineEnd hopen,
    quotedLines_quotedChars chars (hrest.head_ne (by decide)) (Nat.zero_le 2)
      (by simp only [List.length_append]; omega)]
  rfl

/-- A literal text on one line has no apostrophes, no control characters and no line
ends. -/
theorem text?_literalForm {chars : List Char} (hne : chars ≠ [])
    (hmark : '\'' ∉ chars) (hneeds : ∀ c ∈ chars, needsEscape c = false) (hfeed : '\n' ∉ chars)
    (rest : List Char) : text? (literalForm chars ++ rest) = some (String.ofList chars, rest) := by
  have hsplit : literalForm chars ++ rest = '\'' :: (chars ++ '\'' :: rest) := by
    simp [literalForm]
  have hplain : ∀ c ∈ chars, c ≠ '\'' ∧ isPrintable c = true := by
    intro c hc
    have hnewline : c ≠ '\n' := fun heq => hfeed (heq ▸ hc)
    exact ⟨fun heq => hmark (heq ▸ hc), (isPrintable_of_needsEscape (hneeds c hc) hnewline).1⟩
  obtain ⟨first, others, rfl⟩ := List.exists_cons_of_ne_nil hne
  rw [hsplit, text?_apostrophe, literalBody_append hplain rest]
  · rfl
  · intro tail heq
    exact (hplain first List.mem_cons_self).1 (List.cons.inj heq).1

/-- A literal text over several lines has no control characters and nowhere three
apostrophes in a row. -/
theorem text?_literalLinesForm {chars : List Char} (hruns : longestRun '\'' chars ≤ 2)
    (hneeds : ∀ c ∈ chars, needsEscape c = false) (hrest : Ends rest) :
    text? (literalLinesForm chars ++ rest) = some (String.ofList chars, rest) := by
  have hsplit : literalLinesForm chars ++ rest = '\'' :: '\'' :: '\'' ::
      (firstLineEnd chars ++ (chars ++ '\'' :: '\'' :: '\'' :: rest)) := by
    simp [literalLinesForm]
  have hopen : '\n' ∉ chars → newline? (chars ++ '\'' :: '\'' :: '\'' :: rest) = none := by
    intro hfeed
    cases chars with
    | nil => exact newline?_cons _ (by decide) (by decide)
    | cons c chars =>
      have hnewline : c ≠ '\n' := fun heq => hfeed (heq ▸ List.mem_cons_self)
      exact newline?_cons _ hnewline
        (isPrintable_of_needsEscape (hneeds c List.mem_cons_self) hnewline).2
  have hshort : ∀ back, back <:+ chars → runLength '\'' back ≤ 2 :=
    fun back hback => Nat.le_trans (runLength_le_longestRun '\'' hback) hruns
  rw [hsplit, text?, dropNewline_firstLineEnd hopen,
    literalLines_append hshort hneeds (hrest.head_ne (by decide))
      (by simp only [List.length_append]; omega)]
  rfl

/-- A written text is read back, whatever its characters are: of the forms that need
an assumption, only those are chosen for which it holds. -/
theorem text?_writeText (text : String) (hrest : Ends rest) :
    text? (writeText text ++ rest) = some (text, rest) := by
  have hneeds : ¬ text.toList.any needsEscape = true →
      ∀ c ∈ text.toList, needsEscape c = false := by
    intro h c hc
    exact Bool.eq_false_iff.mpr fun hcontrol => h (List.any_eq_true.mpr ⟨c, hc, hcontrol⟩)
  suffices h : text? (writeText text ++ rest) = some (String.ofList text.toList, rest) by
    rw [h, String.ofList_toList]
  unfold writeText
  dsimp only
  split
  · exact text?_quotedForm text.toList hrest
  · next hquoted =>
    split
    · next h =>
      obtain ⟨hcontrol, hmarks, hfeed⟩ := h
      -- The empty text has taken the first form.
      have hne : text.toList ≠ [] := by
        intro hnil
        exact hquoted (by rw [hnil]; decide)
      exact text?_literalForm hne (notMem_of_longestRun_eq_zero hmarks) (hneeds hcontrol)
        (by simpa using hfeed) rest
    · split
      · exact text?_quotedLinesForm text.toList hrest
      · split
        · next h => exact text?_literalLinesForm h.2 (hneeds h.1) hrest
        · split
          · exact text?_quotedLinesForm text.toList hrest
          · exact text?_quotedForm text.toList hrest

end SensorGateway.Toml
