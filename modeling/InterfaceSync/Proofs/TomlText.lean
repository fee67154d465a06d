import InterfaceSync.Proofs.NumberText
import InterfaceSync.Toml.Reader
import InterfaceSync.Toml.Writer

/-! Texts, keys and plain values of TOML files read back. Whichever of the quoted forms a text is
written in, the reader finds the text and stops behind the last quote. -/

namespace InterfaceSync.Toml

theorem isPlain_of_printed {c : Char} (printed : isControl c = false) (line : c ≠ '\n') :
    isPlain c = true := by
  by_cases tab : c = '\t'
  · simp [isPlain, tab]
  · simp only [isControl, Bool.and_eq_false_iff, bne_eq_false_iff_eq, tab, line, or_self, false_or,
      Bool.or_eq_false_iff, decide_eq_false_iff_not, beq_eq_false_iff_ne] at printed
    simp [isPlain, Char.not_lt.mp printed.1, printed.2]

theorem isPlain_of_fitsLine {text : List Char} (fits : fitsLine text = true) :
    ∀ c ∈ text, isPlain c = true := by
  intro c inside
  simp only [fitsLine, Bool.not_eq_true', List.any_eq_false, Bool.or_eq_true, beq_iff_eq,
    not_or] at fits
  exact isPlain_of_printed (Bool.eq_false_iff.mpr (fits c inside).2) (fits c inside).1

private theorem char?_control : ∀ n < 128,
    Hex.char? ['0', '0', Hex.upperDigit (n / 16), Hex.upperDigit (n % 16)] =
      some (Char.ofNat n) := by
  decide +kernel

theorem char?_of_control {c : Char} (control : isControl c = true) :
    Hex.char? ['0', '0', Hex.upperDigit (c.toNat / 16), Hex.upperDigit (c.toNat % 16)] =
      some c := by
  have small : c.toNat < 128 := by
    simp only [isControl, Bool.and_eq_true, Bool.or_eq_true, decide_eq_true_eq,
      beq_iff_eq] at control
    rcases control.2 with low | rfl
    · exact Nat.lt_trans (show c.toNat < 32 from low) (by decide)
    · decide
  rw [char?_control _ small, Char.ofNat_toNat]

/-- A character is never written as a quote or a line end. -/
theorem escapeChar_head (c : Char) :
    ∃ d more, escapeChar c = d :: more ∧ d ≠ '"' ∧ d ≠ '\n' ∧ d ≠ '\r' := by
  unfold escapeChar
  split
  · exact ⟨_, _, rfl, by decide⟩
  split
  · exact ⟨_, _, rfl, by decide⟩
  split
  · exact ⟨_, _, rfl, by decide⟩
  split
  · exact ⟨_, _, rfl, by decide⟩
  next quote _ line return_ =>
    repeat' split
    all_goals first
      | exact ⟨_, _, rfl, by decide⟩
      | exact ⟨_, _, rfl, by simpa using quote, by simpa using line, by simpa using return_⟩

private theorem readBasic_escapeChar (c : Char) (text : List Char) :
    readBasic (escapeChar c ++ text) = before c (readBasic text) := by
  unfold escapeChar
  split
  next quote => rw [eq_of_beq quote]; rfl
  split
  next backslash => rw [eq_of_beq backslash]; rfl
  split
  next newline => rw [eq_of_beq newline]; rfl
  split
  next return_ => rw [eq_of_beq return_]; rfl
  split
  next tab => rw [eq_of_beq tab]; rfl
  split
  next backspace => rw [eq_of_beq backspace]; rfl
  split
  next feed => rw [eq_of_beq feed]; rfl
  split
  next control =>
    simp only [List.cons_append, List.nil_append, readBasic, char?_of_control control]
  next quote backslash line _ _ _ _ printed =>
    rw [beq_iff_eq] at quote backslash line
    have plain := isPlain_of_printed (Bool.eq_false_iff.mpr printed) line
    simp [readBasic, backslash, plain]

theorem readBasic_flatMap (text rest : List Char) :
    readBasic (text.flatMap escapeChar ++ '"' :: rest) = some (text, rest) := by
  induction text with
  | nil => rfl
  | cons c text ih =>
    rw [List.flatMap_cons, List.append_assoc, readBasic_escapeChar, ih]
    rfl

theorem readLiteral_append {text : List Char} (plain : ∀ c ∈ text, isPlain c = true)
    (absent : '\'' ∉ text) (rest : List Char) :
    readLiteral (text ++ '\'' :: rest) = some (text, rest) := by
  induction text with
  | nil => rfl
  | cons c text ih =>
    simp only [List.mem_cons, not_or] at absent
    have inner := ih (fun d inside => plain d (List.mem_cons_of_mem _ inside)) absent.2
    rw [List.cons_append, readLiteral]
    · simp [plain c List.mem_cons_self, inner, before]
    · exact fun same => absent.1 same.symm

theorem endQuotes_nil {quote : Char} {rest : List Char} (ends : rest.head? ≠ some quote) :
    endQuotes quote rest = ([], rest) := by
  match rest with
  | [] => rfl
  | [a] | a :: b :: rest =>
    have other : a ≠ quote := by simpa using ends
    simp [endQuotes, other]

theorem endQuotes_one {quote : Char} {rest : List Char} (ends : rest.head? ≠ some quote) :
    endQuotes quote (quote :: rest) = ([quote], rest) := by
  match rest with
  | [] => simp [endQuotes]
  | a :: rest =>
    have other : a ≠ quote := by simpa using ends
    simp [endQuotes, other]

theorem endQuotes_two (quote : Char) (rest : List Char) :
    endQuotes quote (quote :: quote :: rest) = ([quote, quote], rest) := by
  simp [endQuotes]

/-- A quote that no two others follow is part of the text. -/
theorem readLinesBasic_quote {tail : List Char} (single : ∀ more, tail ≠ '"' :: '"' :: more) :
    readLinesBasic false ('"' :: tail) = before '"' (readLinesBasic false tail) := by
  rw [readLinesBasic]
  · rfl
  · exact fun more _ same => single more same
  all_goals simp

private theorem readLinesBasic_escapeChar {c : Char} (line : c ≠ '\n') (text : List Char) :
    readLinesBasic false (escapeChar c ++ text) = before c (readLinesBasic false text) := by
  unfold escapeChar
  split
  next quote => rw [eq_of_beq quote]; rfl
  split
  next backslash => rw [eq_of_beq backslash]; rfl
  split
  next newline => exact absurd (eq_of_beq newline) line
  split
  next return_ => rw [eq_of_beq return_]; rfl
  split
  next tab => rw [eq_of_beq tab]; rfl
  split
  next backspace => rw [eq_of_beq backspace]; rfl
  split
  next feed => rw [eq_of_beq feed]; rfl
  split
  next control =>
    simp only [List.cons_append, List.nil_append, readLinesBasic, char?_of_control control]
  next quote backslash _ return_ _ _ _ printed =>
    rw [beq_iff_eq] at quote backslash return_
    have plain := isPlain_of_printed (Bool.eq_false_iff.mpr printed) line
    rw [List.singleton_append, readLinesBasic]
    · simp [backslash, line, plain]
    all_goals simp_all

/-- Two quotes side by side are followed by a backslash where a third one would stand. -/
theorem escapeLines_head {quotes : Nat} {c : Char} (text : List Char)
    (stops : c ≠ '"' ∨ 2 ≤ quotes) :
    ∃ d more, escapeLines quotes (c :: text) = d :: more ∧ d ≠ '"' := by
  by_cases quote : c = '"'
  · have many : ¬ quotes < 2 := Nat.not_lt.mpr (stops.resolve_left (absurd quote))
    exact ⟨'\\', _, by simp [escapeLines, quote, many]; rfl, by decide⟩
  · by_cases line : c = '\n'
    · exact ⟨'\n', _, by simp [escapeLines, line]; rfl, by decide⟩
    · have unescaped : escapeLines quotes (c :: text) = escapeChar c ++ escapeLines 0 text := by
        simp [escapeLines, quote, line]
      obtain ⟨d, more, starts, other, _⟩ := escapeChar_head c
      exact ⟨d, more ++ escapeLines 0 text, by rw [unescaped, starts]; rfl, other⟩

/-- A quote that is kept may run into the quotes that close the text. -/
theorem readLinesBasic_keptQuote {quotes : Nat} (few : quotes < 2) {text rest : List Char}
    (ends : rest.head? ≠ some '"')
    (inner : readLinesBasic false (escapeLines (quotes + 1) text ++ '"' :: '"' :: '"' :: rest) =
      some (text, rest)) :
    readLinesBasic false ('"' :: (escapeLines (quotes + 1) text ++ '"' :: '"' :: '"' :: rest)) =
      some ('"' :: text, rest) := by
  have single (alone : ∀ more, escapeLines (quotes + 1) text ++ '"' :: '"' :: '"' :: rest ≠
      '"' :: '"' :: more) :
      readLinesBasic false ('"' :: (escapeLines (quotes + 1) text ++ '"' :: '"' :: '"' :: rest)) =
        some ('"' :: text, rest) := by
    rw [readLinesBasic_quote alone, inner]
    rfl
  match text with
  | [] =>
    change some (endQuotes '"' ('"' :: rest)) = _
    rw [endQuotes_one ends]
  | c :: text =>
    by_cases second : c = '"' ∧ quotes = 0
    · obtain ⟨rfl, rfl⟩ := second
      match text with
      | [] =>
        change some (endQuotes '"' ('"' :: '"' :: rest)) = _
        rw [endQuotes_two]
      | d :: text =>
        obtain ⟨head, tail, starts, other⟩ := escapeLines_head text
          (show d ≠ '"' ∨ 2 ≤ 2 from .inr (Nat.le_refl 2))
        apply single
        intro more same
        have kept : escapeLines 1 ('"' :: d :: text) = '"' :: escapeLines 2 (d :: text) := rfl
        rw [Nat.zero_add, kept, starts] at same
        exact other (List.cons.inj (List.cons.inj same).2).1
    · have stops : c ≠ '"' ∨ 2 ≤ quotes + 1 := by
        by_cases quote : c = '"'
        · exact .inr (Nat.succ_le_succ (Nat.pos_of_ne_zero fun none => second ⟨quote, none⟩))
        · exact .inl quote
      obtain ⟨head, tail, starts, other⟩ := escapeLines_head text stops
      apply single
      intro more same
      rw [starts] at same
      exact other (List.cons.inj same).1

private theorem readLinesBasic_escapeLines (quotes : Nat) (text : List Char) {rest : List Char}
    (ends : rest.head? ≠ some '"') :
    readLinesBasic false (escapeLines quotes text ++ '"' :: '"' :: '"' :: rest) =
      some (text, rest) := by
  induction text generalizing quotes with
  | nil =>
    change some (endQuotes '"' rest) = _
    rw [endQuotes_nil ends]
  | cons c text ih =>
    by_cases quote : c = '"'
    · subst quote
      by_cases few : quotes < 2
      · have kept : escapeLines quotes ('"' :: text) = '"' :: escapeLines (quotes + 1) text := by
          simp [escapeLines, few]
        rw [kept]
        exact readLinesBasic_keptQuote few ends (ih (quotes + 1))
      · have escaped : escapeLines quotes ('"' :: text) = '\\' :: '"' :: escapeLines 0 text := by
          simp [escapeLines, few]
        rw [escaped]
        change before '"' (readLinesBasic false (escapeLines 0 text ++ _)) = _
        rw [ih]
        rfl
    · by_cases line : c = '\n'
      · subst line
        change before '\n' (readLinesBasic false (escapeLines 0 text ++ _)) = _
        rw [ih]
        rfl
      · have unescaped : escapeLines quotes (c :: text) = escapeChar c ++ escapeLines 0 text := by
          simp [escapeLines, quote, line]
        rw [unescaped, List.append_assoc, readLinesBasic_escapeChar line, ih]
        rfl

/-- No three quotes stand side by side. -/
def NoThree (quote : Char) (text : List Char) : Prop :=
  ∀ before after, text ≠ before ++ quote :: quote :: quote :: after

private theorem NoThree.tail {quote c : Char} {text : List Char} (few : NoThree quote (c :: text)) :
    NoThree quote text :=
  fun before after same => few (c :: before) after (congrArg (c :: ·) same)

theorem le_longestRun_foldl (quote : Char) (text : List Char) (longest run : Nat) :
    longest ≤ (text.foldl (fun (longest, run) c =>
      if c == quote then (max longest (run + 1), run + 1) else (longest, 0)) (longest, run)).1 := by
  induction text generalizing longest run with
  | nil => exact Nat.le_refl longest
  | cons c text ih =>
    rw [List.foldl_cons]
    by_cases same : c = quote
    · simpa only [same, beq_self_eq_true, if_true] using
        Nat.le_trans (Nat.le_max_left longest (run + 1)) (ih _ _)
    · simpa only [beq_false_of_ne same, Bool.false_eq_true, if_false] using ih _ _

private theorem noThree_of_longestRun {quote : Char} {text : List Char}
    (few : longestRun quote text ≤ 2) : NoThree quote text := by
  rintro before after rfl
  rw [longestRun, List.foldl_append] at few
  generalize before.foldl _ (0, 0) = reached at few
  obtain ⟨longest, run⟩ := reached
  simp only [List.foldl_cons, beq_self_eq_true, if_true] at few
  have grown := Nat.le_trans (le_longestRun_foldl quote after _ _) few
  omega

private theorem notMem_of_longestRun {quote : Char} {text : List Char}
    (none : longestRun quote text = 0) : quote ∉ text := by
  intro inside
  obtain ⟨before, after, rfl⟩ := List.append_of_mem inside
  rw [longestRun, List.foldl_append] at none
  generalize before.foldl _ (0, 0) = reached at none
  obtain ⟨longest, run⟩ := reached
  simp only [List.foldl_cons, beq_self_eq_true, if_true] at none
  have grown := Nat.le_trans (le_longestRun_foldl quote after _ _) (Nat.le_of_eq none)
  omega

/-- An apostrophe that no two others follow is part of the text. -/
theorem readLinesLiteral_quote {tail : List Char} (single : ∀ more, tail ≠ '\'' :: '\'' :: more) :
    readLinesLiteral ('\'' :: tail) = before '\'' (readLinesLiteral tail) := by
  rw [readLinesLiteral]
  · rfl
  · exact fun more _ same => single more same
  · simp

/-- The apostrophes before the end of a text run into those that close it. -/
theorem readLinesLiteral_keptQuote {text rest : List Char} (few : NoThree '\'' ('\'' :: text))
    (ends : rest.head? ≠ some '\'')
    (inner : readLinesLiteral (text ++ '\'' :: '\'' :: '\'' :: rest) = some (text, rest)) :
    readLinesLiteral ('\'' :: (text ++ '\'' :: '\'' :: '\'' :: rest)) =
      some ('\'' :: text, rest) := by
  have single (alone : ∀ more, text ++ '\'' :: '\'' :: '\'' :: rest ≠ '\'' :: '\'' :: more) :
      readLinesLiteral ('\'' :: (text ++ '\'' :: '\'' :: '\'' :: rest)) =
        some ('\'' :: text, rest) := by
    rw [readLinesLiteral_quote alone, inner]
    rfl
  match text with
  | [] =>
    change some (endQuotes '\'' ('\'' :: rest)) = _
    rw [endQuotes_one ends]
  | d :: text =>
    by_cases second : d = '\''
    · subst second
      match text with
      | [] =>
        change some (endQuotes '\'' ('\'' :: '\'' :: rest)) = _
        rw [endQuotes_two]
      | d :: text =>
        have other : d ≠ '\'' := by
          rintro rfl
          exact few [] text rfl
        apply single
        intro more same
        exact other (List.cons.inj (List.cons.inj same).2).1
    · apply single
      intro more same
      exact second (List.cons.inj same).1

private theorem readLinesLiteral_append {text rest : List Char}
    (clean : ∀ c ∈ text, isControl c = false)
    (few : NoThree '\'' text) (ends : rest.head? ≠ some '\'') :
    readLinesLiteral (text ++ '\'' :: '\'' :: '\'' :: rest) = some (text, rest) := by
  induction text with
  | nil =>
    change some (endQuotes '\'' rest) = _
    rw [endQuotes_nil ends]
  | cons c text ih =>
    have inner := ih (fun d inside => clean d (List.mem_cons_of_mem _ inside)) few.tail
    by_cases quote : c = '\''
    · subst quote
      exact readLinesLiteral_keptQuote few ends inner
    · have printed := clean c List.mem_cons_self
      have kept : (c == '\n' || isPlain c) = true := by
        by_cases line : c = '\n'
        · simp [line]
        · simp [isPlain_of_printed printed line]
      rw [List.cons_append, readLinesLiteral]
      · rw [if_pos kept, inner]
        rfl
      · exact fun more same _ => quote same
      · rintro more rfl _
        exact absurd printed (by decide)

private theorem readText_basic (text : List Char) {rest : List Char} (ends : rest.head? ≠ some '"')
    : readText (writeBasic text ++ rest) = some (text, rest) := by
  have closed : writeBasic text ++ rest = '"' :: (text.flatMap escapeChar ++ '"' :: rest) := by
    simp [writeBasic]
  rw [closed, readText]
  · exact readBasic_flatMap text rest
  · intro more same
    match text with
    | [] => exact ends (by rw [(List.cons.inj same).2]; rfl)
    | c :: text =>
      obtain ⟨d, behind, starts, other, _⟩ := escapeChar_head c
      rw [List.flatMap_cons, starts] at same
      exact other (List.cons.inj same).1

private theorem readText_literal {text : List Char} (plain : ∀ c ∈ text, isPlain c = true)
    (absent : '\'' ∉ text) {rest : List Char} (ends : rest.head? ≠ some '\'') :
    readText (writeLiteral text ++ rest) = some (text, rest) := by
  have closed : writeLiteral text ++ rest = '\'' :: (text ++ '\'' :: rest) := by
    simp [writeLiteral]
  rw [closed, readText]
  · exact readLiteral_append plain absent rest
  · intro more same
    match text with
    | [] => exact ends (by rw [(List.cons.inj same).2]; rfl)
    | c :: text => exact absent (by rw [(List.cons.inj same).1]; exact List.mem_cons_self)

private theorem dropLineEnd_cons {c : Char} (line : c ≠ '\n') (return_ : c ≠ '\r')
    (text : List Char) : dropLineEnd (c :: text) = c :: text := by
  rw [dropLineEnd]
  · exact fun more same => line (List.cons.inj same).1
  · exact fun more same => return_ (List.cons.inj same).1

/-- The line end that opens a text of several lines is dropped, and no other one is. -/
theorem dropLineEnd_openLines {text shown : List Char}
    (starts : '\n' ∉ text → ∃ c more, shown = c :: more ∧ c ≠ '\n' ∧ c ≠ '\r') :
    dropLineEnd (openLines text ++ shown) = shown := by
  rw [openLines]
  split
  · rfl
  next single =>
    obtain ⟨c, more, rfl, line, return_⟩ := starts (by simpa using single)
    exact dropLineEnd_cons line return_ more

private theorem readText_linesBasic (text : List Char) {rest : List Char}
    (ends : rest.head? ≠ some '"') :
    readText (writeLinesBasic text ++ rest) = some (text, rest) := by
  have closed : writeLinesBasic text ++ rest = '"' :: '"' :: '"' ::
      (openLines text ++ (escapeLines 0 text ++ '"' :: '"' :: '"' :: rest)) := by
    simp only [writeLinesBasic, List.append_assoc]
    rfl
  rw [closed, readText, dropLineEnd_openLines]
  · exact readLinesBasic_escapeLines 0 text ends
  · intro single
    match text with
    | [] => exact ⟨'"', _, rfl, by decide, by decide⟩
    | c :: text =>
      simp only [List.mem_cons, not_or] at single
      by_cases quote : c = '"'
      · exact ⟨'"', _, by simp [escapeLines, quote]; rfl, by decide, by decide⟩
      · have other : c ≠ '\n' := fun same => single.1 same.symm
        obtain ⟨d, more, starts, _, line, return_⟩ := escapeChar_head c
        exact ⟨d, _, by simp [escapeLines, quote, other, starts]; rfl, line, return_⟩

private theorem readText_linesLiteral {text : List Char} (clean : ∀ c ∈ text, isControl c = false)
    (few : NoThree '\'' text) {rest : List Char} (ends : rest.head? ≠ some '\'') :
    readText (writeLinesLiteral text ++ rest) = some (text, rest) := by
  have closed : writeLinesLiteral text ++ rest = '\'' :: '\'' :: '\'' ::
      (openLines text ++ (text ++ '\'' :: '\'' :: '\'' :: rest)) := by
    simp only [writeLinesLiteral, List.append_assoc]
    rfl
  rw [closed, readText, dropLineEnd_openLines]
  · exact readLinesLiteral_append clean few ends
  · intro single
    match text with
    | [] => exact ⟨'\'', _, rfl, by decide, by decide⟩
    | c :: text =>
      refine ⟨c, _, rfl, ?_, ?_⟩
      · rintro rfl
        exact single List.mem_cons_self
      · rintro rfl
        exact absurd (clean _ List.mem_cons_self) (by decide)

/-- Any text is read back, unless a quote follows it directly. -/
theorem readText_writeText (text : List Char) {rest : List Char}
    (basic : rest.head? ≠ some '"') (literal : rest.head? ≠ some '\'') :
    readText (writeText text ++ rest) = some (text, rest) := by
  unfold writeText
  dsimp only
  split
  · exact readText_basic text basic
  split
  next oneLine =>
    rw [Bool.and_eq_true, beq_iff_eq] at oneLine
    exact readText_literal (isPlain_of_fitsLine oneLine.1) (notMem_of_longestRun oneLine.2) literal
  split
  · exact readText_linesBasic text basic
  split
  next lines =>
    simp only [Bool.and_eq_true, Bool.not_eq_true', List.any_eq_false, decide_eq_true_eq] at lines
    exact readText_linesLiteral (fun c inside => Bool.eq_false_iff.mpr (lines.1 c inside))
      (noThree_of_longestRun lines.2) literal
  split
  · exact readText_linesBasic text basic
  · exact readText_basic text basic

private theorem readKey_bare {key rest : List Char} (filled : key ≠ [])
    (bare : ∀ c ∈ key, isBare c = true)
    (ends : ∀ c ∈ rest.head?, isBare c = false) : readKey (key ++ rest) = some (key, rest) := by
  have stops : rest.takeWhile isBare = [] ∧ rest.dropWhile isBare = rest := by
    match rest with
    | [] => exact ⟨rfl, rfl⟩
    | c :: rest => simp [ends c rfl]
  have taken : (key ++ rest).takeWhile isBare = key := by
    rw [List.takeWhile_append_of_pos bare, stops.1, List.append_nil]
  have dropped : (key ++ rest).dropWhile isBare = rest := by
    rw [List.dropWhile_append_of_pos bare, stops.2]
  rw [readKey, taken, dropped]
  · match key with
    | [] => exact absurd rfl filled
    | c :: key => rfl
  all_goals
    intro more same
    match key with
    | [] => exact filled rfl
    | c :: key =>
      have first := bare c List.mem_cons_self
      rw [(List.cons.inj same).1] at first
      exact absurd first (by decide)

/-- Any key is read back, unless more of a bare key follows it directly. -/
theorem readKey_writeKey (key : List Char) {rest : List Char}
    (ends : ∀ c ∈ rest.head?, isBare c = false) :
    readKey (writeKey key ++ rest) = some (key, rest) := by
  have basic : readKey (writeBasic key ++ rest) = some (key, rest) := by
    have closed : writeBasic key ++ rest = '"' :: (key.flatMap escapeChar ++ '"' :: rest) := by
      simp [writeBasic]
    rw [closed]
    exact readBasic_flatMap key rest
  unfold writeKey
  split
  next bare =>
    simp only [Bool.and_eq_true, Bool.not_eq_true', List.isEmpty_eq_false_iff,
      List.all_eq_true] at bare
    exact readKey_bare bare.1 bare.2 ends
  split
  · exact basic
  split
  next oneLine =>
    simp only [Bool.and_eq_true, Bool.not_eq_true', List.contains_eq_mem,
      decide_eq_false_iff_not] at oneLine
    have closed : writeLiteral key ++ rest = '\'' :: (key ++ '\'' :: rest) := by
      simp [writeLiteral]
    rw [closed]
    exact readLiteral_append (isPlain_of_fitsLine oneLine.1) oneLine.2 rest
  · exact basic

/-- A text is read as a value up to the end of its line, and opens neither an array nor a table. -/
structure Writes (text : List Char) (value : Setting) : Prop where
  starts : ∃ c more, text = c :: more ∧ isSpace c = false ∧ c ≠ '[' ∧ c ≠ '\x7b'
  reads : ∀ rest, readScalar (text ++ '\n' :: rest) = some (value, '\n' :: rest)

private theorem writeText_head (text : List Char) :
    ∃ c more, writeText text = c :: more ∧ (c = '"' ∨ c = '\'') := by
  unfold writeText
  dsimp only
  repeat' split
  all_goals first
    | exact ⟨'"', _, rfl, .inl rfl⟩
    | exact ⟨'\'', _, rfl, .inr rfl⟩

theorem writes_string (value : String) : Writes (writeString value) (.text value) where
  starts := by
    obtain ⟨c, more, starts, rfl | rfl⟩ := writeText_head value.toList
    · exact ⟨'"', more, starts, by decide, by decide, by decide⟩
    · exact ⟨'\'', more, starts, by decide, by decide, by decide⟩
  reads rest := by
    have read := readText_writeText value.toList (show ('\n' :: rest).head? ≠ some '"' by simp)
      (show ('\n' :: rest).head? ≠ some '\'' by simp)
    obtain ⟨c, more, starts, quote⟩ := writeText_head value.toList
    rw [writeString]
    rw [starts] at read ⊢
    rcases quote with rfl | rfl
    all_goals
      rw [List.cons_append] at read ⊢
      simp only [readScalar, read, Option.map_some, String.ofList_toList]

theorem writes_bool (value : Bool) : Writes (writeBool value) (.truth value) := by
  cases value
  · exact ⟨⟨'f', _, rfl, by decide, by decide, by decide⟩, fun _ => rfl⟩
  · exact ⟨⟨'t', _, rfl, by decide, by decide, by decide⟩, fun _ => rfl⟩

theorem ne_of_isDigit {c other : Char} (digit : c.isDigit = true)
    (different : other.isDigit = false) : c ≠ other := by
  rintro rfl
  rw [digit] at different
  cases different

private theorem startsMoment_digits {digits : List Char} (digit : ∀ c ∈ digits, c.isDigit = true)
    (rest : List Char) : startsMoment (digits ++ '\n' :: rest) = false := by
  have colon {c : Char} (digit : c.isDigit = true) : c ≠ ':' := ne_of_isDigit digit rfl
  have dash {c : Char} (digit : c.isDigit = true) : c ≠ '-' := ne_of_isDigit digit rfl
  match digits with
  | [] | [_] => 
    match rest with
    | [] | [_] | [_, _] | [_, _, _] | _ :: _ :: _ :: _ :: _ => simp [startsMoment]
  | [_, _] =>
    match rest with
    | [] | [_] | _ :: _ :: _ => simp [startsMoment]
  | [_, _, c] =>
    have third := colon (digit c (by simp))
    match rest with
    | [] | _ :: _ => simp [startsMoment, third]
  | [_, _, c, _] =>
    have third := colon (digit c (by simp))
    simp [startsMoment, third]
  | _ :: _ :: c :: _ :: e :: _ =>
    have third := colon (digit c (by simp))
    have fifth := dash (digit e (by simp))
    simp [startsMoment, third, fifth]

private theorem readDigits_go {digits : List Char} (digit : ∀ c ∈ digits, c.isDigit = true)
    (before rest : List Char) :
    readDigits.go Char.isDigit before (digits ++ '\n' :: rest) =
      (before.reverse ++ digits, '\n' :: rest) := by
  induction digits generalizing before with
  | nil =>
    rw [List.nil_append, readDigits.go]
    · simp
    · simp
  | cons c digits ih =>
    have first := digit c List.mem_cons_self
    rw [List.cons_append, readDigits.go]
    · rw [if_pos first, ih fun d inside => digit d (List.mem_cons_of_mem _ inside)]
      simp
    · rintro d more rfl _
      cases first

private theorem valueIn_toDigits (n : Nat) : valueIn 10 (Nat.toDigits 10 n) = n := by
  have digit := (Json.digits_toDigits n).digits
  have values : valueIn 10 (Nat.toDigits 10 n) = Nat.ofDigitChars 10 (Nat.toDigits 10 n) 0 := by
    apply List.foldl_ext
    intro total c inside
    simp [digitValue, digit c inside]
  rw [values, Nat.ofDigitChars_ten_toDigits]

private theorem readWholeDigits_toDigits (n : Nat) (rest : List Char) :
    readWholeDigits (Nat.toDigits 10 n ++ '\n' :: rest) =
      some (Nat.toDigits 10 n, '\n' :: rest) := by
  rcases Json.wholePart_toDigits n with zero | ⟨⟨filled, digit⟩, unpadded⟩
  · rw [zero]
    rfl
  · generalize Nat.toDigits 10 n = digits at *
    match digits with
    | [] => exact absurd rfl filled
    | c :: digits =>
      have first := digit c List.mem_cons_self
      rw [List.cons_append, readWholeDigits]
      · rw [readDigits, if_pos first,
          readDigits_go fun d inside => digit d (List.mem_cons_of_mem _ inside)]
        rfl
      · rintro more same
        exact unpadded (by rw [(List.cons.inj same).1]; rfl)

/-- No number in front of a line end is taken for one in another base. -/
theorem toDigits_unbased (n : Nat) {mark : Char} (printed : mark ≠ '\n') (rest more : List Char) :
    Nat.toDigits 10 n ++ '\n' :: rest ≠ '0' :: mark :: more := by
  intro same
  rcases Json.wholePart_toDigits n with zero | ⟨⟨filled, digit⟩, unpadded⟩
  · rw [zero] at same
    exact printed (List.cons.inj (List.cons.inj same).2).1.symm
  · generalize Nat.toDigits 10 n = digits at *
    match digits with
    | [] => exact filled rfl
    | c :: digits => exact unpadded (by rw [(List.cons.inj same).1]; rfl)

theorem readSign_toDigits (n : Nat) (rest : List Char) :
    readSign (Nat.toDigits 10 n ++ rest) = (false, Nat.toDigits 10 n ++ rest) := by
  obtain ⟨c, more, starts, digit⟩ := (Json.wholePart_toDigits n).head
  rw [starts, List.cons_append, readSign]
  · rintro tail same
    exact ne_of_isDigit digit rfl (List.cons.inj same).1
  · rintro tail same
    exact ne_of_isDigit digit rfl (List.cons.inj same).1

private theorem readDecimal_toDigits {n : Nat} (small : n ≤ maxWhole) (rest : List Char) :
    readDecimal (Nat.toDigits 10 n ++ '\n' :: rest) = some (.whole n, '\n' :: rest) := by
  have bounded : bounded? n = some (n : Int) := by
    rw [maxWhole] at small
    rw [bounded?, if_pos (by omega)]
  simp [readDecimal, readSign_toDigits, readWholeDigits_toDigits, readPlaces, readPower,
    valueIn_toDigits, bounded]

private theorem readNumber_toDigits {n : Nat} (small : n ≤ maxWhole) (rest : List Char) :
    readNumber (Nat.toDigits 10 n ++ '\n' :: rest) = some (.whole n, '\n' :: rest) := by
  have unnamed {first : Char} (letter : first.isDigit = false) (more : List Char) :
      Nat.toDigits 10 n ++ '\n' :: rest ≠ first :: more := by
    obtain ⟨c, behind, starts, digit⟩ := (Json.wholePart_toDigits n).head
    rw [starts]
    exact fun same => ne_of_isDigit digit letter (List.cons.inj same).1
  rw [readNumber, readSign_toDigits]
  · split
    next named => exact absurd named (unnamed rfl _)
    next named => exact absurd named (unnamed rfl _)
    next => exact readDecimal_toDigits small rest
  · exact fun more => toDigits_unbased n (by decide) rest more
  · exact fun more => toDigits_unbased n (by decide) rest more
  · exact fun more => toDigits_unbased n (by decide) rest more

theorem writes_nat {n : Nat} (small : n ≤ maxWhole) : Writes (writeNat n) (.whole n) where
  starts := by
    obtain ⟨c, more, starts, digit⟩ := (Json.wholePart_toDigits n).head
    refine ⟨c, more, starts, ?_, ne_of_isDigit digit rfl, ne_of_isDigit digit rfl⟩
    have blank : c ≠ ' ' ∧ c ≠ '\t' := ⟨ne_of_isDigit digit rfl, ne_of_isDigit digit rfl⟩
    simp [isSpace, blank]
  reads rest := by
    have moment := startsMoment_digits (Json.digits_toDigits n).digits rest
    have number := readNumber_toDigits small rest
    obtain ⟨c, more, starts, digit⟩ := (Json.wholePart_toDigits n).head
    rw [writeNat]
    rw [starts, List.cons_append] at moment number ⊢
    rw [readScalar, moment, number]
    · rfl
    all_goals
      intro more same
      have first := (List.cons.inj same).1
      exact ne_of_isDigit digit rfl first

end InterfaceSync.Toml
