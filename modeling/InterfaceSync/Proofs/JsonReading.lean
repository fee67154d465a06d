import InterfaceSync.Proofs.JsonGrammar

/-! The reader of JSON texts takes the texts of the grammar, and no others, as long as its limits are
kept: it gives a value exactly for a phrase that has one and is not nested too deeply. -/

namespace InterfaceSync.Json

open Phrase

theorem numberEnds_closing {c : Char} (closing : c = ',' ∨ c = ']' ∨ c = '}') (rest : List Char) :
    NumberEnds (c :: rest) := by
  rintro _ ⟨⟩
  rcases closing with rfl | rfl | rfl <;> decide

theorem Phrase.Spelled.head {phrase : Phrase} {text : List Char} (spelled : phrase.Spelled text) :
    ∃ c more, text = c :: more ∧ isBlank c = false ∧ c ≠ ']' := by
  cases spelled with
  | number formed =>
    obtain ⟨c, more, text, starts⟩ := numeral_head formed
    refine ⟨c, more, text, isBlank_number starts, ?_⟩
    rintro rfl
    simp at starts
  | null | true_ | false_ | string | emptyArray | array | emptyObject | object =>
    exact ⟨_, _, rfl, rfl, by decide⟩

private theorem Phrase.Spread.starts {phrase : Phrase} {text : List Char}
    (spread : phrase.Spread text)
    (behind : List Char) : ∃ c more, skipBlanks (text ++ behind) = c :: more ∧ c ≠ ']' := by
  obtain ⟨before, spelled, after⟩ := spread
  obtain ⟨c, more, rfl, printed, other⟩ := spelled.head
  rw [List.append_assoc, List.append_assoc, skipBlanks_append before, List.cons_append,
    skipBlanks_cons printed]
  exact ⟨c, _, rfl, other⟩

private theorem Phrase.SpelledItems.starts {items : List Phrase} {text : List Char}
    (spelled : SpelledItems items text) (behind : List Char) :
    ∃ c more, skipBlanks (text ++ behind) = c :: more ∧ c ≠ ']' := by
  cases spelled with
  | single first => exact first.starts behind
  | cons first others =>
    rw [List.append_assoc]
    exact first.starts _

private theorem Phrase.SpelledKey.starts {key : List Piece} {name : List Char}
    (named : SpelledKey key name)
    (behind : List Char) : ∃ more, skipBlanks (name ++ behind) = '"' :: more := by
  obtain ⟨before, after, blank, _, _, rfl⟩ := named
  rw [List.append_assoc, List.append_assoc, skipBlanks_append blank]
  exact ⟨_, skipBlanks_cons rfl _⟩

private theorem Phrase.SpelledMembers.starts {members : List (List Piece × Phrase)}
    {text : List Char} (spelled : SpelledMembers members text) (behind : List Char) :
    ∃ more, skipBlanks (text ++ behind) = '"' :: more := by
  cases spelled <;>
  · rw [List.append_assoc]
    exact SpelledKey.starts (by assumption) _

/-- One member is read with its key, however that is spelled. -/
theorem readMembers_key {depth fuel : Nat} {key : List Piece} {name chars : List Char}
    (named : SpelledKey key name) (stands : unescape? key = some chars) {text behind : List Char}
    {value : Json} (read : readValue depth fuel text = some (value, behind)) {c : Char}
    {rest : List Char} (follows : skipBlanks behind = c :: rest) {members : List (String × Json)}
    {remaining : List Char}
    (continues : c = ',' ∧ readMembers depth fuel rest = some (members, remaining) ∨
      c = '}' ∧ members = [] ∧ remaining = rest) :
    readMembers depth (fuel + 1) (name ++ ':' :: text) =
      some ((.ofList chars, value) :: members, remaining) := by
  obtain ⟨before, after, blank, blank', formed, rfl⟩ := named
  have divided : skipBlanks (after ++ ':' :: text) = ':' :: text :=
    (skipBlanks_append blank' _).trans (skipBlanks_cons rfl text)
  simp only [List.append_assoc, quoted, List.cons_append, List.nil_append]
  rw [readMembers_blanks blank]
  exact readMembers_member (readChars_pieces formed stands _) divided read follows continues

/-- What is read with enough fuel: phrases up to their end, items and members up to the end of the
container that they stand in. -/
structure Reads (fuel : Nat) : Prop where
  value : ∀ {phrase : Phrase} {text : List Char} {value : Json} {depth : Nat} {behind : List Char},
    phrase.Spelled text → phrase.value? = some value → value.depth ≤ depth →
      2 * text.length ≤ fuel → NumberEnds behind →
        readValue depth fuel (text ++ behind) = some (value, behind)
  items : ∀ {phrases : List Phrase} {text : List Char} {items : List Json} {depth : Nat},
    SpelledItems phrases text → values? phrases = some items → depthItems items ≤ depth →
      2 * text.length + 1 ≤ fuel → ∀ rest,
        readItems depth fuel (text ++ ']' :: rest) = some (items, rest)
  members : ∀ {phrases : List (List Piece × Phrase)} {text : List Char}
    {members : List (String × Json)} {depth : Nat},
    SpelledMembers phrases text → members? phrases = some members → depthMembers members ≤ depth →
      2 * text.length + 1 ≤ fuel → ∀ rest,
        readMembers depth fuel (text ++ '}' :: rest) = some (members, rest)

section

variable {fuel : Nat} (reads : Reads fuel)
include reads

theorem Reads.spread {phrase : Phrase} {text : List Char} {value : Json} {depth : Nat}
    {behind : List Char} (spread : phrase.Spread text) (stands : phrase.value? = some value)
    (shallow : value.depth ≤ depth) (enough : 2 * text.length ≤ fuel) (ends : NumberEnds behind) :
    ∃ rest, readValue depth fuel (text ++ behind) = some (value, rest) ∧
      skipBlanks rest = skipBlanks behind := by
  obtain ⟨before, spelled, after⟩ := spread
  simp only [List.length_append] at enough
  rw [List.append_assoc, List.append_assoc, readValue_blanks before]
  exact ⟨_, reads.value spelled stands shallow (by omega) (numberEnds_blanks after ends),
    skipBlanks_append after _⟩

private theorem Reads.nextItems {phrases : List Phrase} {text : List Char} {items : List Json}
    {depth : Nat} (spelled : SpelledItems phrases text) (stand : values? phrases = some items)
    (shallow : depthItems items ≤ depth) (enough : 2 * text.length ≤ fuel) (rest : List Char) :
    readItems depth (fuel + 1) (text ++ ']' :: rest) = some (items, rest) := by
  cases spelled with
  | single first =>
    obtain ⟨value, stands, more⟩ := Option.bind_eq_some_iff.mp stand
    cases more
    obtain ⟨behind, read, follows⟩ := reads.spread first stands (le_of_max_le_left shallow) enough
      (numberEnds_closing (.inr (.inl rfl)) rest)
    exact readItems_item read (follows.trans (skipBlanks_cons rfl rest)) (.inr ⟨rfl, rfl, rfl⟩)
  | @cons item _ text more first others =>
    obtain ⟨value, stands, tail⟩ := Option.bind_eq_some_iff.mp stand
    obtain ⟨values, stand', rfl⟩ := Option.map_eq_some_iff.mp tail
    rw [List.length_append, List.length_cons] at enough
    rw [List.append_assoc, List.cons_append]
    obtain ⟨behind, read, follows⟩ := reads.spread first stands (le_of_max_le_left shallow)
      (by omega) (numberEnds_closing (.inl rfl) (more ++ ']' :: rest))
    have later := reads.items others stand' (le_of_max_le_right shallow) (by omega) rest
    exact readItems_item read (follows.trans (skipBlanks_cons rfl _)) (.inl ⟨rfl, later⟩)

private theorem Reads.nextMembers {phrases : List (List Piece × Phrase)} {text : List Char}
    {members : List (String × Json)} {depth : Nat} (spelled : SpelledMembers phrases text)
    (stand : members? phrases = some members) (shallow : depthMembers members ≤ depth)
    (enough : 2 * text.length ≤ fuel) (rest : List Char) :
    readMembers depth (fuel + 1) (text ++ '}' :: rest) = some (members, rest) := by
  cases spelled with
  | single named first =>
    obtain ⟨chars, unescaped, more⟩ := Option.bind_eq_some_iff.mp stand
    obtain ⟨value, stands, more⟩ := Option.bind_eq_some_iff.mp more
    cases more
    rw [List.length_append, List.length_cons] at enough
    rw [List.append_assoc, List.cons_append]
    obtain ⟨behind, read, follows⟩ := reads.spread first stands (le_of_max_le_left shallow)
      (by omega) (numberEnds_closing (.inr (.inr rfl)) rest)
    exact readMembers_key named unescaped read (follows.trans (skipBlanks_cons rfl rest))
      (.inr ⟨rfl, rfl, rfl⟩)
  | @cons _ _ _ name text more named first others =>
    obtain ⟨chars, unescaped, tail⟩ := Option.bind_eq_some_iff.mp stand
    obtain ⟨value, stands, tail⟩ := Option.bind_eq_some_iff.mp tail
    obtain ⟨values, stand', rfl⟩ := Option.map_eq_some_iff.mp tail
    simp only [List.length_append, List.length_cons] at enough
    simp only [List.append_assoc, List.cons_append]
    obtain ⟨behind, read, follows⟩ := reads.spread first stands (le_of_max_le_left shallow)
      (by omega) (numberEnds_closing (.inl rfl) (more ++ '}' :: rest))
    have later := reads.members others stand' (le_of_max_le_right shallow) (by omega) rest
    exact readMembers_key named unescaped read (follows.trans (skipBlanks_cons rfl _))
      (.inl ⟨rfl, later⟩)

private theorem Reads.nextValue {phrase : Phrase} {text : List Char} {value : Json} {depth : Nat}
    {behind : List Char} (spelled : phrase.Spelled text) (stands : phrase.value? = some value)
    (shallow : value.depth ≤ depth) (enough : 2 * text.length ≤ fuel + 1)
    (ends : NumberEnds behind) :
    readValue depth (fuel + 1) (text ++ behind) = some (value, behind) := by
  cases spelled with
  | null => cases stands; rfl
  | true_ => cases stands; rfl
  | false_ => cases stands; rfl
  | number formed =>
    obtain ⟨number, denotes, rfl⟩ := Option.map_eq_some_iff.mp stands
    have read := readNumber_numeral formed denotes ends
    obtain ⟨c, more, text, starts⟩ := numeral_head formed
    rw [text, List.cons_append] at read
    rw [text, List.cons_append, readValue_number depth fuel starts, read, Option.map_some]
  | string formed =>
    obtain ⟨chars, unescaped, rfl⟩ := Option.map_eq_some_iff.mp stands
    have read := readChars_pieces formed unescaped behind
    simp only [quoted, List.cons_append, List.append_assoc, List.nil_append]
    rw [readValue, skipBlanks_cons rfl]
    simp only [read, Option.map_some]
  | @emptyArray blanks blank =>
    cases stands
    obtain ⟨depth, rfl⟩ := Nat.exists_eq_add_one_of_ne_zero (Nat.ne_zero_of_lt shallow)
    have closes : skipBlanks (blanks ++ ']' :: behind) = ']' :: behind :=
      (skipBlanks_append blank _).trans (skipBlanks_cons rfl behind)
    simp only [List.cons_append, List.append_assoc, List.nil_append]
    rw [readValue, skipBlanks_cons rfl]
    simp only [closes]
  | array spelled =>
    obtain ⟨items, stand, rfl⟩ := Option.map_eq_some_iff.mp stands
    obtain ⟨depth, rfl⟩ := Nat.exists_eq_add_one_of_ne_zero (Nat.ne_zero_of_lt shallow)
    simp only [List.cons_append, List.append_assoc, List.nil_append, List.length_cons,
      List.length_append, List.length_nil] at enough ⊢
    obtain ⟨c, more, starts, open_⟩ := spelled.starts (']' :: behind)
    rw [readValue_items depth fuel starts open_,
      reads.items spelled stand (Nat.le_of_succ_le_succ shallow) (by omega), Option.map_some]
  | @emptyObject blanks blank =>
    cases stands
    obtain ⟨depth, rfl⟩ := Nat.exists_eq_add_one_of_ne_zero (Nat.ne_zero_of_lt shallow)
    have closes : skipBlanks (blanks ++ '}' :: behind) = '}' :: behind :=
      (skipBlanks_append blank _).trans (skipBlanks_cons rfl behind)
    simp only [List.cons_append, List.append_assoc, List.nil_append]
    rw [readValue, skipBlanks_cons rfl]
    simp only [closes]
  | object spelled =>
    obtain ⟨members, stand, rfl⟩ := Option.map_eq_some_iff.mp stands
    obtain ⟨depth, rfl⟩ := Nat.exists_eq_add_one_of_ne_zero (Nat.ne_zero_of_lt shallow)
    simp only [List.cons_append, List.append_assoc, List.nil_append, List.length_cons,
      List.length_append, List.length_nil] at enough ⊢
    obtain ⟨more, starts⟩ := spelled.starts ('}' :: behind)
    rw [readValue_members depth fuel starts (by decide),
      reads.members spelled stand (Nat.le_of_succ_le_succ shallow) (by omega), Option.map_some]

end

theorem reads (fuel : Nat) : Reads fuel := by
  induction fuel with
  | zero =>
    refine ⟨fun {phrase text _ _ _} spelled _ _ enough _ => ?_, fun _ _ _ enough => ?_,
      fun _ _ _ enough => ?_⟩
    · -- No phrase is spelled without a character.
      obtain ⟨c, more, rfl, _⟩ := spelled.head
      rw [List.length_cons] at enough
      omega
    · omega
    · omega
  | succ fuel ih =>
    exact ⟨ih.nextValue, fun spelled stand shallow enough => ih.nextItems spelled stand shallow
      (by omega), fun spelled stand shallow enough => ih.nextMembers spelled stand shallow (by omega)⟩

/-- A text says one thing only, also where it is nested too deeply to be read. -/
theorem Phrase.Spread.value_unique {phrase phrase' : Phrase} {text : List Char} {value value' : Json}
    (spread : phrase.Spread text) (spread' : phrase'.Spread text)
    (stands : phrase.value? = some value) (stands' : phrase'.value? = some value') :
    value = value' := by
  obtain ⟨rest, read, _⟩ := (reads (2 * text.length)).spread spread stands
    (le_max_left value.depth value'.depth) le_rfl numberEnds_nil
  obtain ⟨rest', read', _⟩ := (reads (2 * text.length)).spread spread' stands'
    (le_max_right value.depth value'.depth) le_rfl numberEnds_nil
  cases read.symm.trans read'
  rfl

/-- A phrase of the value stands in front of the rest, behind blanks. -/
def Takes (depth : Nat) (text : List Char) (value : Json) (rest : List Char) : Prop :=
  ∃ phrase : Phrase, phrase.value? = some value ∧ value.depth ≤ depth ∧
    ∃ before body, Blank before ∧ phrase.Spelled body ∧ text = before ++ (body ++ rest)

theorem Takes.spread {depth : Nat} {text rest behind : List Char} {value : Json}
    (takes : Takes depth text value rest) (follows : skipBlanks rest = behind) :
    ∃ phrase : Phrase, phrase.value? = some value ∧ value.depth ≤ depth ∧
      ∃ body, phrase.Spread body ∧ text = body ++ behind := by
  obtain ⟨phrase, stands, shallow, before, body, blank, spelled, rfl⟩ := takes
  obtain ⟨after, blank', same⟩ := blanks_before follows
  refine ⟨phrase, stands, shallow, _, .intro blank spelled blank', ?_⟩
  simp only [same, List.append_assoc]

theorem takes_of {phrase : Phrase} {depth : Nat} {text body rest : List Char} {value : Json}
    (spelled : phrase.Spelled body) (starts : skipBlanks text = body ++ rest)
    (stands : phrase.value? = some value) (shallow : value.depth ≤ depth) :
    Takes depth text value rest := by
  obtain ⟨before, blank, same⟩ := blanks_before starts
  exact ⟨phrase, stands, shallow, before, body, blank, spelled, same⟩

/-- What is read with any fuel: phrases, items and members of the values that are given. -/
structure Taken (fuel : Nat) : Prop where
  value : ∀ {depth : Nat} {text rest : List Char} {value : Json},
    readValue depth fuel text = some (value, rest) → Takes depth text value rest
  items : ∀ {depth : Nat} {text rest : List Char} {items : List Json},
    readItems depth fuel text = some (items, rest) →
      ∃ phrases, values? phrases = some items ∧ depthItems items ≤ depth ∧
        ∃ body, SpelledItems phrases body ∧ text = body ++ ']' :: rest
  members : ∀ {depth : Nat} {text rest : List Char} {members : List (String × Json)},
    readMembers depth fuel text = some (members, rest) →
      ∃ phrases, members? phrases = some members ∧ depthMembers members ≤ depth ∧
        ∃ body, SpelledMembers phrases body ∧ text = body ++ '}' :: rest

section

variable {fuel depth : Nat} (taken : Taken fuel) {text rest : List Char}
include taken

private theorem Taken.nextItems {items : List Json}
    (read : readItems depth (fuel + 1) text = some (items, rest)) :
    ∃ phrases, values? phrases = some items ∧ depthItems items ≤ depth ∧
      ∃ body, SpelledItems phrases body ∧ text = body ++ ']' :: rest := by
  rw [readItems] at read
  split at read
  · cases read
  next item behind found =>
    split at read
    next more follows =>
      obtain ⟨⟨others, end_⟩, later, same⟩ := Option.map_eq_some_iff.mp read
      cases same
      obtain ⟨phrase, stands, shallow, body, spread, rfl⟩ := (taken.value found).spread follows
      obtain ⟨phrases, stand, shallow', others', spelled, rfl⟩ := taken.items later
      refine ⟨phrase :: phrases, ?_, max_le shallow shallow', _, .cons spread spelled, ?_⟩
      · simp [values?, stands, stand]
      · simp
    next more follows =>
      cases read
      obtain ⟨phrase, stands, shallow, body, spread, rfl⟩ := (taken.value found).spread follows
      refine ⟨[phrase], ?_, max_le shallow (Nat.zero_le _), body, .single spread, rfl⟩
      simp [values?, stands]
    · cases read

private theorem Taken.nextMembers {members : List (String × Json)}
    (read : readMembers depth (fuel + 1) text = some (members, rest)) :
    ∃ phrases, members? phrases = some members ∧ depthMembers members ≤ depth ∧
      ∃ body, SpelledMembers phrases body ∧ text = body ++ '}' :: rest := by
  rw [readMembers] at read
  split at read
  case h_2 => cases read
  next name starts =>
  split at read
  · cases read
  next chars behindKey named =>
  split at read
  case h_2 => cases read
  next behindColon divided =>
  split at read
  · cases read
  next value behind found =>
  obtain ⟨before, blank, rfl⟩ := blanks_before starts
  obtain ⟨key, formed, unescaped, rfl⟩ := pieces_of_readChars named
  obtain ⟨after, blank', rfl⟩ := blanks_before divided
  have spelledKey : SpelledKey key (before ++ quoted key ++ after) :=
    ⟨before, after, blank, blank', formed, rfl⟩
  split at read
  next more follows =>
    obtain ⟨⟨others, end_⟩, later, same⟩ := Option.map_eq_some_iff.mp read
    cases same
    obtain ⟨phrase, stands, shallow, body, spread, rfl⟩ := (taken.value found).spread follows
    obtain ⟨phrases, stand, shallow', others', spelled, rfl⟩ := taken.members later
    refine ⟨(key, phrase) :: phrases, ?_, max_le shallow shallow', _,
      .cons spelledKey spread spelled, ?_⟩
    · simp [members?, unescaped, stands, stand]
    · simp [quoted]
  next more follows =>
    cases read
    obtain ⟨phrase, stands, shallow, body, spread, rfl⟩ := (taken.value found).spread follows
    refine ⟨[(key, phrase)], ?_, max_le shallow (Nat.zero_le _), _,
      .single spelledKey spread, ?_⟩
    · simp [members?, unescaped, stands]
    · simp [quoted]
  · cases read

private theorem Taken.nextArray {behind : List Char} (starts : skipBlanks text = '[' :: behind)
    {items : List Json} (read : readItems depth fuel behind = some (items, rest)) :
    Takes (depth + 1) text (.array items) rest := by
  obtain ⟨phrases, stand, shallow, body, spelled, rfl⟩ := taken.items read
  refine takes_of (.array spelled) ?_ ?_ (Nat.succ_le_succ shallow)
  · simp [starts]
  · simp [value?, stand]

private theorem Taken.nextObject {behind : List Char} (starts : skipBlanks text = '{' :: behind)
    {members : List (String × Json)} (read : readMembers depth fuel behind = some (members, rest)) :
    Takes (depth + 1) text (.object members) rest := by
  obtain ⟨phrases, stand, shallow, body, spelled, rfl⟩ := taken.members read
  refine takes_of (.object spelled) ?_ ?_ (Nat.succ_le_succ shallow)
  · simp [starts]
  · simp [value?, stand]

private theorem Taken.nextValue {value : Json}
    (read : readValue depth (fuel + 1) text = some (value, rest)) : Takes depth text value rest := by
  rw [readValue] at read
  split at read
  next starts =>
    cases read
    exact takes_of .null starts rfl (Nat.zero_le _)
  next starts =>
    cases read
    exact takes_of .true_ starts rfl (Nat.zero_le _)
  next starts =>
    cases read
    exact takes_of .false_ starts rfl (Nat.zero_le _)
  next starts =>
    obtain ⟨⟨chars, behind⟩, found, same⟩ := Option.map_eq_some_iff.mp read
    cases same
    obtain ⟨pieces, formed, stands, rfl⟩ := pieces_of_readChars found
    refine takes_of (.string formed) ?_ ?_ (Nat.zero_le _)
    · simp [starts, quoted]
    · simp [value?, stands]
  next behind starts =>
    split at read
    · cases read
    next notZero closes =>
      cases read
      obtain ⟨blanks, blank, rfl⟩ := blanks_before closes
      refine takes_of (.emptyArray blank) ?_ rfl ?_
      · simp [starts]
      · exact Nat.pos_of_ne_zero notZero
    next =>
      obtain ⟨⟨items, end_⟩, found, same⟩ := Option.map_eq_some_iff.mp read
      cases same
      rw [readItems_skipBlanks] at found
      exact taken.nextArray starts found
  next behind starts =>
    split at read
    · cases read
    next notZero closes =>
      cases read
      obtain ⟨blanks, blank, rfl⟩ := blanks_before closes
      refine takes_of (.emptyObject blank) ?_ rfl ?_
      · simp [starts]
      · exact Nat.pos_of_ne_zero notZero
    next =>
      obtain ⟨⟨members, end_⟩, found, same⟩ := Option.map_eq_some_iff.mp read
      cases same
      rw [readMembers_skipBlanks] at found
      exact taken.nextObject starts found
  next =>
    obtain ⟨⟨number, behind⟩, found, same⟩ := Option.map_eq_some_iff.mp read
    cases same
    obtain ⟨numeral, formed, stands, starts⟩ := numeral_of_readNumber found
    refine takes_of (.number formed) starts ?_ (Nat.zero_le _)
    simp [value?, stands]

end

private theorem taken (fuel : Nat) : Taken fuel := by
  induction fuel with
  | zero => exact ⟨nofun, nofun, nofun⟩
  | succ fuel ih => exact ⟨ih.nextValue, ih.nextItems, ih.nextMembers⟩

/-- A text is read exactly if it spells a phrase that has a value and is not nested too deeply, with
blanks around it. -/
theorem read?_iff {text : String} {value : Json} :
    read? text = some value ↔
      ∃ phrase : Phrase, phrase.Spread text.toList ∧ phrase.value? = some value ∧
        value.depth ≤ maxDepth := by
  constructor
  · intro read
    simp only [read?] at read
    split at read
    next rest found =>
      split at read
      next ends =>
        cases read
        obtain ⟨phrase, stands, shallow, body, spread, whole⟩ :=
          ((taken _).value found).spread (List.isEmpty_iff.mp ends)
        rw [List.append_nil] at whole
        exact ⟨phrase, whole ▸ spread, stands, shallow⟩
      · cases read
    · cases read
  · rintro ⟨phrase, spread, stands, shallow⟩
    obtain ⟨rest, read, ends⟩ := (reads (2 * text.toList.length + 2)).spread spread stands shallow
      (by omega) numberEnds_nil
    rw [List.append_nil] at read
    simp only [read?, read, ends]
    rfl

end InterfaceSync.Json
