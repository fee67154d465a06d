import InterfaceSync.Proofs.CanonicalJson
import InterfaceSync.Proofs.NumberText

/-! JSON texts read back. However the parts of a value are spaced, the reader finds each part at its
place and stops behind it, so a value whose containers are not nested too deeply is read as it was
written, if each of its numbers is. -/

namespace InterfaceSync.Json

def Blank (text : List Char) : Prop :=
  ∀ c ∈ text, isBlank c = true

theorem blank_nil : Blank [] :=
  fun _ inside => absurd inside List.not_mem_nil

structure Spacing.Blank (spacing : Spacing) : Prop where
  beforePart : ∀ level, Json.Blank (spacing.beforePart level)
  beforeEnd : ∀ level, Json.Blank (spacing.beforeEnd level)
  afterKey : Json.Blank spacing.afterKey

theorem Spacing.blank_compact : Spacing.compact.Blank :=
  ⟨nofun, nofun, nofun⟩

theorem Spacing.blank_indented : Spacing.indented.Blank := by
  have line : ∀ level, Json.Blank ('\n' :: List.replicate (2 * level) ' ') := by
    intro level c member
    rcases List.mem_cons.mp member with rfl | space
    · rfl
    · rw [List.eq_of_mem_replicate space]
      rfl
  refine ⟨fun level => line (level + 1), line, fun c member => ?_⟩
  rw [List.mem_singleton.mp member]
  rfl

theorem skipBlanks_append {blanks : List Char} (blank : Blank blanks) (text : List Char) :
    skipBlanks (blanks ++ text) = skipBlanks text :=
  List.dropWhile_append_of_pos blank

theorem skipBlanks_cons {c : Char} (printed : isBlank c = false) (text : List Char) :
    skipBlanks (c :: text) = c :: text := by
  simp [skipBlanks, printed]

/-- What is left when blanks are skipped stands behind blanks. -/
theorem blanks_before {text rest : List Char} (starts : skipBlanks text = rest) :
    ∃ blanks, Blank blanks ∧ text = blanks ++ rest := by
  refine ⟨text.takeWhile isBlank, fun _ member => List.mem_takeWhile_imp member, ?_⟩
  rw [← starts]
  exact List.takeWhile_append_dropWhile.symm

theorem isBlank_cases {c : Char} (blank : isBlank c = true) :
    c = ' ' ∨ c = '\n' ∨ c = '\t' ∨ c = '\r' := by
  simpa [isBlank, or_assoc] using blank

theorem numberEnds_blanks {blanks : List Char} (blank : Blank blanks) {rest : List Char}
    (ends : NumberEnds rest) : NumberEnds (blanks ++ rest) := by
  cases blanks with
  | nil => exact ends
  | cons c blanks =>
    rintro c ⟨⟩
    rcases isBlank_cases (blank c List.mem_cons_self) with rfl | rfl | rfl | rfl <;> decide

private theorem hexUnit?_control : ∀ n < 32,
    hexUnit? '0' '0' (Nat.digitChar (n / 16)) (Nat.digitChar (n % 16)) = some n := by
  decide

private theorem readChars_escapeChar (c : Char) (text : List Char) :
    readChars (escapeChar c ++ text) =
      (readChars text).map fun (chars, rest) => (c :: chars, rest) := by
  unfold escapeChar
  split
  next quote => rw [eq_of_beq quote]; rfl
  split
  next backslash => rw [eq_of_beq backslash]; rfl
  split
  next newline => rw [eq_of_beq newline]; rfl
  split
  next return_ => rw [eq_of_beq return_]; rfl
  split
  next tab => rw [eq_of_beq tab]; rfl
  split
  next backspace => rw [eq_of_beq backspace]; rfl
  split
  next feed => rw [eq_of_beq feed]; rfl
  split
  next control =>
    have small : c.toNat < 32 := control
    have unit := hexUnit?_control c.toNat small
    have single : ¬ (0xD800 ≤ c.toNat ∧ c.toNat < 0xE000) := by omega
    simp only [List.cons_append, List.nil_append, readChars, unit, single, if_false, Char.ofNat_toNat]
  next quote backslash _ _ _ _ _ printed =>
    rw [beq_iff_eq] at quote backslash
    simp [readChars, backslash, printed]

theorem readChars_flatMap (chars rest : List Char) :
    readChars (chars.flatMap escapeChar ++ '"' :: rest) = some (chars, rest) := by
  induction chars with
  | nil => rfl
  | cons c chars ih =>
    rw [List.flatMap_cons, List.append_assoc, readChars_escapeChar, ih]
    rfl

theorem readValue_blanks {blanks : List Char} (blank : Blank blanks) (depth fuel : Nat)
    (text : List Char) : readValue depth fuel (blanks ++ text) = readValue depth fuel text := by
  cases fuel with
  | zero => rfl
  | succ fuel => simp only [readValue, skipBlanks_append blank]

theorem readItems_blanks {blanks : List Char} (blank : Blank blanks) (depth fuel : Nat)
    (text : List Char) : readItems depth fuel (blanks ++ text) = readItems depth fuel text := by
  cases fuel with
  | zero => rfl
  | succ fuel => simp only [readItems, readValue_blanks blank]

theorem readMembers_blanks {blanks : List Char} (blank : Blank blanks) (depth fuel : Nat)
    (text : List Char) : readMembers depth fuel (blanks ++ text) = readMembers depth fuel text := by
  cases fuel with
  | zero => rfl
  | succ fuel => simp only [readMembers, skipBlanks_append blank]

theorem readItems_skipBlanks (depth fuel : Nat) (text : List Char) :
    readItems depth fuel (skipBlanks text) = readItems depth fuel text := by
  obtain ⟨blanks, blank, same⟩ := blanks_before (rfl : skipBlanks text = _)
  rw [← readItems_blanks blank, ← same]

theorem readMembers_skipBlanks (depth fuel : Nat) (text : List Char) :
    readMembers depth fuel (skipBlanks text) = readMembers depth fuel text := by
  obtain ⟨blanks, blank, same⟩ := blanks_before (rfl : skipBlanks text = _)
  rw [← readMembers_blanks blank, ← same]

theorem isBlank_number {c : Char} (starts : c = '-' ∨ c.isDigit = true) : isBlank c = false := by
  cases blank : isBlank c with
  | false => rfl
  | true =>
    exfalso
    rcases isBlank_cases blank with rfl | rfl | rfl | rfl <;> simp at starts

theorem readValue_number (depth fuel : Nat) {c : Char} {more : List Char}
    (starts : c = '-' ∨ c.isDigit = true) :
    readValue depth (fuel + 1) (c :: more) =
      (readNumber (c :: more)).map fun (value, rest) => (.number value, rest) := by
  rw [readValue, skipBlanks_cons (isBlank_number starts)]
  split
  case h_7 => rfl
  all_goals
    rename_i same
    cases same
    simp at starts

/-- An array that does not end at once is read item by item. -/
theorem readValue_items (depth fuel : Nat) {text more : List Char} {c : Char}
    (starts : skipBlanks text = c :: more) (open_ : c ≠ ']') :
    readValue (depth + 1) (fuel + 1) ('[' :: text) =
      (readItems depth fuel text).map fun (items, rest) => (.array items, rest) := by
  rw [← readItems_skipBlanks, readValue, skipBlanks_cons rfl]
  simp [starts, open_]

theorem readValue_members (depth fuel : Nat) {text more : List Char} {c : Char}
    (starts : skipBlanks text = c :: more) (open_ : c ≠ '}') :
    readValue (depth + 1) (fuel + 1) ('{' :: text) =
      (readMembers depth fuel text).map fun (members, rest) => (.object members, rest) := by
  rw [← readMembers_skipBlanks, readValue, skipBlanks_cons rfl]
  simp [starts, open_]

theorem writeWith_head (spacing : Spacing) (level : Nat) (value : Json) :
    ∃ c more, writeWith spacing level value = c :: more ∧ isBlank c = false ∧ c ≠ ']' := by
  cases value with
  | null => exact ⟨_, _, rfl, rfl, by decide⟩
  | bool value => cases value <;> exact ⟨_, _, rfl, rfl, by decide⟩
  | number value =>
    obtain ⟨c, more, text, starts⟩ := writeNumber_head value
    refine ⟨c, more, text, isBlank_number starts, ?_⟩
    rintro rfl
    simp at starts
  | string value => exact ⟨_, _, rfl, rfl, by decide⟩
  | array items => cases items <;> exact ⟨_, _, rfl, rfl, by decide⟩
  | object members => cases members <;> exact ⟨_, _, rfl, rfl, by decide⟩

mutual
def numbers : Json → List Number
  | .number value => [value]
  | .array items => numbersItems items
  | .object members => numbersMembers members
  | .null => []
  | .bool _ => []
  | .string _ => []

def numbersItems : List Json → List Number
  | [] => []
  | item :: items => item.numbers ++ numbersItems items

def numbersMembers : List (String × Json) → List Number
  | [] => []
  | (_, value) :: members => value.numbers ++ numbersMembers members
end

/-- Every number in the value lasts. -/
def Lasts (value : Json) : Prop :=
  ∀ number ∈ value.numbers, number.Lasts

instance (value : Json) : Decidable value.Lasts :=
  inferInstanceAs (Decidable (∀ number ∈ value.numbers, number.Lasts))

theorem lasts_of_short {value : Json} (short : ∀ number ∈ value.numbers, number.Short) :
    value.Lasts :=
  fun number inside => (short number inside).lasts

private theorem numbersItems_eq (items : List Json) : numbersItems items = items.flatMap numbers :=
    by
  induction items with
  | nil => rfl
  | cons item items ih => rw [numbersItems, ih, List.flatMap_cons]

private theorem numbersMembers_eq (members : List (String × Json)) :
    numbersMembers members = members.flatMap (·.2.numbers) := by
  induction members with
  | nil => rfl
  | cons member members ih => rw [numbersMembers, ih, List.flatMap_cons]

private theorem Lasts.item {items : List Json} (lasts : (Json.array items).Lasts) :
    ∀ item ∈ items, item.Lasts := by
  intro item inside number held
  apply lasts number
  rw [numbers, numbersItems_eq]
  exact List.mem_flatMap.mpr ⟨item, inside, held⟩

private theorem Lasts.member {members : List (String × Json)} (lasts : (Json.object members).Lasts)
    : ∀ member ∈ members, member.2.Lasts := by
  intro member inside number held
  apply lasts number
  rw [numbers, numbersMembers_eq]
  exact List.mem_flatMap.mpr ⟨member, inside, held⟩

/-- The text of a value is read to its end, whatever stands behind it but a part of a number. -/
def ReadsBack (spacing : Spacing) (value : Json) : Prop :=
  ∀ (level depth fuel : Nat) (rest : List Char), value.depth ≤ depth →
    2 * (writeWith spacing level value).length ≤ fuel → NumberEnds rest →
      readValue depth fuel (writeWith spacing level value ++ rest) = some (value, rest)

section

variable {spacing : Spacing} (blank : spacing.Blank)

/-- No text is empty, so there is fuel for the first call. -/
theorem readsBack_of {value : Json}
    (reads : ∀ (level depth fuel : Nat) (rest : List Char), value.depth ≤ depth →
      2 * (writeWith spacing level value).length ≤ fuel + 1 → NumberEnds rest →
        readValue depth (fuel + 1) (writeWith spacing level value ++ rest) = some (value, rest)) :
    ReadsBack spacing value := by
  intro level depth fuel rest shallow enough ends
  cases fuel with
  | zero =>
    obtain ⟨c, more, text, _⟩ := writeWith_head spacing level value
    rw [text, List.length_cons] at enough
    omega
  | succ fuel => exact reads level depth fuel rest shallow enough ends

private theorem readsBack_number {number : Number} (lasts : number.Lasts) :
    ReadsBack spacing (.number number) := by
  apply readsBack_of
  intro level depth fuel rest _ _ ends
  have read := readNumber_writeNumber lasts ends
  obtain ⟨c, more, text, starts⟩ := writeNumber_head number
  rw [text, List.cons_append] at read
  simp only [writeWith, text, List.cons_append, readValue_number depth fuel starts, read,
    Option.map_some]

private theorem readsBack_string (text : String) : ReadsBack spacing (.string text) := by
  apply readsBack_of
  intro level depth fuel rest _ _ _
  simp only [writeWith, writeString, List.cons_append, List.append_assoc, List.nil_append]
  rw [readValue, skipBlanks_cons rfl]
  simp only [readChars_flatMap, Option.map_some, String.ofList_toList]

theorem readItems_item {depth fuel : Nat} {text behind : List Char} {item : Json}
    (read : readValue depth fuel text = some (item, behind)) {c : Char} {rest : List Char}
    (follows : skipBlanks behind = c :: rest) {items : List Json} {remaining : List Char}
    (continues : c = ',' ∧ readItems depth fuel rest = some (items, remaining) ∨
      c = ']' ∧ items = [] ∧ remaining = rest) :
    readItems depth (fuel + 1) text = some (item :: items, remaining) := by
  simp only [readItems, read]
  rcases continues with ⟨rfl, more⟩ | ⟨rfl, rfl, rfl⟩
  · simp only [follows, more, Option.map_some]
  · rw [follows]
    rfl

theorem readMembers_member {depth fuel : Nat} {name key behindKey text behind : List Char}
    {value : Json} (reads : readChars name = some (key, behindKey))
    (divided : skipBlanks behindKey = ':' :: text)
    (read : readValue depth fuel text = some (value, behind)) {c : Char} {rest : List Char}
    (follows : skipBlanks behind = c :: rest) {members : List (String × Json)}
    {remaining : List Char}
    (continues : c = ',' ∧ readMembers depth fuel rest = some (members, remaining) ∨
      c = '}' ∧ members = [] ∧ remaining = rest) :
    readMembers depth (fuel + 1) ('"' :: name) =
      some ((.ofList key, value) :: members, remaining) := by
  rw [readMembers, skipBlanks_cons rfl]
  simp only [reads, divided, read]
  rcases continues with ⟨rfl, more⟩ | ⟨rfl, rfl, rfl⟩
  · simp only [follows, more, Option.map_some]
  · rw [follows]
    rfl

private theorem readMembers_written {depth fuel : Nat} (key : String) {text behind : List Char}
    {value : Json} (read : readValue depth fuel text = some (value, behind)) {c : Char}
    {rest : List Char} (follows : skipBlanks behind = c :: rest) {members : List (String × Json)}
    {remaining : List Char}
    (continues : c = ',' ∧ readMembers depth fuel rest = some (members, remaining) ∨
      c = '}' ∧ members = [] ∧ remaining = rest) :
    readMembers depth (fuel + 1) (writeString key ++ ':' :: text) =
      some ((key, value) :: members, remaining) := by
  have named := readChars_flatMap key.toList (':' :: text)
  have found := readMembers_member named (skipBlanks_cons rfl text) read follows continues
  rw [String.ofList_toList] at found
  simpa only [writeString, List.cons_append, List.append_assoc, List.nil_append] using found

include blank

theorem skipBlanks_beforeEnd (level : Nat) {c : Char} (printed : isBlank c = false)
    (rest : List Char) : skipBlanks (spacing.beforeEnd level ++ c :: rest) = c :: rest :=
  (skipBlanks_append (blank.beforeEnd level) _).trans (skipBlanks_cons printed rest)

theorem numberEnds_beforeEnd (level : Nat) {c : Char} (closing : c = ']' ∨ c = '}')
    (rest : List Char) : NumberEnds (spacing.beforeEnd level ++ c :: rest) := by
  apply numberEnds_blanks (blank.beforeEnd level)
  rintro c ⟨⟩
  rcases closing with rfl | rfl <;> decide

private theorem readItems_writeItems (level depth fuel : Nat) (item : Json) (items : List Json)
    (each : ∀ value ∈ item :: items, ReadsBack spacing value)
    (shallow : depthItems (item :: items) ≤ depth)
    (enough : 2 * ((writeWith spacing (level + 1) item).length +
      (writeItems spacing level items).length) ≤ fuel) (rest : List Char) :
    readItems depth (fuel + 1) (writeWith spacing (level + 1) item ++
      (writeItems spacing level items ++ (spacing.beforeEnd level ++ ']' :: rest))) =
      some (item :: items, rest) := by
  have first : ReadsBack spacing item := each item List.mem_cons_self
  have read := first (level + 1) depth fuel (writeItems spacing level items ++
    (spacing.beforeEnd level ++ ']' :: rest)) (le_of_max_le_left shallow) (by omega)
  induction items generalizing item fuel with
  | nil =>
    exact readItems_item (read (numberEnds_beforeEnd blank level (.inl rfl) rest))
      (skipBlanks_beforeEnd blank level rfl rest) (.inr ⟨rfl, rfl, rfl⟩)
  | cons next items ih =>
    simp only [writeItems, List.append_assoc, List.cons_append, List.length_append,
      List.length_cons] at enough read ⊢
    obtain ⟨fuel, rfl⟩ : ∃ n, fuel = n + 1 := Nat.exists_eq_add_one_of_ne_zero (by omega)
    have second : ReadsBack spacing next := each next (List.mem_cons_of_mem item List.mem_cons_self)
    have others := ih fuel next (fun value member => each value (List.mem_cons_of_mem item member))
      (le_of_max_le_right shallow) (by omega) second
      (second (level + 1) depth fuel _ (le_of_max_le_left (le_of_max_le_right shallow)) (by omega))
    rw [← readItems_blanks (blank.beforePart level)] at others
    exact readItems_item (read (by rintro c ⟨⟩; decide)) (skipBlanks_cons rfl _) (.inl ⟨rfl, others⟩)

private theorem readsBack_array {items : List Json} (each : ∀ item ∈ items, ReadsBack spacing item)
    : ReadsBack spacing (.array items) := by
  apply readsBack_of
  intro level depth fuel rest shallow enough _
  obtain ⟨depth, rfl⟩ := Nat.exists_eq_add_one_of_ne_zero (Nat.ne_zero_of_lt shallow)
  cases items with
  | nil => rfl
  | cons item items =>
    simp only [writeWith, List.cons_append, List.length_cons, List.length_append,
      List.append_assoc, List.length_nil, List.nil_append] at enough ⊢
    obtain ⟨fuel, rfl⟩ : ∃ n, fuel = n + 1 := Nat.exists_eq_add_one_of_ne_zero (by omega)
    have read := readItems_writeItems blank level depth fuel item items each
      (Nat.le_of_succ_le_succ shallow) (by omega) rest
    -- An item never begins like the end of the array.
    obtain ⟨c, more, text, printed, other⟩ := writeWith_head spacing (level + 1) item
    have starts (behind : List Char) : skipBlanks (spacing.beforePart level ++
        (writeWith spacing (level + 1) item ++ behind)) = c :: (more ++ behind) := by
      rw [skipBlanks_append (blank.beforePart level), text, List.cons_append, skipBlanks_cons printed]
    rw [readValue_items depth (fuel + 1) (starts _) other, readItems_blanks (blank.beforePart level),
      read, Option.map_some]

private theorem readMembers_writeMembers (level depth fuel : Nat) (key : String) (value : Json)
    (members : List (String × Json))
    (each : ∀ member ∈ (key, value) :: members, ReadsBack spacing member.2)
    (shallow : depthMembers ((key, value) :: members) ≤ depth)
    (enough : 2 * ((writeWith spacing (level + 1) value).length +
      (writeMembers spacing level members).length) ≤ fuel) (rest : List Char) :
    readMembers depth (fuel + 1) (writeString key ++ ':' :: (spacing.afterKey ++
      (writeWith spacing (level + 1) value ++ (writeMembers spacing level members ++
        (spacing.beforeEnd level ++ '}' :: rest))))) = some ((key, value) :: members, rest) := by
  have first : ReadsBack spacing value := each (key, value) List.mem_cons_self
  have read := first (level + 1) depth fuel (writeMembers spacing level members ++
    (spacing.beforeEnd level ++ '}' :: rest)) (le_of_max_le_left shallow) (by omega)
  rw [← readValue_blanks blank.afterKey] at read
  induction members generalizing key value fuel with
  | nil =>
    exact readMembers_written key (read (numberEnds_beforeEnd blank level (.inr rfl) rest))
      (skipBlanks_beforeEnd blank level rfl rest) (.inr ⟨rfl, rfl, rfl⟩)
  | cons member members ih =>
    obtain ⟨next, value'⟩ := member
    simp only [writeMembers, List.append_assoc, List.cons_append, List.length_append,
      List.length_cons] at enough read ⊢
    obtain ⟨fuel, rfl⟩ : ∃ n, fuel = n + 1 := Nat.exists_eq_add_one_of_ne_zero (by omega)
    have second : ReadsBack spacing value' :=
      each (next, value') (List.mem_cons_of_mem (key, value) List.mem_cons_self)
    have behind := second (level + 1) depth fuel (writeMembers spacing level members ++
      (spacing.beforeEnd level ++ '}' :: rest))
      (le_of_max_le_left (le_of_max_le_right shallow)) (by omega)
    rw [← readValue_blanks blank.afterKey] at behind
    have others := ih fuel next value'
      (fun member inside => each member (List.mem_cons_of_mem (key, value) inside))
      (le_of_max_le_right shallow) (by omega) second behind
    rw [← readMembers_blanks (blank.beforePart level)] at others
    exact readMembers_written key (read (by rintro c ⟨⟩; decide)) (skipBlanks_cons rfl _)
      (.inl ⟨rfl, others⟩)

private theorem readsBack_object {members : List (String × Json)}
    (each : ∀ member ∈ members, ReadsBack spacing member.2) :
    ReadsBack spacing (.object members) := by
  apply readsBack_of
  intro level depth fuel rest shallow enough _
  obtain ⟨depth, rfl⟩ := Nat.exists_eq_add_one_of_ne_zero (Nat.ne_zero_of_lt shallow)
  cases members with
  | nil => rfl
  | cons member members =>
    obtain ⟨key, value⟩ := member
    simp only [writeWith, List.cons_append, List.length_cons, List.length_append,
      List.append_assoc, List.length_nil, List.nil_append] at enough ⊢
    obtain ⟨fuel, rfl⟩ : ∃ n, fuel = n + 1 := Nat.exists_eq_add_one_of_ne_zero (by omega)
    have read := readMembers_writeMembers blank level depth fuel key value members each
      (Nat.le_of_succ_le_succ shallow) (by omega) rest
    have starts (behind : List Char) : skipBlanks (spacing.beforePart level ++
        (writeString key ++ behind)) = writeString key ++ behind :=
      (skipBlanks_append (blank.beforePart level) _).trans (skipBlanks_cons rfl _)
    rw [readValue_members depth (fuel + 1) (starts _) (by decide),
      readMembers_blanks (blank.beforePart level), read, Option.map_some]

private theorem readsBack {value : Json} (lasts : value.Lasts) : ReadsBack spacing value := by
  induction value using Json.induction with
  | null => exact readsBack_of fun _ _ _ _ _ _ _ => rfl
  | bool value => cases value <;> exact readsBack_of fun _ _ _ _ _ _ _ => rfl
  | number value => exact readsBack_number (lasts value (List.mem_singleton_self value))
  | string value => exact readsBack_string value
  | array items each => exact readsBack_array blank fun item inside => each item inside (lasts.item item inside)
  | object members each =>
    exact readsBack_object blank fun member inside => each member inside (lasts.member member inside)

/-- A text that was written for a value is read as that value, with its members in their places. -/
theorem read?_writeWith {value : Json} (lasts : value.Lasts) (shallow : value.depth ≤ maxDepth) :
    read? (.ofList (writeWith spacing 0 value)) = some value := by
  have read := readsBack blank lasts 0 maxDepth (2 * (writeWith spacing 0 value).length + 2) []
    shallow (by omega) numberEnds_nil
  rw [List.append_nil] at read
  simp only [read?, String.toList_ofList, read]
  rfl

end

end InterfaceSync.Json
