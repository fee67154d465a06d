import InterfaceSync.Proofs.JsonReach
import InterfaceSync.Proofs.JsonReading
import InterfaceSync.Wire.Payload

/-! Which texts are payloads, told from their members as they stand there. Every text of an object is
one that keeps the limits of the reader, and which shape it has, and what it maps names to, depends on
the order in which equal keys come. -/

namespace InterfaceSync

/-- A value, and what it is once equal keys have been merged, inside it as well: of the members with
one key the last one counts. -/
inductive Json.Merged : Json → Json → Prop
  | null : Merged .null .null
  | bool (value : Bool) : Merged (.bool value) (.bool value)
  | number (value : Json.Number) : Merged (.number value) (.number value)
  | string (value : String) : Merged (.string value) (.string value)
  | array {items merged} (each : List.Forall₂ Merged items merged) :
      Merged (.array items) (.array merged)
  | object {members merged} (ordered : Ordered merged)
      (last : ∀ key, Option.Rel Merged (members.reverse.lookup key) (merged.lookup key)) :
      Merged (.object members) (.object merged)

/-- The mapping has the last member of each name. -/
def NameMap.LastOf (nics : NameMap Json) (members : List (String × Json)) : Prop :=
  ∀ name, Option.Rel Json.Merged (members.reverse.lookup name) (nics.get? name)

namespace Json

theorem lookup_canonicalMembers (members : List (String × Json)) (key : String) :
    (sortEntries (canonicalMembers members)).lookup key =
      (members.reverse.lookup key).map canonical := by
  rw [lookup_sortEntries, canonicalMembers_eq, ← List.map_reverse, lookup_mapValues canonical]

theorem optionRel_merged {members : List (String × Json)}
    (each : ∀ member ∈ members, ∀ merged, Merged member.2 merged ↔ merged = member.2.canonical)
    (key : String) (held : Option Json) :
    Option.Rel Merged (members.reverse.lookup key) held ↔
      held = (sortEntries (canonicalMembers members)).lookup key := by
  rw [lookup_canonicalMembers]
  cases found : members.reverse.lookup key with
  | none => cases held <;> simp
  | some value =>
    have inside : (key, value) ∈ members := List.mem_reverse.mp (lookup_mem found)
    cases held <;> simp [each (key, value) inside]

private theorem forall₂_merged {items held : List Json}
    (each : ∀ item ∈ items, ∀ merged, Merged item merged ↔ merged = item.canonical) :
    List.Forall₂ Merged items held ↔ held = items.map canonical := by
  induction items generalizing held with
  | nil => simp
  | cons item items ih =>
    obtain ⟨head, tail⟩ := List.forall_mem_cons.mp each
    simp [List.forall₂_cons_left_iff, head, ih tail]

theorem merged_iff {value merged : Json} : Merged value merged ↔ merged = value.canonical := by
  induction value using Json.induction generalizing merged with
  | null | bool | number | string =>
    constructor
    · rintro ⟨⟩
      rfl
    · rintro rfl
      constructor
  | array items each =>
    have relates (held : List Json) :
        List.Forall₂ Merged items held ↔ held = items.map canonical :=
      forall₂_merged fun item inside _ => each item inside
    simp only [canonical, canonicalItems_eq]
    constructor
    · rintro ⟨⟩
      next each => rw [(relates _).mp each]
    · rintro rfl
      exact .array ((relates _).mpr rfl)
  | object members each =>
    have relates := optionRel_merged fun member inside _ => each member inside
    simp only [canonical]
    constructor
    · rintro ⟨⟩
      next ordered last =>
        refine congrArg Json.object (ordered_ext ordered (ordered_sortEntries _) fun key => ?_)
        exact (relates key _).mp (last key)
    · rintro rfl
      exact .object (ordered_sortEntries _) fun key => (relates key _).mpr rfl

end Json

theorem NameMap.lastOf_iff {nics : NameMap Json} {members : List (String × Json)} :
    nics.LastOf members ↔ nics = .ofList (Json.canonicalMembers members) := by
  have each : ∀ member ∈ members, ∀ merged,
      Json.Merged member.2 merged ↔ merged = member.2.canonical := fun _ _ _ => Json.merged_iff
  have relates := Json.optionRel_merged each
  constructor
  · exact fun last => NameMap.ext_get? fun name => (relates name _).mp (last name)
  · rintro rfl name
    exact (relates name _).mpr rfl

namespace Payload

/-- Exactly one member is called `nics`, and it is the given object. -/
def Marks (members inner : List (String × Json)) : Prop :=
  (members.map (·.1)).count "nics" = 1 ∧ ("nics", .object inner) ∈ members

/-- What the members of an object come to: the entries inside the one object that is called `nics`, or
all of them. -/
inductive Decodes (members : List (String × Json)) : Payload → Prop
  | wrapped {inner nics} (marks : Marks members inner) (last : nics.LastOf inner) :
      Decodes members (.wrapped nics)
  | bare {nics} (unmarked : ∀ inner, ¬ Marks members inner) (last : nics.LastOf members) :
      Decodes members (.bare nics)

theorem marks_iff {members inner : List (String × Json)} :
    Marks members inner ↔ members.filter (·.1 == "nics") = [("nics", .object inner)] := by
  have counts : (members.map (·.1)).count "nics" = (members.filter (·.1 == "nics")).length := by
    rw [List.count, List.countP_map, List.countP_eq_length_filter]
    rfl
  have inside : ("nics", .object inner) ∈ members ↔
      ("nics", .object inner) ∈ members.filter (·.1 == "nics") := by simp
  rw [Marks, counts, inside, List.length_eq_one_iff]
  constructor
  · rintro ⟨⟨only, same⟩, here⟩
    rw [same] at here ⊢
    rw [List.mem_singleton.mp here]
  · intro same
    rw [same]
    exact ⟨⟨_, rfl⟩, List.mem_singleton_self _⟩

private theorem ofJson?_marked {members inner : List (String × Json)} (marks : Marks members inner)
    : ofJson? (.object members) = some (.wrapped (.ofList (Json.canonicalMembers inner))) := by
  simp only [ofJson?, marks_iff.mp marks]

private theorem ofJson?_unmarked {members : List (String × Json)}
    (unmarked : ∀ inner, ¬ Marks members inner) :
    ofJson? (.object members) = some (.bare (.ofList (Json.canonicalMembers members))) := by
  simp only [ofJson?]
  split
  next name inner found =>
    have marked : (name, Json.object inner) ∈ members.filter (·.1 == "nics") := by simp [found]
    have named : name = "nics" := beq_iff_eq.mp (List.mem_filter.mp marked).2
    exact absurd (marks_iff.mpr (named ▸ found)) (unmarked inner)
  next => rfl

private theorem ofJson?_object_isSome (members : List (String × Json)) :
    (ofJson? (.object members)).isSome = true := by
  simp only [ofJson?]
  split <;> rfl

private theorem decodes_iff {members : List (String × Json)} {payload : Payload} :
    ofJson? (.object members) = some payload ↔ Decodes members payload := by
  constructor
  · intro shape
    by_cases marked : ∃ inner, Marks members inner
    · obtain ⟨inner, marks⟩ := marked
      cases (ofJson?_marked marks).symm.trans shape
      exact .wrapped marks (NameMap.lastOf_iff.mpr rfl)
    · have unmarked : ∀ inner, ¬ Marks members inner := not_exists.mp marked
      cases (ofJson?_unmarked unmarked).symm.trans shape
      exact .bare unmarked (NameMap.lastOf_iff.mpr rfl)
  · rintro (⟨marks, last⟩ | ⟨unmarked, last⟩)
    · rw [ofJson?_marked marks, NameMap.lastOf_iff.mp last]
    · rw [ofJson?_unmarked unmarked, NameMap.lastOf_iff.mp last]

end Payload

/-- The text spells an object with the given members, in their order and with their keys unescaped.
Every number in it is one that the reader's arithmetic reaches, and no half of a character stands
alone. -/
def Json.SpellsObject (text : String) (members : List (String × Json)) : Prop :=
  ∃ phrases, (Phrase.object phrases).Spread text.toList ∧ Phrase.members? phrases = some members

theorem Json.read?_object {text : String} {members : List (String × Json)} :
    read? text = some (.object members) ↔
      SpellsObject text members ∧ (Json.object members).depth ≤ maxDepth := by
  rw [read?_iff]
  constructor
  · rintro ⟨phrase, spread, stands, shallow⟩
    cases phrase with
    | object phrases =>
      obtain ⟨found, stand, same⟩ := Option.map_eq_some_iff.mp stands
      cases same
      exact ⟨⟨phrases, spread, stand⟩, shallow⟩
    | null | bool => cases stands
    | number | string | array =>
      obtain ⟨_, _, other⟩ := Option.map_eq_some_iff.mp stands
      cases other
  · rintro ⟨⟨phrases, spread, stand⟩, shallow⟩
    exact ⟨.object phrases, spread, by rw [Phrase.value?, stand, Option.map_some], shallow⟩

/-- A text spells one object only, whether or not it can be read. -/
theorem Json.SpellsObject.unique {text : String} {members members' : List (String × Json)}
    (spells : SpellsObject text members) (spells' : SpellsObject text members') :
    members = members' := by
  obtain ⟨phrases, spread, stand⟩ := spells
  obtain ⟨phrases', spread', stand'⟩ := spells'
  refine Json.object.inj (spread.value_unique spread' ?_ ?_)
  · rw [Phrase.value?, stand, Option.map_some]
  · rw [Phrase.value?, stand', Option.map_some]

theorem Json.unescape?_plain (chars : List Char) : unescape? (chars.map .plain) = some chars := by
  induction chars with
  | nil => rfl
  | cons c chars ih => rw [List.map_cons, unescape?, ih, Option.map_some]

namespace Json.Phrase

theorem Spelled.spread {phrase : Phrase} {text : List Char} (spelled : phrase.Spelled text) :
    phrase.Spread text := by
  have spread : phrase.Spread ([] ++ text ++ []) := .intro blank_nil spelled blank_nil
  rwa [List.nil_append, List.append_nil] at spread

private theorem spelledKey_quoted {key : List Piece} (formed : ∀ piece ∈ key, piece.Formed) :
    SpelledKey key (quoted key) := by
  refine ⟨[], [], blank_nil, blank_nil, formed, ?_⟩
  rw [List.nil_append, List.append_nil]

def nested : Nat → Phrase
  | 0 => .array []
  | levels + 1 => .array [nested levels]

private theorem spelled_nested (levels : Nat) :
    (nested levels).Spelled
      (List.replicate (levels + 1) '[' ++ List.replicate (levels + 1) ']') := by
  induction levels with
  | zero => exact .emptyArray blank_nil
  | succ levels ih =>
    have outer := Spelled.array (.single ih.spread)
    rw [← List.cons_append, ← List.replicate_succ, List.append_assoc, ← List.replicate_succ'] at outer
    exact outer

private theorem value?_nested (levels : Nat) :
    ∃ value, (nested levels).value? = some value ∧ value.depth = levels + 1 := by
  induction levels with
  | zero => exact ⟨_, rfl, rfl⟩
  | succ levels ih =>
    obtain ⟨value, stands, deep⟩ := ih
    refine ⟨.array [value], ?_, ?_⟩
    · simp [nested, value?, values?, stands]
    · simp [depth, depthItems, deep]

end Json.Phrase

namespace Payload

theorem parse?_object {text : String} {members : List (String × Json)}
    (read : Json.read? text = some (.object members)) : parse? text = ofJson? (.object members) := by
  rw [parse?, read, Option.bind_some]

theorem isSome_parse? {text : String} :
    (parse? text).isSome = true ↔ ∃ members, Json.read? text = some (.object members) := by
  constructor
  · intro parsed
    obtain ⟨payload, parsed⟩ := Option.isSome_iff_exists.mp parsed
    obtain ⟨value, read, shape⟩ := Option.bind_eq_some_iff.mp parsed
    cases value with
    | object members => exact ⟨members, read⟩
    | _ => cases shape
  · rintro ⟨members, read⟩
    rw [parse?_object read]
    exact ofJson?_object_isSome members

theorem parse?_tooDeep {text : String} {members : List (String × Json)}
    (spells : Json.SpellsObject text members)
    (deep : Json.maxDepth < (Json.object members).depth) : parse? text = none := by
  refine Option.not_isSome_iff_eq_none.mp fun parsed => ?_
  obtain ⟨found, read⟩ := isSome_parse?.mp parsed
  obtain ⟨spells', shallow⟩ := Json.read?_object.mp read
  cases spells.unique spells'
  exact absurd shallow (Nat.not_le.mpr deep)

/-- The text of an object with a member in front of one that is called `nics` and holds nothing. -/
def beforeNics (key : List Json.Piece) (value : List Char) : String :=
  .ofList ('{' :: Json.quoted key ++ ':' :: value ++ ",\"nics\":\x7b\x7d\x7d".toList)

theorem spread_beforeNics {key : List Json.Piece} (formed : ∀ piece ∈ key, piece.Formed)
    {phrase : Json.Phrase} {text : List Char} (spelled : phrase.Spelled text) :
    (Json.Phrase.object [(key, phrase), ("nics".toList.map .plain, .object [])]).Spread
      (beforeNics key text).toList := by
  have nics : Json.Phrase.SpelledKey ("nics".toList.map .plain) _ :=
    Json.Phrase.spelledKey_quoted (by simp [Json.Piece.Formed])
  have entries := Json.Phrase.Spelled.emptyObject Json.blank_nil
  have whole := Json.Phrase.Spelled.object
    (.cons (Json.Phrase.spelledKey_quoted formed) spelled.spread (.single nics entries.spread))
  have same : '{' :: (Json.quoted key ++ ':' :: (text ++ ',' ::
      (Json.quoted ("nics".toList.map .plain) ++ ':' :: ('{' :: [] ++ ['}'])))) ++ ['}'] =
      (beforeNics key text).toList := by
    unfold beforeNics
    simp only [String.toList_ofList]
    simp [Json.quoted, Json.Piece.text]
  exact same ▸ whole.spread

theorem spells_beforeNics {key : List Json.Piece} (formed : ∀ piece ∈ key, piece.Formed)
    {chars : List Char} (named : Json.unescape? key = some chars) {phrase : Json.Phrase}
    {text : List Char} (spelled : phrase.Spelled text) {value : Json}
    (stands : phrase.value? = some value) :
    Json.SpellsObject (beforeNics key text) [(.ofList chars, value), ("nics", .object [])] := by
  refine ⟨_, spread_beforeNics formed spelled, ?_⟩
  simp only [Json.Phrase.members?, named, stands, Json.unescape?_plain, Json.Phrase.value?,
    Option.bind_some]
  rfl

def versionKey : List Json.Piece :=
  ['v', 'e', 'r', 's', 'i', 'o', 'n'].map .plain

theorem formed_versionKey : ∀ piece ∈ versionKey, piece.Formed := by
  decide

private theorem formed_scientific {fraction : Option (List Char)} {digits : List Char}
    (places : ∀ places, fraction = some places → Json.Digits places) (power : Json.Digits digits) :
    (Json.Numeral.mk false ['1'] fraction (some ⟨'e', none, digits⟩)).Formed where
  whole := .inr ⟨⟨nofun, by simp⟩, by simp⟩
  fraction := places
  power := by
    rintro _ ⟨⟩
    exact ⟨.inl rfl, nofun, power⟩

/-- A text is a payload exactly if it spells an object within the limits of the reader, and then its
members, in their order, decide on the shape and on the mapping. An object of the grammar is not
refused for its numbers if these have at most 288 places before the point. -/
theorem parse?_members (text : String) :
    ((parse? text).isSome = true ↔
      ∃ members, Json.SpellsObject text members ∧ (Json.object members).depth ≤ Json.maxDepth) ∧
    (∀ members, Json.SpellsObject text members → (Json.object members).depth ≤ Json.maxDepth →
      ∀ payload, parse? text = some payload ↔ Decodes members payload) ∧
    ∀ phrases, (Json.Phrase.object phrases).Spread text.toList →
      (Json.Phrase.object phrases).InReach → ∃ members, Json.SpellsObject text members := by
  simp only [← and_imp, ← Json.read?_object]
  refine ⟨isSome_parse?, fun members read payload => ?_, fun phrases ⟨spread, reach⟩ => ?_⟩
  · rw [parse?_object read]
    exact decodes_iff
  · obtain ⟨value, stands⟩ := Option.isSome_iff_exists.mp reach.isSome
    obtain ⟨members, stand, _⟩ := Option.map_eq_some_iff.mp stands
    exact ⟨members, phrases, spread, stand⟩

/-- A member that is called otherwise is passed over; one with the name in another spelling makes the
name ambiguous, and then the last one counts. A number of 288 places is within reach. -/
theorem parse?_members_twice :
    parse? (beforeNics versionKey "true".toList) = some (.wrapped .empty) ∧
    (∃ nics, parse? (beforeNics [.plain 'n', .unit '0' '0' '6' '9', .plain 'c', .plain 's']
        "true".toList) = some (.bare nics) ∧ nics.entries = [("nics", .object [])]) ∧
    ∃ members, Json.SpellsObject (beforeNics versionKey "1e287".toList) members := by
  have yes := Json.Phrase.Spelled.true_
  refine ⟨?_, ?_, ?_⟩
  · have spells := spells_beforeNics formed_versionKey (Json.unescape?_plain _) yes rfl
    have marks : Marks [("version", .bool true), ("nics", .object [])] [] :=
      ⟨by decide +kernel, List.mem_cons_of_mem _ List.mem_cons_self⟩
    exact ((parse?_members _).2.1 _ spells (by decide) _).mpr (.wrapped marks fun _ => .none)
  · have formed : ∀ piece ∈ [Json.Piece.plain 'n', .unit '0' '0' '6' '9', .plain 'c', .plain 's'],
        piece.Formed := by decide
    have spells := spells_beforeNics formed rfl yes rfl
    have unmarked (inner : List (String × Json)) :
        ¬ Marks [("nics", .bool true), ("nics", .object [])] inner := by
      rintro ⟨once, _⟩
      exact absurd once (by decide +kernel)
    refine ⟨_, ((parse?_members _).2.1 _ spells (by decide) _).mpr
      (.bare unmarked (NameMap.lastOf_iff.mpr rfl)), ?_⟩
    rfl
  · have formed : (Json.Numeral.mk false ['1'] none (some ⟨'e', none, ['2', '8', '7']⟩)).Formed :=
      formed_scientific nofun ⟨nofun, by simp⟩
    refine (parse?_members _).2.2 _ (spread_beforeNics formed_versionKey (.number formed))
      (.object (by decide) ?_)
    intro member inside
    rcases List.mem_pair.mp inside with rfl | rfl
    · exact .number (by decide)
    · exact .object nofun nofun

/-- Objects of the grammar are refused for a number that is too large, for one that is finite but
that the reader's arithmetic does not reach, for half a character, and for 128 containers inside one
another, though these stand beside the entries. -/
theorem parse?_limits :
    let refused (version : List Char) : Prop :=
      (∃ phrases, (Json.Phrase.object phrases).Spread (beforeNics versionKey version).toList) ∧
        parse? (beforeNics versionKey version) = none
    refused "1e999".toList ∧ refused "1.797693134862315708e308".toList ∧
      refused "\"\\ud800\"".toList ∧
      refused (List.replicate 127 '[' ++ List.replicate 127 ']') := by
  have spread {phrase : Json.Phrase} {text : List Char} (spelled : phrase.Spelled text) :=
    spread_beforeNics formed_versionKey spelled
  have huge : (Json.Numeral.mk false ['1'] none (some ⟨'e', none, ['9', '9', '9']⟩)).Formed :=
    formed_scientific nofun ⟨nofun, by simp⟩
  have near : (Json.Numeral.mk false ['1'] (some "797693134862315708".toList)
      (some ⟨'e', none, ['3', '0', '8']⟩)).Formed :=
    formed_scientific (by rintro _ ⟨⟩; exact ⟨nofun, by simp⟩) ⟨nofun, by simp⟩
  have half : ∀ piece ∈ [Json.Piece.unit 'd' '8' '0' '0'], piece.Formed := by decide
  have nested := Json.Phrase.spelled_nested 126
  refine ⟨⟨⟨_, spread (.number huge)⟩, ?_⟩, ⟨⟨_, spread (.number near)⟩, ?_⟩,
    ⟨⟨_, spread (.string half)⟩, ?_⟩, ⟨⟨_, spread nested⟩, ?_⟩⟩
  · exact Option.isNone_iff_eq_none.mp (by decide +kernel)
  · exact Option.isNone_iff_eq_none.mp (by decide +kernel)
  · exact Option.isNone_iff_eq_none.mp (by decide +kernel)
  · -- Running the reader over so deep a text is slow; what it says is told by its phrase.
    obtain ⟨value, stands, deep⟩ := Json.Phrase.value?_nested 126
    refine parse?_tooDeep
      (spells_beforeNics formed_versionKey (Json.unescape?_plain _) nested stands) ?_
    simp [Json.depth, Json.depthMembers, deep, Json.maxDepth]

end Payload

end InterfaceSync
