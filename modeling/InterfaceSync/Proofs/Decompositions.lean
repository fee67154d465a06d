import InterfaceSync.Proofs.CharTables
import InterfaceSync.Text.Composition

/-! What characters are made of. Taking a character apart ends at characters that have no parts, and a
character that two others are joined to has the parts of both. -/

namespace InterfaceSync

def parts? (c : Char) : Option (List Char) :=
  (composites.image? c).or (variants.image? c)

theorem decomposeWithin_made {steps : Nat} {c : Char} {parts : List Char}
    (made : parts? c = some parts) :
    decomposeWithin (steps + 1) c = parts.flatMap (decomposeWithin steps) := by
  rw [parts?] at made
  rw [decomposeWithin, made]

theorem decomposeWithin_single {steps : Nat} {c : Char} (single : parts? c = none) :
    decomposeWithin (steps + 1) c = [c] := by
  rw [parts?] at single
  rw [decomposeWithin, single]

/-- A character that is made of nothing else. -/
structure Atom (c : Char) : Prop where
  single : parts? c = none
  letter : Hangul.syllable? c = none

theorem Atom.decomposeChar {c : Char} (atom : Atom c) : decomposeChar c = [c] := by
  rw [InterfaceSync.decomposeChar, Hangul.decompose?, atom.letter, Option.bind_eq_bind,
    Option.bind_none, Option.getD_none, decomposeWithin_single atom.single]

def partEntries : List (Nat × List Nat) :=
  composites.entries ++ variants.entries

theorem parts?_entry {c : Char} {parts : List Char} (made : parts? c = some parts) :
    ∃ image, (c.toNat, image) ∈ partEntries ∧ parts = image.map Char.ofNat := by
  rcases Option.or_eq_some_iff.mp made with composite | ⟨_, variant⟩
  · obtain ⟨image, entry, text⟩ := CharTable.image?_iff.mp composite
    exact ⟨image, List.mem_append_left _ entry, text⟩
  · obtain ⟨image, entry, text⟩ := CharTable.image?_iff.mp variant
    exact ⟨image, List.mem_append_right _ entry, text⟩

/-- So many steps take a character apart. -/
def Settles (steps : Nat) (c : Char) : Prop :=
  ∀ part ∈ decomposeWithin steps c, Atom part

private theorem Settles.succ {steps : Nat} {c : Char} (settles : Settles steps c) :
    decomposeWithin (steps + 1) c = decomposeWithin steps c := by
  induction steps generalizing c with
  | zero =>
    have atom : Atom c := settles c (List.mem_singleton_self c)
    exact decomposeWithin_single atom.single
  | succ steps ih =>
    cases made : parts? c with
    | none => rw [decomposeWithin_single made, decomposeWithin_single made]
    | some parts =>
      rw [Settles, decomposeWithin_made made] at settles
      rw [decomposeWithin_made made, decomposeWithin_made made]
      have same : ∀ part ∈ parts, decomposeWithin (steps + 1) part = decomposeWithin steps part :=
        fun part inside =>
          ih fun piece there => settles piece (List.mem_flatMap.mpr ⟨part, inside, there⟩)
      simp only [List.flatMap_def, List.map_congr_left same]

def syllableBits : Nat :=
  (2 ^ (Hangul.leadCount * Hangul.vowelCount * Hangul.tailCount) - 1) <<< Hangul.firstSyllable

theorem testBit_syllableBits (c : Char) :
    syllableBits.testBit c.toNat = (Hangul.syllable? c).isSome := by
  rw [syllableBits, Nat.testBit_shiftLeft, Nat.testBit_two_pow_sub_one, Hangul.syllable?,
    Hangul.placeFrom?, Bool.eq_iff_iff]
  rw [Bool.and_eq_true, decide_eq_true_eq, decide_eq_true_eq]
  generalize Hangul.leadCount * Hangul.vowelCount * Hangul.tailCount = count
  split
  next within =>
    refine iff_of_true ⟨within.1, ?_⟩ rfl
    omega
  next outside =>
    refine iff_of_false (fun within => outside ⟨within.1, ?_⟩) Bool.false_ne_true
    have first : Hangul.firstSyllable ≤ c.toNat := within.1
    omega

def unsettled : Nat → Nat
  | 0 => syllableBits ||| composites.bits ||| variants.bits
  | steps + 1 =>
    syllableBits ||| partEntries.foldr (fun entry set =>
      (if entry.2.any (unsettled steps).testBit then 1 <<< entry.1 else 0) ||| set) 0

/-- What is checked of an entry: its parts are characters, and two steps take them apart. -/
def entryFits (entry : Nat × List Nat) : Bool :=
  Nat.isValidChar entry.1 && !syllableBits.testBit entry.1 &&
    entry.2.all fun part => Nat.isValidChar part && !(unsettled 2).testBit part

private theorem entries_fit : partEntries.all entryFits = true := by
  decide +kernel

structure Entry (number : Nat) (image : List Nat) : Prop where
  valid : number.isValidChar
  letter : syllableBits.testBit number = false
  parts : ∀ part ∈ image, part.isValidChar ∧ (unsettled 2).testBit part = false

theorem entry_fits {number : Nat} {image : List Nat} (entry : (number, image) ∈ partEntries) :
    Entry number image := by
  have fits := List.all_eq_true.mp entries_fit _ entry
  simp only [entryFits, Bool.and_eq_true, decide_eq_true_eq, Bool.not_eq_true',
    List.all_eq_true] at fits
  exact ⟨fits.1.1, fits.1.2, fits.2⟩

theorem atom_of_bit {c : Char} (clear : (unsettled 0).testBit c.toNat = false) : Atom c := by
  simp only [unsettled, Nat.testBit_or, testBit_syllableBits, CharTable.testBit_bits,
    Bool.or_eq_false_iff, Option.isSome_eq_false_iff, Option.isNone_iff_eq_none] at clear
  obtain ⟨⟨letter, whole⟩, plain⟩ := clear
  refine ⟨?_, letter⟩
  rw [CharTable.contains, Option.isSome_eq_false_iff, Option.isNone_iff_eq_none] at whole plain
  rw [parts?, CharTable.image?, CharTable.image?, whole, plain]
  rfl

private theorem testBit_unsettled_entry {steps number : Nat} {image : List Nat}
    (entry : (number, image) ∈ partEntries)
    (clear : (unsettled (steps + 1)).testBit number = false) :
    ∀ part ∈ image, (unsettled steps).testBit part = false := by
  rw [unsettled, Nat.testBit_or, Bool.or_eq_false_iff, testBit_foldr, List.any_eq_false] at clear
  have own := clear.2 _ entry
  split at own
  next => simp [Nat.shiftLeft_eq] at own
  next open_ =>
    intro part inside
    rw [Bool.eq_false_iff]
    exact fun set => open_ (List.any_eq_true.mpr ⟨part, inside, set⟩)

theorem settles_of_bit {steps : Nat} {c : Char}
    (clear : (unsettled steps).testBit c.toNat = false) : Settles steps c := by
  induction steps generalizing c with
  | zero =>
    intro part inside
    cases List.mem_singleton.mp inside
    exact atom_of_bit clear
  | succ steps ih =>
    cases made : parts? c with
    | none =>
      intro part inside
      rw [decomposeWithin_single made] at inside
      cases List.mem_singleton.mp inside
      rw [unsettled, Nat.testBit_or, Bool.or_eq_false_iff, testBit_syllableBits] at clear
      exact ⟨made, by simpa using clear.1⟩
    | some parts =>
      obtain ⟨image, entry, rfl⟩ := parts?_entry made
      intro part inside
      rw [decomposeWithin_made made] at inside
      obtain ⟨piece, there, inside⟩ := List.mem_flatMap.mp inside
      obtain ⟨number, held, rfl⟩ := List.mem_map.mp there
      refine ih ?_ part inside
      rw [toNat_ofNat ((entry_fits entry).parts number held).1]
      exact testBit_unsettled_entry entry clear number held

/-- The letters that syllables are made of. -/
def letters : List Nat :=
  List.range' Hangul.firstLead Hangul.leadCount ++
    List.range' Hangul.firstVowel Hangul.vowelCount ++
    List.range' (Hangul.noTail + 1) (Hangul.tailCount - 1)

private theorem letters_settled :
    letters.all (fun letter => Nat.isValidChar letter && !(unsettled 0).testBit letter) = true := by
  decide +kernel

theorem letter_atom {c : Char} (letter : c.toNat ∈ letters) : Atom c := by
  have settled := List.all_eq_true.mp letters_settled _ letter
  simp only [Bool.and_eq_true, Bool.not_eq_true'] at settled
  exact atom_of_bit settled.2

namespace Hangul

theorem placeFrom?_iff {first count place : Nat} {c : Char} :
    placeFrom? first count c = some place ↔ place < count ∧ c.toNat = first + place := by
  unfold placeFrom?
  split
  next within => simp only [Option.some.injEq]; omega
  next outside => simp only [reduceCtorEq, false_iff]; omega

theorem syllable?_iff {place : Nat} {c : Char} :
    syllable? c = some place ↔ place < 11172 ∧ c.toNat = 0xAC00 + place :=
  placeFrom?_iff

theorem decompose?_syllable {lead vowel tail : Nat} (leads : lead < 19) (vowels : vowel < 21)
    (tails : tail < 28) {c : Char} (syllable : c.toNat = 0xAC00 + ((lead * 21 + vowel) * 28 + tail)) :
    decompose? c = some (((0x1100 + lead) :: (0x1161 + vowel) ::
      if tail = 0 then [] else [0x11A7 + tail]).map Char.ofNat) := by
  have place : syllable? c = some ((lead * 21 + vowel) * 28 + tail) :=
    syllable?_iff.mpr ⟨by omega, syllable⟩
  have first : ((lead * 21 + vowel) * 28 + tail) / tailCount / vowelCount = lead := by
    simp only [tailCount, vowelCount]
    omega
  have second : ((lead * 21 + vowel) * 28 + tail) / tailCount % vowelCount = vowel := by
    simp only [tailCount, vowelCount]
    omega
  have third : ((lead * 21 + vowel) * 28 + tail) % tailCount = tail := by
    simp only [tailCount]
    omega
  rw [decompose?, place]
  simp only [Option.bind_eq_bind, Option.bind_some, first, second, third]
  rfl

theorem syllable_places {place : Nat} {c : Char} (syllable : syllable? c = some place) :
    ∃ lead vowel tail, lead < 19 ∧ vowel < 21 ∧ tail < 28 ∧
      place = (lead * 21 + vowel) * 28 + tail ∧ c.toNat = 0xAC00 + place := by
  obtain ⟨few, number⟩ := syllable?_iff.mp syllable
  exact ⟨place / 28 / 21, place / 28 % 21, place % 28, by omega, by omega, by omega, by omega,
    number⟩

end Hangul

theorem mem_letters {number : Nat} : number ∈ letters ↔
    (0x1100 ≤ number ∧ number < 0x1113) ∨ (0x1161 ≤ number ∧ number < 0x1176) ∨
      (0x11A8 ≤ number ∧ number < 0x11C3) := by
  simp only [letters, List.mem_append, List.mem_range'_1, or_assoc]
  rfl

theorem letter_toNat {number : Nat} (letter : number ∈ letters) :
    (Char.ofNat number).toNat = number := by
  refine toNat_ofNat (.inl ?_)
  rw [mem_letters] at letter
  omega

theorem decompose?_letters {c : Char} {parts : List Char} (made : Hangul.decompose? c = some parts) :
    ∀ part ∈ parts, part.toNat ∈ letters := by
  obtain ⟨place, syllable, _⟩ := Option.bind_eq_some_iff.mp made
  obtain ⟨lead, vowel, tail, leads, vowels, tails, rfl, number⟩ := Hangul.syllable_places syllable
  rw [Hangul.decompose?_syllable leads vowels tails number] at made
  cases made
  intro part inside
  obtain ⟨own, there, rfl⟩ := List.mem_map.mp inside
  have letter : own ∈ letters := by
    rw [mem_letters]
    simp only [List.mem_cons] at there
    rcases there with rfl | rfl | tailed
    · omega
    · omega
    · split at tailed
      next => cases tailed
      next =>
        cases List.mem_singleton.mp tailed
        omega
  rwa [letter_toNat letter]

/-- What is left when a character is taken apart has no parts of its own. -/
theorem decomposeChar_atom {c part : Char} (inside : part ∈ decomposeChar c) : Atom part := by
  unfold decomposeChar at inside
  cases syllable : Hangul.decompose? c with
  | some parts =>
    rw [syllable, Option.getD_some] at inside
    exact letter_atom (decompose?_letters syllable part inside)
  | none =>
    rw [syllable, Option.getD_none] at inside
    cases made : parts? c with
    | none =>
      rw [decomposeWithin_single made] at inside
      cases List.mem_singleton.mp inside
      refine ⟨made, ?_⟩
      cases place : Hangul.syllable? c with
      | none => rfl
      | some place' =>
        rw [Hangul.decompose?, place] at syllable
        cases syllable
    | some parts =>
      obtain ⟨image, entry, rfl⟩ := parts?_entry made
      rw [decomposeWithin_made made] at inside
      obtain ⟨piece, there, inside⟩ := List.mem_flatMap.mp inside
      obtain ⟨number, held, rfl⟩ := List.mem_map.mp there
      obtain ⟨valid, clear⟩ := (entry_fits entry).parts number held
      refine @settles_of_bit 2 _ ?_ part inside
      rwa [toNat_ofNat valid]

/-- Two letters, or a syllable without a tail and a letter, that a syllable has as its parts. -/
inductive Hangul.Joins (a b whole : Char) : Prop
  | vowel {lead vowel : Nat} (leads : lead < 19) (vowels : vowel < 21)
    (first : a.toNat = 0x1100 + lead) (second : b.toNat = 0x1161 + vowel)
    (both : whole.toNat = 0xAC00 + ((lead * 21 + vowel) * 28 + 0))
  | tail {lead vowel tail : Nat} (leads : lead < 19) (vowels : vowel < 21) (tails : tail < 28)
    (filled : tail ≠ 0) (first : a.toNat = 0xAC00 + ((lead * 21 + vowel) * 28 + 0))
    (second : b.toNat = 0x11A7 + tail)
    (both : whole.toNat = 0xAC00 + ((lead * 21 + vowel) * 28 + tail))

private theorem Hangul.joins_of_compose? {a b whole : Char} (joined : compose? a b = some whole) :
    Joins a b whole := by
  unfold compose? at joined
  split at joined
  next lead vowel leads vowels =>
    obtain ⟨few, first⟩ := placeFrom?_iff.mp leads
    obtain ⟨few', second⟩ := placeFrom?_iff.mp vowels
    simp only [leadCount, vowelCount, tailCount, firstLead, firstVowel, firstSyllable] at *
    cases joined
    refine .vowel few few' first second (toNat_ofNat (.inl ?_))
    omega
  next =>
    split at joined
    next place tail syllable tails =>
      obtain ⟨lead, vowel, own, leads, vowels, owns, rfl, first⟩ := syllable_places syllable
      obtain ⟨few, second⟩ := placeFrom?_iff.mp tails
      simp only [noTail, tailCount] at *
      obtain ⟨bare, ⟨⟩⟩ := Option.ite_none_right_eq_some.mp joined
      have none : own = 0 := by omega
      subst none
      have both : (Char.ofNat (a.toNat + tail + 1)).toNat = a.toNat + tail + 1 :=
        toNat_ofNat (.inl (by omega))
      exact @Joins.tail a b _ lead vowel (tail + 1) leads vowels (by omega) (by omega) first (by omega)
        (by omega)
    next => cases joined

theorem Hangul.Joins.letters {a b whole : Char} (joins : Hangul.Joins a b whole) :
    0x1100 ≤ a.toNat ∧ 0x1100 ≤ b.toNat ∧ ∃ place < 11172, whole.toNat = 0xAC00 + place := by
  cases joins with
  | vowel leads vowels first second both =>
    exact ⟨by omega, by omega, _, by omega, both⟩
  | tail leads vowels tails filled first second both =>
    exact ⟨by omega, by omega, _, by omega, both⟩

/-- What two characters are joined to, by the tables or as a syllable. -/
inductive Joins (a b whole : Char) : Prop
  | syllable (joins : Hangul.Joins a b whole)
  | composite (entry : (whole.toNat, [a.toNat, b.toNat]) ∈ composites.entries)

theorem joins_of_joined? {a b whole : Char} (joined : Composition.joined? a b = some whole) :
    Joins a b whole := by
  rcases Option.or_eq_some_iff.mp joined with syllable | ⟨_, composite⟩
  · exact .syllable (Hangul.joins_of_compose? syllable)
  · obtain ⟨row, found, rfl⟩ := Option.map_eq_some_iff.mp composite
    have inside := Array.mem_of_find?_eq_some found
    have image : row.image = [a.toNat, b.toNat] := by simpa using Array.find?_some found
    have entry : (row.first, [a.toNat, b.toNat]) ∈ composites.entries := by
      refine List.mem_flatMap.mpr ⟨row, Array.mem_toList_iff.mpr inside, List.mem_map.mpr
        ⟨row.first, (CharRow.mem_members (CharTable.filled inside)).mpr ?_, ?_⟩⟩
      · simp [CharRow.contains, CharTable.filled inside]
      · rw [CharRow.imageOf, image]
    have valid := (entry_fits (List.mem_append_left _ entry)).valid
    exact .composite (by rwa [toNat_ofNat valid])

theorem decomposeChar_settled {c : Char} (clear : (unsettled 2).testBit c.toNat = false) :
    decomposeChar c = decomposeWithin 2 c := by
  have letter : Hangul.syllable? c = none := by
    rw [unsettled, Nat.testBit_or, Bool.or_eq_false_iff, testBit_syllableBits] at clear
    simpa using clear.1
  rw [decomposeChar, Hangul.decompose?, letter, Option.bind_eq_bind, Option.bind_none,
    Option.getD_none, (settles_of_bit clear).succ]

theorem Joins.decomposeChar {a b whole : Char} (joins : Joins a b whole) :
    decomposeChar whole = decomposeChar a ++ decomposeChar b := by
  have letter {c : Char} {number : Nat} (own : c.toNat = number) (there : number ∈ letters) :
      InterfaceSync.decomposeChar c = [Char.ofNat number] := by
    rw [(letter_atom (own ▸ there)).decomposeChar, ← own, Char.ofNat_toNat]
  cases joins with
  | syllable joins =>
    cases joins with
    | vowel leads vowels first second both =>
      rw [letter first (mem_letters.mpr (by omega)), letter second (mem_letters.mpr (by omega)),
        InterfaceSync.decomposeChar, Hangul.decompose?_syllable leads vowels (by decide) both]
      rfl
    | tail leads vowels tails filled first second both =>
      rw [letter second (mem_letters.mpr (by omega)), InterfaceSync.decomposeChar,
        InterfaceSync.decomposeChar, Hangul.decompose?_syllable leads vowels tails both,
        Hangul.decompose?_syllable leads vowels (by decide) first, if_neg filled]
      rfl
  | composite entry =>
    have fits := entry_fits (List.mem_append_left _ entry)
    have made : parts? whole = some [a, b] := by
      have image := CharTable.image?_iff.mpr ⟨_, entry, rfl⟩
      rw [parts?, image]
      simp
    have apart : Hangul.syllable? whole = none := by
      have bit := fits.letter
      rw [testBit_syllableBits] at bit
      simpa using bit
    rw [decomposeChar_settled (fits.parts a.toNat (by simp)).2,
      decomposeChar_settled (fits.parts b.toNat (by simp)).2, InterfaceSync.decomposeChar,
      Hangul.decompose?, apart, Option.bind_eq_bind, Option.bind_none, Option.getD_none,
      decomposeWithin_made made]
    simp

end InterfaceSync
