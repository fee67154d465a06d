import InterfaceSync.Proofs.Composed
import InterfaceSync.Proofs.Results
import InterfaceSync.Url.DomainLabel

/-! The characters of names. What the characters of a name become is not changed again, and neither is
what they are composed to; so a label of a normal name is normal. -/

namespace InterfaceSync

open InterfaceSync.Composition

/-- What holds of the letters of Hangul and of all parts in the tables holds of all parts. -/
theorem decomposeChar_forall {holds : Char → Prop}
    (letters : ∀ number ∈ letters, holds (Char.ofNat number))
    (entries : ∀ entry ∈ partEntries, holds (Char.ofNat entry.1) →
      ∀ part ∈ entry.2, holds (Char.ofNat part)) (c : Char) (own : holds c) :
    ∀ part ∈ decomposeChar c, holds part := by
  have within (steps : Nat) : ∀ c, holds c → ∀ part ∈ decomposeWithin steps c, holds part := by
    induction steps with
    | zero =>
      intro c own part inside
      cases List.mem_singleton.mp inside
      exact own
    | succ steps ih =>
      intro c own part inside
      cases made : parts? c with
      | none =>
        rw [decomposeWithin_single made] at inside
        cases List.mem_singleton.mp inside
        exact own
      | some parts =>
        obtain ⟨image, entry, rfl⟩ := parts?_entry made
        rw [decomposeWithin_made made] at inside
        obtain ⟨piece, there, inside⟩ := List.mem_flatMap.mp inside
        obtain ⟨number, held, rfl⟩ := List.mem_map.mp there
        exact ih _ (entries _ entry (by rwa [Char.ofNat_toNat]) number held) part inside
  rw [decomposeChar]
  cases syllable : Hangul.decompose? c with
  | none => exact within 3 c own
  | some parts =>
    intro part inside
    rw [← Char.ofNat_toNat part]
    exact letters _ (decompose?_letters syllable part inside)

namespace Domain

def dotted (entry : Nat × List Nat) : Bool :=
  entry.1 == '.'.toNat || entry.2.contains '.'.toNat

/-- The characters that names do not keep, as bits: the capitals and those of the tables. -/
def changed : Nat :=
  (2 ^ 26 - 1) <<< 'A'.toNat ||| images.bits ||| ignored.bits ||| refused.bits

def keeps (number : Nat) : Bool :=
  Nat.isValidChar number && !changed.testBit number

/-- What is read off the tables about dots, in one evaluation of them. -/
theorem dots_apart :
    partEntries.all (fun entry => !dotted entry) = true ∧
      (unsettled 0).testBit '.'.toNat = false ∧
      combiningClasses.bits.testBit '.'.toNat = false := by
  decide +kernel

/-- What is read off the tables about the characters that names keep, in one evaluation of them. -/
theorem tables_kept :
    ((∀ number < 128, changed.testBit number =
        !((Char.ofNat number).toLower == Char.ofNat number)) ∧
      ∀ number < 128, changed.testBit (Char.ofNat number).toLower.toNat = false) ∧
    images.entries.all (fun entry => entry.2.all keeps) = true ∧
    letters.all keeps = true ∧
    partEntries.all (fun entry => changed.testBit entry.1 || entry.2.all keeps) = true ∧
    composites.entries.all (fun entry =>
      !changed.testBit entry.1 || entry.2.any changed.testBit) = true ∧
    changed &&& syllableBits = 0 := by
  decide +kernel

private theorem entry_undotted {number : Nat} {image : List Nat}
    (entry : (number, image) ∈ partEntries) : number ≠ '.'.toNat ∧ '.'.toNat ∉ image := by
  simpa [dotted] using List.all_eq_true.mp dots_apart.1 _ entry

/-- A dot is no part of another character, so names are composed label by label. -/
theorem lone_dot : Lone '.' where
  atom := atom_of_bit dots_apart.2.1
  place := by
    have none : combiningClasses.row? '.' = none := by
      rw [← Option.isNone_iff_eq_none, ← Option.isSome_eq_false_iff]
      exact (CharTable.testBit_bits '.').symm.trans dots_apart.2.2
    rw [combiningClass, CharTable.value?, none]
    rfl
  closed :=
    { parts := decomposeChar_forall
        (fun number letter same => by
          have number_eq := congrArg Char.toNat same
          rw [letter_toNat letter] at number_eq
          subst number_eq
          exact absurd letter (by decide))
        fun entry inside _ part there same => by
          have number_eq := congrArg Char.toNat same
          rw [toNat_ofNat ((entry_fits inside).parts part there).1] at number_eq
          subst number_eq
          exact (entry_undotted inside).2 there
      joins := by
        rintro a b whole _ _ joins rfl
        cases joins with
        | composite entry => exact (entry_undotted (List.mem_append_left _ entry)).1 rfl
        | syllable joins =>
          obtain ⟨_, _, place, _, number⟩ := joins.letters
          have dot : '.'.toNat = 46 := rfl
          omega }
  apart a b whole joins := by
    cases joins with
    | composite entry =>
      have apart := (entry_undotted (List.mem_append_left _ entry)).2
      constructor <;> rintro rfl <;> simp at apart
    | syllable joins =>
      obtain ⟨first, second, _⟩ := joins.letters
      have dot : '.'.toNat = 46 := rfl
      constructor <;> rintro rfl <;> omega

def IsKept (c : Char) : Prop :=
  mapChar? c = some [c]

private theorem changed_high {c : Char} (high : Punycode.isAscii c = false) : changed.testBit
    c.toNat =
    (images.contains c || ignored.contains c || refused.contains c) := by
  have outside : ¬ c.toNat < 128 := of_decide_eq_false high
  have capital : ((2 ^ 26 - 1) <<< 'A'.toNat).testBit c.toNat = false := by
    have first : 'A'.toNat = 65 := rfl
    rw [Nat.testBit_shiftLeft, Nat.testBit_two_pow_sub_one, first, Bool.and_eq_false_iff,
      decide_eq_false_iff_not, decide_eq_false_iff_not]
    omega
  rw [changed, Nat.testBit_or, Nat.testBit_or, Nat.testBit_or, capital, Bool.false_or,
    CharTable.testBit_bits, CharTable.testBit_bits, CharTable.testBit_bits]

private theorem images_kept : images.entries.all (fun entry => entry.2.all keeps) = true :=
  tables_kept.2.1

theorem image_kept {c : Char} {text : List Char} (image : images.image? c = some text) :
    ∀ d ∈ text, changed.testBit d.toNat = false := by
  obtain ⟨numbers, entry, rfl⟩ := CharTable.image?_iff.mp image
  intro d inside
  obtain ⟨number, there, rfl⟩ := List.mem_map.mp inside
  have kept := List.all_eq_true.mp (List.all_eq_true.mp images_kept _ entry) number there
  rw [keeps, Bool.and_eq_true, Bool.not_eq_true', decide_eq_true_eq] at kept
  rw [toNat_ofNat kept.1, kept.2]

theorem isKept_iff {c : Char} : IsKept c ↔ changed.testBit c.toNat = false := by
  unfold IsKept mapChar?
  cases ascii : Punycode.isAscii c with
  | true =>
    have small : c.toNat < 128 := of_decide_eq_true ascii
    rw [if_pos rfl, tables_kept.1.1 _ small, Char.ofNat_toNat]
    simp
  | false =>
    rw [changed_high ascii]
    cases refusal : refused.contains c with
    | true => simp
    | false =>
      cases ignore : ignored.contains c with
      | true => simp
      | false =>
        have contains : images.contains c = (images.image? c).isSome := by
          rw [CharTable.image?, Option.isSome_map, CharTable.contains]
        cases image : images.image? c with
        | none => simp [contains, image]
        | some text =>
          simp only [Bool.false_eq_true, if_false, Option.getD_some, contains, image,
            Option.isSome_some, Bool.true_or, Bool.true_eq_false, iff_false, Option.some.injEq]
          rintro rfl
          have kept := image_kept image c (List.mem_singleton_self c)
          rw [changed_high ascii, contains, image] at kept
          cases kept

theorem mapped_kept {c : Char} {text : List Char} (mapped : mapChar? c = some text) :
    ∀ d ∈ text, IsKept d := by
  unfold mapChar? at mapped
  split at mapped
  next ascii =>
    cases mapped
    intro d inside
    have small : c.toNat < 128 := of_decide_eq_true ascii
    have lower := tables_kept.1.2 c.toNat small
    rw [Char.ofNat_toNat] at lower
    cases List.mem_singleton.mp inside
    exact isKept_iff.mpr lower
  next high =>
    split at mapped
    next => cases mapped
    next refusal =>
      split at mapped
      next =>
        cases mapped
        exact List.forall_mem_nil _
      next ignore =>
        cases mapped
        cases image : images.image? c with
        | some text => exact fun d inside => isKept_iff.mpr (image_kept image d inside)
        | none =>
          intro d inside
          cases List.mem_singleton.mp inside
          rw [IsKept, mapChar?, if_neg high, if_neg refusal, if_neg ignore, image]
          rfl

private theorem isKept_ofNat {number : Nat} (kept : keeps number = true) : IsKept
    (Char.ofNat number) := by
  rw [keeps, Bool.and_eq_true, Bool.not_eq_true', decide_eq_true_eq] at kept
  rw [isKept_iff, toNat_ofNat kept.1, kept.2]

private theorem closed_kept : Closed IsKept where
  parts := by
    obtain ⟨_, _, letters, parts, _⟩ := tables_kept
    refine decomposeChar_forall
      (fun number letter => isKept_ofNat (List.all_eq_true.mp letters number letter))
      fun entry inside own part there => ?_
    have checked := List.all_eq_true.mp parts entry inside
    rw [isKept_iff, toNat_ofNat (entry_fits inside).valid] at own
    rw [own, Bool.false_or] at checked
    exact isKept_ofNat (List.all_eq_true.mp checked part there)
  joins a b whole first second joins := by
    obtain ⟨_, _, _, _, composites, syllables⟩ := tables_kept
    rw [isKept_iff] at first second ⊢
    cases joins with
    | composite entry =>
      have checked := List.all_eq_true.mp composites _ entry
      simpa [first, second] using checked
    | syllable joins =>
      obtain ⟨_, _, place, few, number⟩ := joins.letters
      have syllable : Hangul.syllable? whole = some place :=
        Hangul.syllable?_iff.mpr ⟨few, number⟩
      have bits := congrArg (Nat.testBit · whole.toNat) syllables
      simpa [testBit_syllableBits, syllable] using bits

theorem normalize?_eq {text normal : List Char} : normalize? text = some normal ↔
    ∃ images, List.Forall₂ (fun c image => mapChar? c = some image) text images ∧
      normal = compose images.flatten := by
  rw [normalize?, Option.map_eq_some_iff]
  exact exists_congr fun images => and_congr mapM_some eq_comm

theorem normalize?_kept {text normal : List Char} (made : normalize? text = some normal) :
    ∀ c ∈ normal, IsKept c := by
  obtain ⟨images, mapped, rfl⟩ := normalize?_eq.mp made
  refine closed_kept.compose fun c inside => ?_
  obtain ⟨image, there, inside⟩ := List.mem_flatten.mp inside
  obtain ⟨_, _, own⟩ := forall₂_mem mapped image there
  exact mapped_kept own c inside

theorem normalize?_of_kept {text : List Char} (kept : ∀ c ∈ text, IsKept c) :
    normalize? text = some (compose text) := by
  refine normalize?_eq.mpr ⟨text.map fun c => [c], ?_, ?_⟩
  · rw [List.forall₂_map_right_iff, List.forall₂_same]
    exact kept
  · rw [← List.flatMap_def, List.flatMap_singleton']

theorem normalize?_label {text normal label : List Char} (made : normalize? text = some normal)
    (inside : label ∈ splitWhere (· == '.') normal) : normalize? label = some label := by
  have kept := normalize?_kept made
  obtain ⟨images, _, rfl⟩ := normalize?_eq.mp made
  rw [normalize?_of_kept fun c there => kept c (mem_splitWhere inside there),
    lone_dot.compose_part inside]

end Domain

end InterfaceSync
