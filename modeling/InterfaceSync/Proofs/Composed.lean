import InterfaceSync.Proofs.Decompositions
import InterfaceSync.Text.Split
import Mathlib.Data.List.Chain
import Mathlib.Tactic.Tauto

/-! Composed texts. Taking a composed text apart leads to the parts that it was composed of, in the same
order; so composing it once more changes nothing. -/

namespace InterfaceSync.Composition

def placed (c : Char) : Placed :=
  ⟨c, combiningClass c⟩

def sorted (parts : List Placed) : List Placed :=
  parts.foldr insertPlaced []

def spread (text : List Char) : List Placed :=
  (text.flatMap decomposeChar).map placed

theorem ordered_eq (text : List Char) : ordered text = sorted (spread text) := rfl

theorem spread_append (front rest : List Char) :
    spread (front ++ rest) = spread front ++ spread rest := by
  simp [spread]

theorem sorted_append (front rest : List Placed) :
    sorted (front ++ rest) = front.foldr insertPlaced (sorted rest) :=
  List.foldr_append

def Follows (part next : Placed) : Prop :=
  next.place = 0 ∨ part.place ≤ next.place

theorem insertPlaced_follows {part : Placed} {rest : List Placed}
    (follows : ∀ next ∈ rest.head?, Follows part next) : insertPlaced part rest = part :: rest := by
  cases rest with
  | nil => rfl
  | cons next rest =>
    have first := follows next rfl
    rw [insertPlaced, if_neg]
    rintro ⟨mark, less⟩
    rcases first with starts | upTo
    · exact mark starts
    · omega

private theorem isChain_insertPlaced (part : Placed) {rest : List Placed}
    (chain : rest.IsChain Follows) : (insertPlaced part rest).IsChain Follows := by
  induction rest with
  | nil => exact .singleton part
  | cons next rest ih =>
    rw [insertPlaced]
    split
    next lower =>
      obtain ⟨first, later⟩ := List.isChain_cons.mp chain
      refine List.isChain_cons.mpr ⟨fun other there => ?_, ih later⟩
      cases rest with
      | nil =>
        cases there
        exact .inr (Nat.le_of_lt lower.2)
      | cons second rest =>
        rw [insertPlaced] at there
        split at there
        · exact first other there
        · cases there
          exact .inr (Nat.le_of_lt lower.2)
    next reached =>
      refine List.isChain_cons.mpr ⟨fun other there => ?_, chain⟩
      cases there
      by_cases starts : next.place = 0
      · exact .inl starts
      · exact .inr (Nat.not_lt.mp fun less => reached ⟨starts, less⟩)

private theorem isChain_sorted (parts : List Placed) : (sorted parts).IsChain Follows := by
  induction parts with
  | nil => exact .nil
  | cons part rest ih => exact isChain_insertPlaced part ih

private theorem sorted_chain {parts : List Placed} (chain : parts.IsChain Follows) :
    sorted parts = parts := by
  induction parts with
  | nil => rfl
  | cons part rest ih =>
    obtain ⟨first, later⟩ := List.isChain_cons.mp chain
    have rest_sorted : sorted (part :: rest) = insertPlaced part (sorted rest) := rfl
    rw [rest_sorted, ih later, insertPlaced_follows first]

/-- Marks of different classes may be put in their places in any order. -/
theorem insertPlaced_comm {part other : Placed} (mark : part.place ≠ 0) (less : part.place < other.place)
    (rest : List Placed) :
    insertPlaced part (insertPlaced other rest) = insertPlaced other (insertPlaced part rest) := by
  induction rest with
  | nil =>
    have apart : ¬ (other.place ≠ 0 ∧ other.place < part.place) := by omega
    simp only [insertPlaced, if_neg apart, if_pos (And.intro mark less)]
  | cons next rest ih =>
    by_cases beforePart : next.place ≠ 0 ∧ next.place < part.place
    · have beforeOther : next.place ≠ 0 ∧ next.place < other.place := by omega
      simp only [insertPlaced, if_pos beforePart, if_pos beforeOther, ih]
    · have apart : ¬ (other.place ≠ 0 ∧ other.place < part.place) := by omega
      by_cases beforeOther : next.place ≠ 0 ∧ next.place < other.place
      · simp only [insertPlaced, if_neg beforePart, if_pos beforeOther, if_pos (And.intro mark less)]
      · simp only [insertPlaced, if_neg beforePart, if_neg beforeOther, if_neg apart,
          if_pos (And.intro mark less)]

private theorem mem_insertPlaced {part other : Placed} {rest : List Placed} :
    other ∈ insertPlaced part rest ↔ other = part ∨ other ∈ rest := by
  induction rest with
  | nil => simp [insertPlaced]
  | cons next rest ih =>
    rw [insertPlaced]
    split
    · simp only [List.mem_cons, ih]
      tauto
    · simp

theorem mem_sorted {part : Placed} {parts : List Placed} : part ∈ sorted parts ↔ part ∈ parts := by
  induction parts with
  | nil => exact Iff.rfl
  | cons first rest ih =>
    have step : sorted (first :: rest) = insertPlaced first (sorted rest) := rfl
    rw [step, mem_insertPlaced, ih, List.mem_cons]

def joinAll : List Placed → List Char
  | [] => []
  | part :: rest => if part.place = 0 then joinTo part.char [] rest else part.char :: joinAll rest

private theorem joinAll_eq (parts : List Placed) : joinAll parts =
    match parts.dropWhile (·.place ≠ 0) with
    | [] => (parts.takeWhile (·.place ≠ 0)).map (·.char)
    | base :: rest => (parts.takeWhile (·.place ≠ 0)).map (·.char) ++ joinTo base.char [] rest := by
  induction parts with
  | nil => rfl
  | cons part rest ih =>
    rw [joinAll]
    split
    next starts => simp [starts]
    next mark =>
      rw [ih, List.dropWhile_cons_of_pos (by simpa using mark),
        List.takeWhile_cons_of_pos (by simpa using mark)]
      split <;> rfl

theorem compose_eq (text : List Char) :
    compose text = if text.all (· < '\u0300') then text else joinAll (ordered text) :=
  congrArg (fun joined => if text.all (· < '\u0300') then text else joined)
    (joinAll_eq (ordered text)).symm

/-- A part that is a character without parts, in its place. -/
structure Placed.Sound (part : Placed) : Prop where
  atom : Atom part.char
  place : part.place = combiningClass part.char

theorem Placed.Sound.spread {part : Placed} (sound : part.Sound) :
    Composition.spread [part.char] = [part] := by
  have same : placed part.char = part := by rw [placed, ← sound.place]
  rw [Composition.spread, List.flatMap_singleton, sound.atom.decomposeChar, List.map_singleton, same]

private theorem spread_sound {parts : List Placed} (sound : ∀ part ∈ parts, part.Sound) :
    spread (parts.map (·.char)) = parts := by
  induction parts with
  | nil => rfl
  | cons part rest ih =>
    obtain ⟨own, others⟩ := List.forall_mem_cons.mp sound
    have front : (part :: rest).map (·.char) = [part.char] ++ rest.map (·.char) := rfl
    rw [front, spread_append, own.spread, ih others]
    rfl

private theorem ordered_sound (text : List Char) : ∀ part ∈ ordered text, part.Sound := by
  intro part inside
  rw [ordered_eq, mem_sorted] at inside
  obtain ⟨c, there, rfl⟩ := List.mem_map.mp inside
  obtain ⟨_, _, there⟩ := List.mem_flatMap.mp there
  exact ⟨decomposeChar_atom there, rfl⟩

private theorem ordered_chain (text : List Char) : (ordered text).IsChain Follows :=
  isChain_sorted _

/-- A joined character that is taken apart has the mark back. -/
theorem spread_joined {base whole : Char} {next : Placed} (sound : next.Sound)
    (joined : joined? base next.char = some whole) : spread [whole] = spread [base] ++ [next] := by
  have parts := (joins_of_joined? joined).decomposeChar
  rw [← sound.spread, ← spread_append]
  simp [spread, parts]

/-- The marks that are kept behind a character are in order, and may stand in front of the rest. -/
structure Kept (kept rest : List Placed) : Prop where
  sound : ∀ mark ∈ kept, mark.Sound
  marks : ∀ mark ∈ kept, mark.place ≠ 0
  highest : ∀ last ∈ kept.head?, ∀ mark ∈ kept, mark.place ≤ last.place
  follow : ∀ mark ∈ kept, ∀ next ∈ rest.head?, Follows mark next

theorem Kept.nil (rest : List Placed) : Kept [] rest where
  sound := List.forall_mem_nil _
  marks := List.forall_mem_nil _
  highest _ impossible := by cases impossible
  follow := List.forall_mem_nil _

section
variable {kept rest : List Placed} {next : Placed} (keeps : Kept kept (next :: rest))

include keeps

theorem Kept.less (unblocked : ¬ kept.head?.any (next.place ≤ ·.place)) :
    ∀ mark ∈ kept, mark.place < next.place := by
  intro mark inside
  cases kept with
  | nil => cases inside
  | cons last kept =>
    have upTo := keeps.highest last rfl mark inside
    simp only [List.head?_cons, Option.any_some, decide_eq_true_eq] at unblocked
    omega

/-- When the next part joins, the marks are followed by the rest. -/
theorem Kept.joined (less : ∀ mark ∈ kept, mark.place < next.place)
    (first : ∀ after ∈ rest.head?, Follows next after) : Kept kept rest :=
  { keeps with
    follow := by
      intro mark inside after there
      have below := less mark inside
      rcases first after there with starts | upTo
      · exact .inl starts
      · exact .inr (by omega) }

theorem Kept.cons (own : next.Sound) (mark : next.place ≠ 0)
    (first : ∀ after ∈ rest.head?, Follows next after) : Kept (next :: kept) rest := by
  have below : ∀ earlier ∈ kept, earlier.place ≤ next.place := fun earlier inside =>
    (keeps.follow earlier inside next rfl).resolve_left mark
  constructor
  case sound => exact List.forall_mem_cons.mpr ⟨own, keeps.sound⟩
  case marks => exact List.forall_mem_cons.mpr ⟨mark, keeps.marks⟩
  case highest =>
    rintro last ⟨⟩
    exact List.forall_mem_cons.mpr ⟨Nat.le_refl _, below⟩
  case follow =>
    refine List.forall_mem_cons.mpr ⟨first, fun earlier inside after there => ?_⟩
    have upTo := below earlier inside
    rcases first after there with starts | further
    · exact .inl starts
    · exact .inr (Nat.le_trans upTo further)

end

private theorem foldr_insertPlaced_comm {kept : List Placed} {next : Placed}
    (marks : ∀ mark ∈ kept, mark.place ≠ 0) (less : ∀ mark ∈ kept, mark.place < next.place)
    (rest : List Placed) : insertPlaced next (kept.reverse.foldr insertPlaced rest) =
      kept.reverse.foldr insertPlaced (insertPlaced next rest) := by
  rw [List.foldr_reverse, List.foldr_reverse]
  induction kept generalizing rest with
  | nil => rfl
  | cons mark kept ih =>
    obtain ⟨own, others⟩ := List.forall_mem_cons.mp marks
    obtain ⟨below, others'⟩ := List.forall_mem_cons.mp less
    rw [List.foldl_cons, List.foldl_cons, ih others others', insertPlaced_comm own below]

/-- What is joined, taken apart again, comes to the same parts in the same order. -/
theorem sorted_joinTo {rest : List Placed} (sound : ∀ part ∈ rest, part.Sound)
    (chain : rest.IsChain Follows) {base : Char} {kept : List Placed} (keeps : Kept kept rest) :
    sorted (spread (joinTo base kept rest)) = sorted (spread [base] ++ kept.reverse ++ rest) := by
  induction rest generalizing base kept with
  | nil =>
    have text : joinTo base kept [] = [base] ++ kept.reverse.map (·.char) := rfl
    rw [text, spread_append, spread_sound fun mark inside => keeps.sound mark (by simpa using inside),
      List.append_nil]
  | cons next rest ih =>
    obtain ⟨own, others⟩ := List.forall_mem_cons.mp sound
    obtain ⟨first, later⟩ := List.isChain_cons.mp chain
    rw [joinTo]
    split
    next whole joined =>
      split at joined
      next => cases joined
      next unblocked =>
        have less := keeps.less unblocked
        have step : sorted (next :: rest) = insertPlaced next (sorted rest) := rfl
        rw [ih others later (keeps.joined less first), spread_joined own joined]
        simp only [List.append_assoc, sorted_append, List.foldr_cons, List.foldr_nil]
        rw [step, foldr_insertPlaced_comm keeps.marks less]
    next =>
      split
      next starts =>
        have text : base :: kept.reverse.map (·.char) ++ joinTo next.char [] rest =
            [base] ++ (kept.reverse.map (·.char) ++ joinTo next.char [] rest) := rfl
        rw [text, spread_append, spread_append,
          spread_sound fun mark inside => keeps.sound mark (by simpa using inside),
          ← List.append_assoc, sorted_append, ih others later (.nil rest), own.spread,
          List.reverse_nil, List.append_nil, ← sorted_append]
        rfl
      next mark =>
        rw [ih others later (keeps.cons own mark first)]
        simp

private theorem sorted_joinAll {parts : List Placed} (sound : ∀ part ∈ parts, part.Sound)
    (chain : parts.IsChain Follows) : sorted (spread (joinAll parts)) = parts := by
  induction parts with
  | nil => rfl
  | cons part rest ih =>
    obtain ⟨own, others⟩ := List.forall_mem_cons.mp sound
    obtain ⟨first, later⟩ := List.isChain_cons.mp chain
    rw [joinAll]
    split
    next =>
      rw [sorted_joinTo others later (.nil rest), own.spread]
      exact sorted_chain chain
    next =>
      have text : part.char :: joinAll rest = [part.char] ++ joinAll rest := rfl
      rw [text, spread_append, own.spread, sorted_append, ih others later]
      exact insertPlaced_follows first

theorem ordered_joinAll (text : List Char) : ordered (joinAll (ordered text)) = ordered text := by
  rw [ordered_eq, sorted_joinAll (ordered_sound text) (ordered_chain text)]

/-- What composition keeps of characters. -/
structure Closed (holds : Char → Prop) : Prop where
  parts : ∀ c, holds c → ∀ part ∈ decomposeChar c, holds part
  joins : ∀ a b whole, holds a → holds b → Joins a b whole → holds whole

section
variable {holds : Char → Prop} (closed : Closed holds)
include closed

private theorem Closed.joinTo {rest : List Placed} (all : ∀ part ∈ rest, holds part.char)
    {base : Char}
    (first : holds base) {kept : List Placed} (keeps : ∀ mark ∈ kept, holds mark.char) :
    ∀ c ∈ joinTo base kept rest, holds c := by
  have behind {kept : List Placed} (keeps : ∀ mark ∈ kept, holds mark.char) :
      ∀ c ∈ kept.reverse.map (·.char), holds c := by
    simpa using keeps
  induction rest generalizing base kept with
  | nil => exact List.forall_mem_cons.mpr ⟨first, behind keeps⟩
  | cons next rest ih =>
    obtain ⟨own, others⟩ := List.forall_mem_cons.mp all
    rw [Composition.joinTo]
    split
    next whole joined =>
      split at joined
      next => cases joined
      next =>
        have joins := closed.joins _ _ _ first own (joins_of_joined? joined)
        exact ih others joins keeps
    next =>
      split
      next =>
        refine List.forall_mem_cons.mpr ⟨first, List.forall_mem_append.mpr ⟨behind keeps, ?_⟩⟩
        exact ih others own (List.forall_mem_nil _)
      next =>
        exact ih others first (List.forall_mem_cons.mpr ⟨own, keeps⟩)

private theorem Closed.joinAll {parts : List Placed} (all : ∀ part ∈ parts, holds part.char) :
    ∀ c ∈ joinAll parts, holds c := by
  induction parts with
  | nil => exact List.forall_mem_nil _
  | cons part rest ih =>
    obtain ⟨own, others⟩ := List.forall_mem_cons.mp all
    rw [Composition.joinAll]
    split
    next => exact closed.joinTo others own (List.forall_mem_nil _)
    next => exact List.forall_mem_cons.mpr ⟨own, ih others⟩

theorem Closed.recompose {text : List Char} (all : ∀ c ∈ text, holds c) :
    ∀ c ∈ Composition.joinAll (ordered text), holds c := by
  refine closed.joinAll fun part inside => ?_
  rw [ordered_eq, mem_sorted] at inside
  obtain ⟨c, there, rfl⟩ := List.mem_map.mp inside
  obtain ⟨origin, own, there⟩ := List.mem_flatMap.mp there
  exact closed.parts origin (all origin own) c there

theorem Closed.compose {text : List Char} (all : ∀ c ∈ text, holds c) :
    ∀ c ∈ compose text, holds c := by
  rw [compose_eq]
  split
  · exact all
  · exact closed.recompose all

end

/-- A character that is no part of another one and has none. -/
structure Lone (c : Char) : Prop where
  atom : Atom c
  place : combiningClass c = 0
  closed : Closed (· ≠ c)
  apart : ∀ a b whole, Joins a b whole → a ≠ c ∧ b ≠ c

section
variable {c : Char} (lone : Lone c)
include lone

private theorem Lone.joined?_left (b : Char) : joined? c b = none := by
  cases joined : joined? c b with
  | none => rfl
  | some whole => exact absurd rfl (lone.apart _ _ _ (joins_of_joined? joined)).1

private theorem Lone.joined?_right (a : Char) : joined? a c = none := by
  cases joined : joined? a c with
  | none => rfl
  | some whole => exact absurd rfl (lone.apart _ _ _ (joins_of_joined? joined)).2

private theorem Lone.ordered_append (front rest : List Char) :
    ordered (front ++ c :: rest) = ordered front ++ placed c :: ordered rest := by
  have text : front ++ c :: rest = front ++ ([c] ++ rest) := rfl
  have own : spread [c] = [placed c] := by simp [spread, lone.atom.decomposeChar]
  have insert (part : Placed) (parts : List Placed) :
      insertPlaced part (parts ++ placed c :: ordered rest) =
        insertPlaced part parts ++ placed c :: ordered rest := by
    induction parts with
    | nil =>
      rw [List.nil_append, insertPlaced_follows]
      · rfl
      · rintro next ⟨⟩
        exact .inl lone.place
    | cons next parts ih =>
      rw [List.cons_append, insertPlaced, insertPlaced, ih]
      split <;> rfl
  have middle : sorted (placed c :: spread rest) = placed c :: ordered rest := by
    have step : sorted (placed c :: spread rest) = insertPlaced (placed c) (ordered rest) := rfl
    rw [step, insertPlaced_follows]
    intro next there
    right
    rw [placed, lone.place]
    exact Nat.zero_le _
  rw [ordered_eq, ordered_eq front, text, spread_append, spread_append, own, List.singleton_append,
    sorted_append, middle]
  induction spread front with
  | nil => rfl
  | cons part parts ih =>
    have step : sorted (part :: parts) = insertPlaced part (sorted parts) := rfl
    rw [List.foldr_cons, ih, step, insert]

theorem Lone.joinTo_base (kept rest : List Placed) :
    joinTo c kept rest = c :: (kept.reverse.map (·.char) ++ joinAll rest) := by
  induction rest generalizing kept with
  | nil => simp [joinTo, joinAll]
  | cons next rest ih =>
    rw [joinTo, lone.joined?_left, ite_self, joinAll]
    dsimp only
    split
    · rfl
    · rw [ih]
      simp

private theorem Lone.joinTo_append (front rest : List Placed) (base : Char) (kept : List Placed) :
    joinTo base kept (front ++ placed c :: rest) = joinTo base kept front ++ c :: joinAll rest := by
  induction front generalizing base kept with
  | nil =>
    have own : (placed c).char = c := rfl
    have place : (placed c).place = 0 := lone.place
    conv_lhs => rw [List.nil_append, joinTo, own, lone.joined?_right, ite_self]
    dsimp only
    rw [if_pos place, lone.joinTo_base]
    rfl
  | cons next front ih =>
    rw [List.cons_append, joinTo, joinTo]
    split
    · exact ih _ _
    · split
      · rw [ih]
        simp
      · exact ih _ _

private theorem Lone.joinAll_append (front rest : List Placed) :
    joinAll (front ++ placed c :: rest) = joinAll front ++ c :: joinAll rest := by
  induction front with
  | nil =>
    have place : (placed c).place = 0 := lone.place
    conv_lhs => rw [List.nil_append, joinAll, if_pos place]
    exact lone.joinTo_base [] rest
  | cons part front ih =>
    rw [List.cons_append, joinAll, joinAll, ih]
    split
    · exact lone.joinTo_append _ _ _ _
    · rfl

/-- Texts are composed between characters that stand alone. -/
theorem Lone.splitWhere_joinAll {parts : List (List Char)} (filled : parts ≠ [])
    (whole : ∀ part ∈ parts, c ∉ part) :
    splitWhere (· == c) (joinAll (ordered ([c].intercalate parts))) =
      parts.map fun part => joinAll (ordered part) := by
  have alone {part : List Char} (outside : c ∉ part) :
      splitWhere (· == c) (joinAll (ordered part)) = [joinAll (ordered part)] := by
    refine splitWhere_whole fun d inside => beq_eq_false_iff_ne.mpr ?_
    refine lone.closed.recompose (fun d inside => ?_) d inside
    rintro rfl
    exact outside inside
  induction parts with
  | nil => exact absurd rfl filled
  | cons part rest ih =>
    obtain ⟨here, others⟩ := List.forall_mem_cons.mp whole
    cases rest with
    | nil => rw [List.intercalate_singleton, alone here, List.map_singleton]
    | cons next rest =>
      have splits := @splitWhere_append (· == c) c (beq_self_eq_true c) (joinAll (ordered part))
      rw [List.intercalate_cons_cons, List.append_assoc, List.singleton_append, lone.ordered_append,
        lone.joinAll_append, splits, alone here, ih (List.cons_ne_nil _ _) others]
      rfl

theorem Lone.compose_part {text part : List Char}
    (inside : part ∈ splitWhere (· == c) (compose text)) : compose part = part := by
  rw [compose_eq part]
  split
  next => rfl
  next high =>
    have outside : ¬ text.all (· < '\u0300') = true := by
      intro low
      rw [compose_eq, if_pos low] at inside
      exact high (List.all_eq_true.mpr fun d there =>
        List.all_eq_true.mp low d (mem_splitWhere inside there))
    rw [compose_eq, if_neg outside] at inside
    have whole : ∀ piece ∈ splitWhere (· == c) (joinAll (ordered text)), c ∉ piece := by
      intro piece there own
      exact absurd (notMem_splitWhere there c own) (by simp)
    have again := lone.splitWhere_joinAll (splitWhere_ne_nil _ _) whole
    rw [intercalate_splitWhere, ordered_joinAll] at again
    exact List.map_inj_left.mp (again.symm.trans (List.map_id _).symm) part inside

end

end InterfaceSync.Composition
