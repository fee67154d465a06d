/-! Splitting a text at the characters of a class. -/

namespace InterfaceSync

/-- The parts between the characters that satisfy `isBreak`: one more than there are such
characters. -/
def splitWhere (isBreak : Char → Bool) : List Char → List (List Char)
  | [] => [[]]
  | c :: rest =>
    if isBreak c then [] :: splitWhere isBreak rest
    else
      match splitWhere isBreak rest with
      | [] => [[c]]
      | first :: others => (c :: first) :: others

theorem splitWhere_ne_nil (isBreak : Char → Bool) (text : List Char) :
    splitWhere isBreak text ≠ [] := by
  induction text with
  | nil => exact List.cons_ne_nil _ _
  | cons c text ih =>
    rw [splitWhere]
    split
    · exact List.cons_ne_nil _ _
    split
    · exact List.cons_ne_nil _ _
    · exact List.cons_ne_nil _ _

theorem mem_splitWhere {isBreak : Char → Bool} {text part : List Char}
    (inside : part ∈ splitWhere isBreak text) : part ⊆ text := by
  induction text generalizing part with
  | nil =>
    cases List.mem_singleton.mp inside
    exact List.Subset.refl []
  | cons c rest ih =>
    rw [splitWhere] at inside
    split at inside
    next =>
      rcases List.mem_cons.mp inside with rfl | later
      · exact List.nil_subset _
      · exact List.subset_cons_of_subset c (ih later)
    next =>
      split at inside
      next =>
        cases List.mem_singleton.mp inside
        exact List.cons_subset_cons c (List.nil_subset rest)
      next first others parts =>
        rw [parts] at ih
        rcases List.mem_cons.mp inside with rfl | later
        · exact List.cons_subset_cons c (ih List.mem_cons_self)
        · exact List.subset_cons_of_subset c (ih (List.mem_cons_of_mem _ later))

theorem splitWhere_append {isBreak : Char → Bool} {c : Char} (breaks : isBreak c = true)
    (before behind : List Char) :
    splitWhere isBreak (before ++ c :: behind) =
      splitWhere isBreak before ++ splitWhere isBreak behind := by
  induction before with
  | nil => simp [splitWhere, breaks]
  | cons first rest ih =>
    rw [List.cons_append, splitWhere, splitWhere, ih]
    split
    next => rfl
    next =>
      cases parts : splitWhere isBreak rest with
      | nil => exact absurd parts (splitWhere_ne_nil isBreak rest)
      | cons part others => rfl

theorem splitWhere_whole {isBreak : Char → Bool} {text : List Char}
    (whole : ∀ c ∈ text, isBreak c = false) : splitWhere isBreak text = [text] := by
  induction text with
  | nil => rfl
  | cons c rest ih =>
    obtain ⟨first, others⟩ := List.forall_mem_cons.mp whole
    rw [splitWhere, ih others, first]
    rfl

theorem notMem_splitWhere {isBreak : Char → Bool} {text part : List Char}
    (inside : part ∈ splitWhere isBreak text) : ∀ c ∈ part, isBreak c = false := by
  induction text generalizing part with
  | nil =>
    cases List.mem_singleton.mp inside
    exact List.forall_mem_nil _
  | cons c rest ih =>
    rw [splitWhere] at inside
    split at inside
    next =>
      rcases List.mem_cons.mp inside with rfl | later
      · exact List.forall_mem_nil _
      · exact ih later
    next whole =>
      split at inside
      next none => exact absurd none (splitWhere_ne_nil _ _)
      next first others parts =>
        rw [parts] at ih
        rcases List.mem_cons.mp inside with rfl | later
        · exact List.forall_mem_cons.mpr ⟨by simpa using whole, ih List.mem_cons_self⟩
        · exact ih (List.mem_cons_of_mem _ later)

theorem splitWhere_intercalate {isBreak : Char → Bool} {mark : Char} (breaks : isBreak mark = true)
    {parts : List (List Char)} (filled : parts ≠ [])
    (whole : ∀ part ∈ parts, ∀ c ∈ part, isBreak c = false) :
    splitWhere isBreak ([mark].intercalate parts) = parts := by
  induction parts with
  | nil => exact absurd rfl filled
  | cons part rest ih =>
    obtain ⟨here, others⟩ := List.forall_mem_cons.mp whole
    cases rest with
    | nil => rw [List.intercalate_singleton, splitWhere_whole here]
    | cons next rest =>
      rw [List.intercalate_cons_cons, List.append_assoc, List.singleton_append,
        splitWhere_append breaks, splitWhere_whole here, ih (List.cons_ne_nil _ _) others]
      rfl

theorem mem_intercalate {mark c : Char} {parts : List (List Char)}
    (inside : c ∈ [mark].intercalate parts) : c = mark ∨ ∃ part ∈ parts, c ∈ part := by
  induction parts with
  | nil => cases inside
  | cons part rest ih =>
    cases rest with
    | nil => exact .inr ⟨part, List.mem_cons_self, by simpa using inside⟩
    | cons next rest =>
      rw [List.intercalate_cons_cons, List.append_assoc, List.singleton_append] at inside
      rcases List.mem_append.mp inside with here | there
      · exact .inr ⟨part, List.mem_cons_self, here⟩
      · rcases List.mem_cons.mp there with same | later
        · exact .inl same
        · obtain same | ⟨other, held, inner⟩ := ih later
          · exact .inl same
          · exact .inr ⟨other, List.mem_cons_of_mem _ held, inner⟩

theorem intercalate_splitWhere (mark : Char) (text : List Char) :
    [mark].intercalate (splitWhere (· == mark) text) = text := by
  induction text with
  | nil => rfl
  | cons c rest ih =>
    obtain ⟨first, others, parts⟩ := List.exists_cons_of_ne_nil (splitWhere_ne_nil (· == mark) rest)
    rw [splitWhere]
    split
    next same =>
      cases eq_of_beq same
      rw [parts] at ih ⊢
      rw [← ih]
      simp [List.intercalate]
    next =>
      rw [parts] at ih ⊢
      rw [← ih]
      cases others <;> simp [List.intercalate]

/-- The text before and behind the last character that satisfies `isBreak`. -/
def splitLast? (isBreak : Char → Bool) (text : List Char) : Option (List Char × List Char) :=
  let behind := text.reverse.takeWhile (! isBreak ·)
  match text.reverse.dropWhile (! isBreak ·) with
  | [] => none
  | _ :: before => some (before.reverse, behind.reverse)

theorem splitLast?_append {isBreak : Char → Bool} {mark : Char} (breaks : isBreak mark = true)
    (before : List Char) {behind : List Char} (whole : ∀ c ∈ behind, isBreak c = false) :
    splitLast? isBreak (before ++ mark :: behind) = some (before, behind) := by
  have skip : ∀ c ∈ behind.reverse, (! isBreak c) = true := fun c inside => by
    rw [whole c (List.mem_reverse.mp inside)]
    rfl
  have text : (before ++ mark :: behind).reverse = behind.reverse ++ mark :: before.reverse := by
    simp
  rw [splitLast?, text, List.takeWhile_append_of_pos skip, List.dropWhile_append_of_pos skip]
  simp [breaks]

theorem splitLast?_none {isBreak : Char → Bool} {text : List Char}
    (whole : ∀ c ∈ text, isBreak c = false) : splitLast? isBreak text = none := by
  have skip : ∀ c ∈ text.reverse, (! isBreak c) = true := fun c inside => by
    rw [whole c (List.mem_reverse.mp inside)]
    rfl
  have all : text.reverse.dropWhile (! isBreak ·) = [] := by
    rw [← List.append_nil text.reverse, List.dropWhile_append_of_pos skip, List.dropWhile_nil]
  rw [splitLast?, all]

theorem splitLast?_some {isBreak : Char → Bool} {text : List Char} {parts : List Char × List Char}
    (split : splitLast? isBreak text = some parts) :
    ∃ mark, isBreak mark = true ∧ text = parts.1 ++ mark :: parts.2 := by
  have whole := congrArg List.reverse
    (@List.takeWhile_append_dropWhile _ (! isBreak ·) text.reverse)
  unfold splitLast? at split
  dsimp only at split
  cases rest : text.reverse.dropWhile (! isBreak ·) with
  | nil =>
    rw [rest] at split
    cases split
  | cons mark before =>
    have breaks := List.head?_dropWhile_not (! isBreak ·) text.reverse
    rw [rest] at split whole breaks
    cases split
    refine ⟨mark, by simpa using breaks, ?_⟩
    rw [List.reverse_append, List.reverse_reverse, List.reverse_cons, List.append_assoc] at whole
    exact whole.symm

end InterfaceSync
