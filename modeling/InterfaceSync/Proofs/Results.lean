import Mathlib.Data.List.Forall2

/-! Results that may be failures, taken apart. -/

namespace InterfaceSync

variable {ε ε' α β : Type}

theorem bind_ok {first : Except ε α} {next : α → Except ε β} {result : β} :
    (first >>= next) = .ok result ↔ ∃ value, first = .ok value ∧ next value = .ok result := by
  cases first with
  | error error =>
    refine ⟨nofun, ?_⟩
    rintro ⟨_, failed, _⟩
    cases failed
  | ok value =>
    constructor
    · exact fun same => ⟨value, rfl, same⟩
    · rintro ⟨_, ⟨⟩, same⟩
      exact same

theorem mapError_ok {restate : ε → ε'} {result : Except ε α} {value : α} :
    result.mapError restate = .ok value ↔ result = .ok value := by
  cases result <;> simp [Except.mapError]

theorem bind_error {first : Except ε α} {next : α → Except ε β} {error : ε} :
    (first >>= next) = .error error ↔
      first = .error error ∨ ∃ value, first = .ok value ∧ next value = .error error := by
  cases first with
  | error cause =>
    constructor
    · rintro ⟨⟩
      exact .inl rfl
    · rintro (⟨⟨⟩⟩ | ⟨_, ⟨⟩, _⟩)
      rfl
  | ok value =>
    constructor
    · exact fun failed => .inr ⟨value, rfl, failed⟩
    · rintro (failed | ⟨_, ⟨⟩, failed⟩)
      · cases failed
      · exact failed

theorem mapError_error {restate : ε → ε'} {result : Except ε α} {error : ε'} :
    result.mapError restate = .error error ↔
      ∃ cause, result = .error cause ∧ error = restate cause := by
  cases result <;> simp [Except.mapError, eq_comm]

theorem exists_ok {result : Except ε α} (succeeds : result.toOption.isSome = true) :
    ∃ value, result = .ok value := by
  cases result with
  | ok value => exact ⟨value, rfl⟩
  | error error => cases succeeds

theorem mapM_ok {f : α → Except ε β} {items : List α} {results : List β} :
    items.mapM f = .ok results ↔
      List.Forall₂ (fun item result => f item = .ok result) items results := by
  induction items generalizing results with
  | nil =>
    rw [List.mapM_nil, List.forall₂_nil_left_iff]
    exact ⟨fun same => by cases same; rfl, fun same => by rw [same]; rfl⟩
  | cons item items ih =>
    rw [List.mapM_cons, bind_ok]
    simp only [bind_ok, ih]
    constructor
    · rintro ⟨result, first, rest, others, ⟨⟩⟩
      exact .cons first others
    · rintro (_ | ⟨first, others⟩)
      exact ⟨_, first, _, others, rfl⟩

theorem mapM_some {f : α → Option β} {items : List α} {results : List β} :
    items.mapM f = some results ↔
      List.Forall₂ (fun item result => f item = some result) items results := by
  induction items generalizing results with
  | nil =>
    rw [List.mapM_nil, List.forall₂_nil_left_iff]
    exact ⟨fun same => by cases same; rfl, fun same => by rw [same]; rfl⟩
  | cons item items ih =>
    rw [List.mapM_cons, Option.bind_eq_bind, Option.bind_eq_some_iff]
    simp only [Option.bind_eq_bind, Option.bind_eq_some_iff, ih]
    constructor
    · rintro ⟨result, first, rest, others, ⟨⟩⟩
      exact .cons first others
    · rintro (_ | ⟨first, others⟩)
      exact ⟨_, first, _, others, rfl⟩

theorem forall₂_mem {related : α → β → Prop} {items : List α} {results : List β}
    (each : List.Forall₂ related items results) :
    ∀ result ∈ results, ∃ item ∈ items, related item result := by
  induction each with
  | nil => exact List.forall_mem_nil _
  | @cons item _ _ _ first _ ih =>
    refine List.forall_mem_cons.mpr ⟨⟨item, List.mem_cons_self, first⟩, fun result inside => ?_⟩
    obtain ⟨item, held, same⟩ := ih result inside
    exact ⟨item, List.mem_cons_of_mem _ held, same⟩

theorem mapM_forall {f : α → Option β} {p : β → Prop}
    (sound : ∀ item result, f item = some result → p result) {items : List α} {results : List β}
    (mapped : items.mapM f = some results) : ∀ result ∈ results, p result := by
  intro result inside
  obtain ⟨item, _, same⟩ := forall₂_mem (mapM_some.mp mapped) result inside
  exact sound item result same

/-- A list of results fails as the first of them that does. -/
theorem mapM_cases (f : α → Except ε β) (items : List α) :
    (∃ results, items.mapM f = .ok results) ∨
      ∃ item ∈ items, ∃ error, f item = .error error ∧ items.mapM f = .error error := by
  induction items with
  | nil => exact .inl ⟨[], rfl⟩
  | cons item items ih =>
    rw [List.mapM_cons]
    cases first : f item with
    | error error => exact .inr ⟨item, List.mem_cons_self, error, first, rfl⟩
    | ok result =>
      rcases ih with ⟨results, others⟩ | ⟨failing, inside, error, failed, others⟩
      · rw [others]
        exact .inl ⟨result :: results, rfl⟩
      · rw [others]
        exact .inr ⟨failing, List.mem_cons_of_mem _ inside, error, failed, rfl⟩

end InterfaceSync
