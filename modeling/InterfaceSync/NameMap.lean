/-! Mappings from names to values, kept in the order of the names. Names compare by code points,
which is the order of their UTF-8 bytes. The order is part of the type, so a mapping has one
representation and its iteration needs no sorting. -/

namespace InterfaceSync

abbrev Ordered {α : Type} (entries : List (String × α)) : Prop :=
  entries.Pairwise fun first second => first.1 < second.1

/-- Puts an entry in its place, replacing one of the same name. -/
def insertEntry {α : Type} (name : String) (value : α) : List (String × α) → List (String × α)
  | [] => [(name, value)]
  | (other, old) :: rest =>
    if name < other then (name, value) :: (other, old) :: rest
    else if name = other then (name, value) :: rest
    else (other, old) :: insertEntry name value rest

/-- Sorts entries by name; of equal names the last one counts. -/
def sortEntries {α : Type} (entries : List (String × α)) : List (String × α) :=
  entries.foldl (fun sorted entry => insertEntry entry.1 entry.2 sorted) []

theorem mem_insertEntry {α : Type} {name : String} {value : α} {entry : String × α}
    {entries : List (String × α)} (member : entry ∈ insertEntry name value entries) :
    entry = (name, value) ∨ entry ∈ entries := by
  induction entries with
  | nil => simpa [insertEntry] using member
  | cons head rest step =>
    obtain ⟨other, old⟩ := head
    simp only [insertEntry] at member
    split at member
    · simpa using member
    · split at member
      · rcases List.mem_cons.mp member with same | inside
        · exact .inl same
        · exact .inr (List.mem_cons_of_mem _ inside)
      · rcases List.mem_cons.mp member with same | inside
        · exact .inr (same ▸ List.mem_cons_self)
        · exact (step inside).imp id (List.mem_cons_of_mem _)

theorem lookup_entry {α : Type} (key name : String) (value : α) (rest : List (String × α)) :
    ((key, value) :: rest).lookup name = if name = key then some value else rest.lookup name := by
  by_cases same : name = key
  · simp [same]
  · simp [List.lookup_cons, beq_false_of_ne same, same]

theorem lookup_mapValues {α β : Type} (f : α → β) (entries : List (String × α)) (name : String) :
    (entries.map fun entry => (entry.1, f entry.2)).lookup name = (entries.lookup name).map f := by
  induction entries with
  | nil => rfl
  | cons head rest ih =>
    obtain ⟨key, value⟩ := head
    rw [List.map_cons, lookup_entry, lookup_entry, ih]
    split <;> rfl

/-- This needs no order: a name is found where it stands first. -/
theorem lookup_insertEntry {α : Type} (name other : String) (value : α)
    (entries : List (String × α)) :
    (insertEntry name value entries).lookup other =
      if other = name then some value else entries.lookup other := by
  induction entries with
  | nil => simp only [insertEntry, lookup_entry, List.lookup_nil]
  | cons head rest ih =>
    obtain ⟨key, old⟩ := head
    simp only [insertEntry]
    split
    · rw [lookup_entry]
    · split
      next replaced => subst replaced; simp only [lookup_entry]; split <;> rfl
      next kept =>
        simp only [lookup_entry, ih]
        by_cases same : other = name
        · subst same; simp [kept]
        · simp [same]

theorem ordered_insertEntry {α : Type} (name : String) (value : α) {entries : List (String × α)}
    (ordered : Ordered entries) : Ordered (insertEntry name value entries) := by
  induction entries with
  | nil => simp [insertEntry, Ordered]
  | cons head rest step =>
    obtain ⟨other, old⟩ := head
    obtain ⟨above, tail⟩ := List.pairwise_cons.mp ordered
    simp only [insertEntry]
    split
    next less =>
      refine List.pairwise_cons.mpr ⟨fun entry member => ?_, ordered⟩
      rcases List.mem_cons.mp member with same | inside
      · exact same ▸ less
      · exact String.lt_trans less (above entry inside)
    next notLess =>
      split
      next same =>
        exact List.pairwise_cons.mpr ⟨fun entry member => same ▸ above entry member, tail⟩
      next different =>
        have greater : other < name := by
          rcases String.le_total other name with le | le
          · refine String.not_le.mp fun back => different (String.le_antisymm back le)
          · exact absurd (String.le_antisymm le (String.not_lt.mp notLess)) different
        refine List.pairwise_cons.mpr ⟨fun entry member => ?_, step tail⟩
        rcases mem_insertEntry member with same | inside
        · exact same ▸ greater
        · exact above entry inside

theorem ordered_sortEntries {α : Type} (entries : List (String × α)) :
    Ordered (sortEntries entries) := by
  suffices keeps : ∀ sorted : List (String × α), Ordered sorted →
      Ordered (entries.foldl (fun sorted entry => insertEntry entry.1 entry.2 sorted) sorted) from
    keeps [] List.Pairwise.nil
  induction entries with
  | nil => exact fun _ ordered => ordered
  | cons head rest step => exact fun _ ordered => step _ (ordered_insertEntry _ _ ordered)

/-- Of entries with the same name the last one counts. -/
theorem lookup_sortEntries {α : Type} (entries : List (String × α)) (name : String) :
    (sortEntries entries).lookup name = entries.reverse.lookup name := by
  suffices placed : ∀ sorted : List (String × α),
      (entries.foldl (fun sorted entry => insertEntry entry.1 entry.2 sorted) sorted).lookup name =
        (entries.reverse.lookup name).or (sorted.lookup name) from
    (placed []).trans (Option.or_none)
  induction entries with
  | nil => exact fun _ => rfl
  | cons head rest ih =>
    intro sorted
    obtain ⟨key, value⟩ := head
    rw [List.foldl_cons, ih, lookup_insertEntry, List.reverse_cons, List.lookup_append,
      lookup_entry, List.lookup_nil, Option.or_assoc]
    by_cases here : name = key
    · rw [if_pos here, if_pos here, Option.some_or]
    · rw [if_neg here, if_neg here, Option.none_or]

theorem insertEntry_last {α : Type} {name : String} {value : α} {entries : List (String × α)}
    (below : ∀ entry ∈ entries, entry.1 < name) :
    insertEntry name value entries = entries ++ [(name, value)] := by
  induction entries with
  | nil => rfl
  | cons head rest ih =>
    obtain ⟨other, old⟩ := head
    have less : other < name := below (other, old) List.mem_cons_self
    have different : name ≠ other := by
      rintro rfl
      exact String.lt_irrefl name less
    have tail := ih fun entry member => below entry (List.mem_cons_of_mem _ member)
    simp only [insertEntry, String.lt_asymm less, different, if_false, tail, List.cons_append]

/-- Entries in their order stay as they are. -/
theorem sortEntries_ordered {α : Type} {entries : List (String × α)} (ordered : Ordered entries) :
    sortEntries entries = entries := by
  suffices grows : ∀ sorted : List (String × α), Ordered (sorted ++ entries) →
      entries.foldl (fun sorted entry => insertEntry entry.1 entry.2 sorted) sorted =
        sorted ++ entries from grows [] ordered
  induction entries with
  | nil => exact fun sorted _ => (List.append_nil sorted).symm
  | cons head rest ih =>
    intro sorted ordered'
    have below : ∀ entry ∈ sorted, entry.1 < head.1 := fun entry member =>
      (List.pairwise_append.mp ordered').2.2 entry member head List.mem_cons_self
    rw [List.foldl_cons, insertEntry_last below, ih (List.pairwise_cons.mp ordered).2,
      List.append_assoc, List.singleton_append]
    rwa [List.append_assoc, List.singleton_append]

theorem mem_sortEntries {α : Type} {entry : String × α} {entries : List (String × α)}
    (member : entry ∈ sortEntries entries) : entry ∈ entries := by
  suffices kept : ∀ sorted : List (String × α),
      entry ∈ entries.foldl (fun sorted entry => insertEntry entry.1 entry.2 sorted) sorted →
        entry ∈ sorted ∨ entry ∈ entries from
    (kept [] member).resolve_left List.not_mem_nil
  clear member
  induction entries with
  | nil => exact fun _ member => .inl member
  | cons head rest ih =>
    intro sorted member
    rcases ih _ member with placed | later
    · rcases mem_insertEntry placed with same | before
      · exact .inr (same ▸ List.mem_cons_self)
      · exact .inl before
    · exact .inr (List.mem_cons_of_mem _ later)

theorem lookup_mem {α : Type} {name : String} {value : α} {entries : List (String × α)}
    (found : entries.lookup name = some value) : (name, value) ∈ entries := by
  induction entries with
  | nil => cases found
  | cons head rest ih =>
    obtain ⟨key, held⟩ := head
    rw [lookup_entry] at found
    split at found
    next same =>
      cases found
      exact same ▸ List.mem_cons_self
    next => exact List.mem_cons_of_mem _ (ih found)

/-- Where no name is repeated, every entry is found. -/
theorem lookup_distinct {α : Type} {entries : List (String × α)}
    (distinct : (entries.map (·.1)).Nodup) {entry : String × α} (inside : entry ∈ entries) :
    entries.lookup entry.1 = some entry.2 := by
  induction entries with
  | nil => cases inside
  | cons head rest ih =>
    obtain ⟨key, value⟩ := head
    obtain ⟨fresh, distinct⟩ := List.nodup_cons.mp distinct
    rw [lookup_entry]
    rcases List.mem_cons.mp inside with rfl | later
    · exact if_pos rfl
    · have other : entry.1 ≠ key := by
        rintro rfl
        exact fresh (List.mem_map.mpr ⟨entry, later, rfl⟩)
      rw [if_neg other, ih distinct later]

theorem lookup_of_mem {α : Type} {entries : List (String × α)} (ordered : Ordered entries)
    {entry : String × α} (inside : entry ∈ entries) : entries.lookup entry.1 = some entry.2 := by
  refine lookup_distinct (List.pairwise_map.mpr (ordered.imp fun less same => ?_)) inside
  exact String.lt_irrefl _ (same ▸ less)

theorem lookup_below {α : Type} {name : String} {entries : List (String × α)}
    (above : ∀ entry ∈ entries, name < entry.1) : entries.lookup name = none := by
  cases found : entries.lookup name with
  | none => rfl
  | some value => exact absurd (above _ (lookup_mem found)) (String.lt_irrefl name)

/-- The first name is the least one. -/
theorem lookup_head {α : Type} {name other : String} {value found : α} {rest : List (String × α)}
    (ordered : Ordered ((name, value) :: rest))
    (holds : ((name, value) :: rest).lookup other = some found) : other = name ∨ name < other := by
  rcases List.mem_cons.mp (lookup_mem holds) with same | later
  · exact .inl (congrArg Prod.fst same)
  · exact .inr ((List.pairwise_cons.mp ordered).1 _ later)

/-- Ordered entries are determined by what is found in them. -/
theorem ordered_ext {α : Type} {first second : List (String × α)} (ordered : Ordered first)
    (ordered' : Ordered second) (same : ∀ name, first.lookup name = second.lookup name) :
    first = second := by
  induction first generalizing second with
  | nil =>
    cases second with
    | nil => rfl
    | cons head rest =>
      have found := same head.1
      rw [lookup_entry, if_pos rfl] at found
      cases found
  | cons head rest ih =>
    obtain ⟨name, value⟩ := head
    cases second with
    | nil =>
      have found := same name
      rw [lookup_entry, if_pos rfl] at found
      cases found
    | cons head' rest' =>
      obtain ⟨name', value'⟩ := head'
      have here : ((name', value') :: rest').lookup name = some value := by
        rw [← same, lookup_entry, if_pos rfl]
      have there : ((name, value) :: rest).lookup name' = some value' := by
        rw [same, lookup_entry, if_pos rfl]
      have equal : name = name' := by
        rcases lookup_head ordered' here with equal | less
        · exact equal
        · rcases lookup_head ordered there with equal | greater
          · exact equal.symm
          · exact absurd greater (String.lt_asymm less)
      subst equal
      rw [lookup_entry, if_pos rfl] at here
      obtain ⟨above, tail⟩ := List.pairwise_cons.mp ordered
      obtain ⟨above', tail'⟩ := List.pairwise_cons.mp ordered'
      have rests : rest = rest' := by
        refine ih tail tail' fun other => ?_
        have found := same other
        rw [lookup_entry, lookup_entry] at found
        by_cases first : other = name
        · subst first
          rw [lookup_below above, lookup_below above']
        · rwa [if_neg first, if_neg first] at found
      rw [rests, Option.some.inj here]

theorem filter_name {α : Type} {entries : List (String × α)} (ordered : Ordered entries)
    (name : String) :
    entries.filter (·.1 == name) = ((entries.lookup name).map (name, ·)).toList := by
  induction entries with
  | nil => rfl
  | cons head rest ih =>
    obtain ⟨key, value⟩ := head
    obtain ⟨above, tail⟩ := List.pairwise_cons.mp ordered
    rw [lookup_entry]
    split
    next first =>
      subst first
      rw [List.filter_cons_of_pos (by simp), ih tail, lookup_below above]
      rfl
    next other =>
      rw [List.filter_cons_of_neg (by simpa using fun same => other same.symm), ih tail]

theorem lookup_filterMap {α β : Type} (f : α → Option β) {entries : List (String × α)}
    (ordered : Ordered entries) (name : String) :
    (entries.filterMap fun entry => (f entry.2).map (entry.1, ·)).lookup name =
      (entries.lookup name).bind f := by
  induction entries with
  | nil => rfl
  | cons head rest ih =>
    obtain ⟨key, value⟩ := head
    obtain ⟨above, tail⟩ := List.pairwise_cons.mp ordered
    rw [lookup_entry, List.filterMap_cons]
    cases kept : f value with
    | some result =>
      simp only [Option.map_some, lookup_entry, ih tail]
      split
      · exact kept.symm
      · rfl
    | none =>
      simp only [Option.map_none, ih tail]
      split
      next first =>
        subst first
        rw [lookup_below above, Option.bind_some, kept]
        rfl
      next => rfl

/-- A finite mapping from names, in the order of the names. -/
structure NameMap (α : Type) where
  entries : List (String × α)
  ordered : Ordered entries

namespace NameMap

variable {α : Type}

def empty : NameMap α := ⟨[], List.Pairwise.nil⟩

instance : Inhabited (NameMap α) := ⟨empty⟩

@[ext] theorem ext {first second : NameMap α} (same : first.entries = second.entries) :
    first = second := by
  cases first; cases second; cases same; rfl

/-- The mapping of a list of entries, of which the last one of a name counts. -/
def ofList (entries : List (String × α)) : NameMap α :=
  ⟨sortEntries entries, ordered_sortEntries entries⟩

def get? (map : NameMap α) (name : String) : Option α :=
  map.entries.lookup name

def contains (map : NameMap α) (name : String) : Bool :=
  (map.get? name).isSome

def insert (map : NameMap α) (name : String) (value : α) : NameMap α :=
  ⟨insertEntry name value map.entries, ordered_insertEntry name value map.ordered⟩

@[simp] theorem get?_empty (name : String) : (empty : NameMap α).get? name = none := rfl

theorem get?_insert (map : NameMap α) (name other : String) (value : α) :
    (map.insert name value).get? other = if other = name then some value else map.get? other :=
  lookup_insertEntry name other value map.entries

theorem get?_ofList (entries : List (String × α)) (name : String) :
    (ofList entries).get? name = entries.reverse.lookup name :=
  lookup_sortEntries entries name

theorem ext_get? {first second : NameMap α} (same : ∀ name, first.get? name = second.get? name) :
    first = second :=
  ext (ordered_ext first.ordered second.ordered same)

def names (map : NameMap α) : List String :=
  map.entries.map (·.1)

def size (map : NameMap α) : Nat :=
  map.entries.length

def isEmpty (map : NameMap α) : Bool :=
  map.entries.isEmpty

def filterMap {β : Type} (f : α → Option β) (map : NameMap α) : NameMap β :=
  .ofList (map.entries.filterMap fun entry => (f entry.2).map (entry.1, ·))

theorem get?_filterMap {β : Type} (f : α → Option β) (map : NameMap α) (name : String) :
    (map.filterMap f).get? name = (map.get? name).bind f := by
  have ordered : Ordered (map.entries.filterMap fun entry => (f entry.2).map (entry.1, ·)) := by
    refine List.Pairwise.filterMap _ (fun first second less a inside b inside' => ?_) map.ordered
    obtain ⟨_, _, rfl⟩ := Option.map_eq_some_iff.mp inside
    obtain ⟨_, _, rfl⟩ := Option.map_eq_some_iff.mp inside'
    exact less
  rw [filterMap, ofList, get?]
  simp only [sortEntries_ordered ordered]
  exact lookup_filterMap f map.ordered name

end NameMap

end InterfaceSync
