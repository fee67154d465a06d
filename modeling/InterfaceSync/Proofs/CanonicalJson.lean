import InterfaceSync.Json.Reader

/-! Values in canonical form, as the program holds them once a text has been read, and how deep they
are. Canonical values stay as they are when they are made canonical again, and equal values are
equally deep. -/

namespace InterfaceSync.Json

theorem induction {motive : Json → Prop} (null : motive .null)
    (bool : ∀ value, motive (.bool value)) (number : ∀ value, motive (.number value))
    (string : ∀ value, motive (.string value))
    (array : ∀ items, (∀ item ∈ items, motive item) → motive (.array items))
    (object : ∀ members, (∀ member ∈ members, motive member.2) → motive (.object members)) :
    ∀ value, motive value
  | .null => null
  | .bool value => bool value
  | .number value => number value
  | .string value => string value
  | .array items => array items fun item member =>
      have smaller : sizeOf item < sizeOf items := List.sizeOf_lt_of_mem member
      induction null bool number string array object item
  | .object members => object members fun (key, value) member =>
      have smaller : sizeOf value < sizeOf members := by
        have entry := List.sizeOf_lt_of_mem member
        rw [Prod.mk.sizeOf_spec] at entry
        omega
      induction null bool number string array object value

mutual
/-- How many containers stand inside one another. -/
def depth : Json → Nat
  | .array items => depthItems items + 1
  | .object members => depthMembers members + 1
  | .null => 0
  | .bool _ => 0
  | .number _ => 0
  | .string _ => 0

def depthItems : List Json → Nat
  | [] => 0
  | item :: items => max item.depth (depthItems items)

def depthMembers : List (String × Json) → Nat
  | [] => 0
  | (_, value) :: members => max value.depth (depthMembers members)
end

theorem depth_lookup {name : String} {value : Json} {members : List (String × Json)}
    (found : members.lookup name = some value) : value.depth < (Json.object members).depth := by
  refine Nat.lt_succ_of_le ?_
  induction members with
  | nil => cases found
  | cons member members ih =>
    obtain ⟨key, held⟩ := member
    rw [lookup_entry] at found
    split at found
    · cases found
      exact Nat.le_max_left _ _
    · exact Nat.le_trans (ih found) (Nat.le_max_right _ _)

mutual
theorem same_depth (first second : Json) (same : first.same second = true) :
    first.depth = second.depth := by
  cases first <;> cases second <;> try cases same
  case array.array items items' =>
    exact congrArg (· + 1) (sameItems_depth items items' same)
  case object.object members members' =>
    exact congrArg (· + 1) (sameMembers_depth members members' same)
  all_goals rfl

theorem sameItems_depth (first second : List Json) (same : sameItems first second = true) :
    depthItems first = depthItems second := by
  cases first with
  | nil =>
    cases second with
    | nil => rfl
    | cons item items => cases same
  | cons item items =>
    cases second with
    | nil => cases same
    | cons item' items' =>
      simp only [sameItems, Bool.and_eq_true] at same
      simp only [depthItems, same_depth item item' same.1, sameItems_depth items items' same.2]

theorem sameMembers_depth (first second : List (String × Json))
    (same : sameMembers first second = true) : depthMembers first = depthMembers second := by
  cases first with
  | nil =>
    cases second with
    | nil => rfl
    | cons member members => cases same
  | cons member members =>
    cases second with
    | nil => cases same
    | cons member' members' =>
      obtain ⟨key, value⟩ := member
      obtain ⟨key', value'⟩ := member'
      simp only [sameMembers, Bool.and_eq_true] at same
      simp only [depthMembers, same_depth value value' same.1.2,
        sameMembers_depth members members' same.2]
end

/-- The members of every object are in their order, and no two of them have one key. -/
def Canonical (value : Json) : Prop :=
  value.canonical = value

theorem canonicalItems_eq (items : List Json) : canonicalItems items = items.map canonical := by
  induction items with
  | nil => rfl
  | cons item items ih => rw [canonicalItems, ih, List.map_cons]

theorem canonicalMembers_eq (members : List (String × Json)) :
    canonicalMembers members = members.map fun member => (member.1, member.2.canonical) := by
  induction members with
  | nil => rfl
  | cons member members ih => rw [canonicalMembers, ih, List.map_cons]

theorem canonicalMembers_fixed {members : List (String × Json)}
    (fixed : ∀ member ∈ members, member.2.Canonical) : canonicalMembers members = members := by
  induction members with
  | nil => rfl
  | cons member members ih =>
    obtain ⟨key, value⟩ := member
    have head : value.canonical = value := fixed (key, value) List.mem_cons_self
    have tail := ih fun member inside => fixed member (List.mem_cons_of_mem _ inside)
    rw [canonicalMembers, head, tail]

theorem canonical_canonical (value : Json) : value.canonical.Canonical := by
  induction value using Json.induction with
  | null => rfl
  | bool value => rfl
  | number value => rfl
  | string value => rfl
  | array items each =>
    simp only [Canonical, canonical, canonicalItems_eq, List.map_map]
    exact congrArg _ (List.map_congr_left each)
  | object members each =>
    have fixed : ∀ member ∈ sortEntries (canonicalMembers members), member.2.Canonical := by
      intro member sorted
      have unsorted := mem_sortEntries sorted
      rw [canonicalMembers_eq] at unsorted
      obtain ⟨raw, inside, rfl⟩ := List.mem_map.mp unsorted
      exact each raw inside
    simp only [Canonical, canonical, canonicalMembers_fixed fixed,
      sortEntries_ordered (ordered_sortEntries _)]

theorem Canonical.members {members : List (String × Json)}
    (canonical : (Json.object members).Canonical) :
    sortEntries (canonicalMembers members) = members :=
  Json.object.inj canonical

end InterfaceSync.Json
