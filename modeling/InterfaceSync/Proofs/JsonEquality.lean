import InterfaceSync.Model.Document

/-! Equality of JSON values is not identity: the two zeros are the same number. It is still
reflexive, because no number here is without a value, and the sign of a zero is all that it passes
over. Equal documents have equal configurations under the same names. -/

namespace InterfaceSync

private theorem Binary64.same_refl (x : Binary64) : x.same x = true := by
  simp [Binary64.same]

private theorem Json.Number.same_refl (number : Json.Number) : number.same number = true := by
  cases number with
  | whole value fits => simp [Json.Number.same]
  | float value => exact value.same_refl

mutual
private theorem Json.same_refl (value : Json) : value.same value = true := by
  cases value with
  | null => rfl
  | bool value => simp [Json.same]
  | number value => exact value.same_refl
  | string value => simp [Json.same]
  | array items => exact Json.sameItems_refl items
  | object members => exact Json.sameMembers_refl members

theorem Json.sameItems_refl (items : List Json) : Json.sameItems items items = true := by
  cases items with
  | nil => rfl
  | cons item rest => simp [Json.sameItems, Json.same_refl item, Json.sameItems_refl rest]

theorem Json.sameMembers_refl (members : List (String × Json)) :
    Json.sameMembers members members = true := by
  cases members with
  | nil => rfl
  | cons member rest =>
    obtain ⟨key, value⟩ := member
    simp [Json.sameMembers, Json.same_refl value, Json.sameMembers_refl rest]
end

@[simp] theorem InterfaceConfig.same_refl (config : InterfaceConfig) : config.same config = true :=
  config.value.same_refl

namespace Document

private theorem sameEntries_refl (entries : List (Ifname × InterfaceConfig)) :
    sameEntries entries entries = true := by
  induction entries with
  | nil => rfl
  | cons entry rest ih => simp [sameEntries, ih]

@[simp] theorem same_refl (document : Document) : document.same document = true :=
  sameEntries_refl document.entries

private theorem sameEntries_lookup {first second : List (Ifname × InterfaceConfig)}
    (same : sameEntries first second = true) (ifname : Ifname) :
    Option.Rel (fun a b => a.same b = true) (first.lookup ifname) (second.lookup ifname) := by
  induction first generalizing second with
  | nil =>
    cases second with
    | nil => exact .none
    | cons entry rest => cases same
  | cons entry rest ih =>
    cases second with
    | nil => cases same
    | cons other others =>
      obtain ⟨name, config⟩ := entry
      obtain ⟨name', config'⟩ := other
      simp only [sameEntries, Bool.and_eq_true, beq_iff_eq] at same
      obtain ⟨⟨rfl, equal⟩, tails⟩ := same
      rw [lookup_entry, lookup_entry]
      split
      · exact .some equal
      · exact ih tails

theorem same_get? {first second : Document} (same : first.same second = true) (ifname : Ifname) :
    Option.Rel (fun a b => a.same b = true) (first.get? ifname) (second.get? ifname) :=
  sameEntries_lookup same ifname

end Document

/-! What equality leaves open. Values without the signs of their zeros are equal only if they are
one value, so a sign of a zero is all that equal values can differ in. -/

/-- The number, and no sign if it is zero. -/
def Binary64.unsigned (x : Binary64) : Binary64 :=
  if x.isZero then zero false else x

private theorem Binary64.same_iff {x y : Binary64} : x.same y = true ↔ x.unsigned = y.unsigned := by
  unfold Binary64.same Binary64.unsigned
  cases first : x.isZero <;> cases second : y.isZero
  · simp
  · -- Only one of them is zero, so they differ either way.
    have different : x ≠ y := fun equal => by simp [equal, second] at first
    have different' : x ≠ zero false := fun equal => by rw [equal] at first; cases first
    simp [different, different']
  · have different : x ≠ y := fun equal => by simp [equal, second] at first
    have different' : zero false ≠ y := fun equal => by rw [← equal] at second; cases second
    simp [different, different']
  · simp

def Json.Number.unsigned : Json.Number → Json.Number
  | .whole value fits => .whole value fits
  | .float value => .float value.unsigned

private theorem Json.Number.same_iff {first second : Json.Number} :
    first.same second = true ↔ first.unsigned = second.unsigned := by
  cases first <;> cases second <;> simp [Json.Number.same, Json.Number.unsigned, Binary64.same_iff]

mutual
/-- The value without the signs of its zeros, at every depth. -/
def Json.unsigned : Json → Json
  | .null => .null
  | .bool value => .bool value
  | .number value => .number value.unsigned
  | .string value => .string value
  | .array items => .array (Json.unsignedItems items)
  | .object members => .object (Json.unsignedMembers members)

def Json.unsignedItems : List Json → List Json
  | [] => []
  | item :: rest => item.unsigned :: Json.unsignedItems rest

def Json.unsignedMembers : List (String × Json) → List (String × Json)
  | [] => []
  | (key, value) :: rest => (key, value.unsigned) :: Json.unsignedMembers rest
end

mutual
theorem Json.same_iff (first second : Json) :
    first.same second = true ↔ first.unsigned = second.unsigned := by
  cases first <;> cases second
  case number.number a b => simpa [Json.same, Json.unsigned] using Json.Number.same_iff
  case array.array items items' =>
    simpa [Json.same, Json.unsigned] using Json.sameItems_iff items items'
  case object.object members members' =>
    simpa [Json.same, Json.unsigned] using Json.sameMembers_iff members members'
  all_goals simp [Json.same, Json.unsigned]

theorem Json.sameItems_iff (first second : List Json) :
    Json.sameItems first second = true ↔ Json.unsignedItems first = Json.unsignedItems second := by
  cases first with
  | nil => cases second <;> simp [Json.sameItems, Json.unsignedItems]
  | cons item rest =>
    cases second with
    | nil => simp [Json.sameItems, Json.unsignedItems]
    | cons item' rest' =>
      simp only [Json.sameItems, Json.unsignedItems, Bool.and_eq_true, List.cons.injEq,
        Json.same_iff item item', Json.sameItems_iff rest rest']

theorem Json.sameMembers_iff (first second : List (String × Json)) :
    Json.sameMembers first second = true ↔
      Json.unsignedMembers first = Json.unsignedMembers second := by
  cases first with
  | nil => cases second <;> simp [Json.sameMembers, Json.unsignedMembers]
  | cons member rest =>
    obtain ⟨key, value⟩ := member
    cases second with
    | nil => simp [Json.sameMembers, Json.unsignedMembers]
    | cons member' rest' =>
      obtain ⟨key', value'⟩ := member'
      simp only [Json.sameMembers, Json.unsignedMembers, Bool.and_eq_true, beq_iff_eq,
        List.cons.injEq, Prod.mk.injEq, Json.same_iff value value',
        Json.sameMembers_iff rest rest']
end

end InterfaceSync
