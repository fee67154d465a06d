import InterfaceSync.Proofs.LayeredSettings

/-! Records in layers. A record that a table says by its fields can be written back as a table of
all its fields without a layer above or below it noticing. -/

namespace InterfaceSync

open Setting (Tells WellFormed Tidy overlay tells_none tells_some merge_table mergeEntries)

/-- A value with fields that layers may say one by one. -/
structure Record (α φ : Type) where
  decode : Setting → Setting.Decoded α
  /-- The fields that the entries of a table say. -/
  Of : φ → List (String × Setting) → Prop
  /-- Fields of an upper layer before those of a lower one. -/
  or : φ → φ → φ
  /-- The value that some fields make up. -/
  complete : φ → Option α
  fields : α → φ
  /-- The entries of a table that says all fields of a value. -/
  entries : α → List (String × Setting)
  shaped : ∀ {setting value}, decode setting = .ok value →
    (∃ table, setting = .table table) ∨ ∃ items, setting = .list items
  unique : ∀ {first second table}, Of first table → Of second table → first = second
  decode_table : ∀ {table value}, decode (.table table) = .ok value ↔
    ∃ fields, Of fields table ∧ complete fields = some value
  of_mergeEntries : ∀ {lower upper}, Ordered upper → ∀ {below fields}, Of below lower →
    (Of fields (mergeEntries lower upper) ↔ ∃ above, Of above upper ∧ fields = or above below)
  of_entries : ∀ value, Of (fields value) (entries value)
  ordered_entries : ∀ value, Ordered (entries value)
  complete_fields : ∀ value, complete (fields value) = some value
  complete_or : ∀ above value, ∃ result, complete (or above (fields value)) = some result

namespace Record

variable {α φ : Type} (record : Record α φ)

/-- If an entry is a table, then all that stands at its fields fits them. -/
def Known (entry : Option Setting) : Prop :=
  ∀ table, entry = some (.table table) → ∃ fields, record.Of fields table

/-- A lowest layer that completes the fields above it to those of their value. -/
def Settles (lowest : Option Setting) : Prop :=
  ∀ {table fields value}, Ordered table → record.Of fields table →
    record.complete fields = some value →
      ∃ table', overlay lowest (some (.table table)) = some (.table table') ∧
        record.Of (record.fields value) table'

/-- No list of fields lies below a table of fields. -/
def Together (lower upper : Option Setting) : Prop :=
  ∀ items table, lower = some (.list items) → upper ≠ some (.table table)

variable {record}

private theorem decode_entries (value : α) : record.decode (.table (record.entries value)) = .ok
    value :=
  record.decode_table.mpr ⟨_, record.of_entries value, record.complete_fields value⟩

theorem known_of_tells {entry : Option Setting} {value : Option α}
    (tells : Tells record.decode entry value) : record.Known entry := by
  rintro table rfl
  obtain ⟨_, _, decoded⟩ := tells_some.mp tells
  obtain ⟨fields, of, _⟩ := record.decode_table.mp decoded
  exact ⟨fields, of⟩

theorem known_overlay {lower upper : Option Setting} (known : record.Known lower)
    (known' : record.Known upper) (ordered : ∀ table, upper = some (.table table) → Ordered table) :
    record.Known (overlay lower upper) := by
  cases lower with
  | none => rwa [Setting.none_overlay]
  | some lower =>
    cases upper with
    | none => rwa [Setting.overlay_none]
    | some upper =>
      cases upper with
      | table above =>
        cases lower with
        | table below =>
          obtain ⟨fields, of⟩ := known below rfl
          obtain ⟨fields', of'⟩ := known' above rfl
          rw [overlay, merge_table]
          rintro _ ⟨⟩
          exact ⟨_, (record.of_mergeEntries (ordered above rfl) of).mpr ⟨fields', of', rfl⟩⟩
        | _ =>
          rw [overlay, Setting.merge_onto rfl]
          exact known'
      | _ =>
        rw [overlay, Setting.merge_plain _ rfl]
        exact known'

/-- Tables with the same fields are the same below any layer. -/
theorem overlay_congr {table table' : List (String × Setting)} {fields : φ}
    (of : record.Of fields table) (of' : record.Of fields table') {upper : Option Setting}
    (ordered : ∀ above, upper = some (.table above) → Ordered above) {value : Option α} :
    Tells record.decode (overlay (some (.table table)) upper) value ↔
      Tells record.decode (overlay (some (.table table')) upper) value := by
  have same {table table' : List (String × Setting)}
      (same : ∀ fields, record.Of fields table ↔ record.Of fields table') (value : α) :
      record.decode (.table table) = .ok value ↔ record.decode (.table table') = .ok value := by
    simp only [record.decode_table, same]
  cases upper with
  | none =>
    have own : ∀ other, record.Of other table ↔ record.Of other table' := fun other =>
      ⟨fun of'' => record.unique of'' of ▸ of', fun of'' => record.unique of'' of' ▸ of⟩
    simp only [Setting.overlay_none, tells_some, same own]
  | some upper =>
    cases upper with
    | table above =>
      have merged : ∀ other, record.Of other (mergeEntries table above) ↔
          record.Of other (mergeEntries table' above) := fun other => by
        rw [record.of_mergeEntries (ordered above rfl) of,
          record.of_mergeEntries (ordered above rfl) of']
      simp only [overlay, merge_table, tells_some, same merged]
    | _ =>
      simp only [overlay]
      rw [Setting.merge_plain _ rfl, Setting.merge_plain _ rfl]

theorem overlay_plain (lower : Option Setting) {upper : Setting} (plain : upper.isTable = false) :
    overlay lower (some upper) = some upper := by
  cases lower with
  | none => rfl
  | some lower => rw [overlay, Setting.merge_plain lower plain]

theorem of_upper {lower : Option Setting} {above : List (String × Setting)}
    (known : record.Known lower) (ordered : Ordered above) {value : Option α}
    (tells : Tells record.decode (overlay lower (some (.table above))) value) :
    ∃ fields, record.Of fields above := by
  cases lower with
  | none => exact known_of_tells tells above rfl
  | some lower =>
    obtain ⟨_, _, decoded⟩ := tells_some.mp tells
    cases lower with
    | table below =>
      obtain ⟨fields, of⟩ := known below rfl
      rw [merge_table] at decoded
      obtain ⟨_, merged, _⟩ := record.decode_table.mp decoded
      obtain ⟨fields', of', _⟩ := (record.of_mergeEntries ordered of).mp merged
      exact ⟨fields', of'⟩
    | _ =>
      rw [Setting.merge_onto rfl] at decoded
      obtain ⟨fields, of, _⟩ := record.decode_table.mp decoded
      exact ⟨fields, of⟩

variable (record) in
theorem upper_cases {lower : Option Setting} {setting : Setting} (known : record.Known lower)
    (ordered : ∀ table, setting = .table table → Ordered table) {value : Option α}
    (tells : Tells record.decode (overlay lower (some setting)) value) :
    (∃ own, record.decode setting = .ok own) ∨ ∃ table fields, setting = .table table ∧
      record.Of fields table ∧ record.complete fields = none := by
  cases plain : setting.isTable with
  | false =>
    rw [overlay_plain _ plain] at tells
    obtain ⟨own, _, decoded⟩ := tells_some.mp tells
    exact .inl ⟨own, decoded⟩
  | true =>
    cases setting with
    | table table =>
      obtain ⟨fields, of⟩ := of_upper known (ordered table rfl) tells
      cases complete : record.complete fields with
      | some own => exact .inl ⟨own, record.decode_table.mpr ⟨fields, of, complete⟩⟩
      | none => exact .inr ⟨table, fields, rfl, of, complete⟩
    | _ => cases plain

section
variable {lowest upper : Option Setting} (settles : record.Settles lowest)
  (ordered : ∀ above, upper = some (.table above) → Ordered above)

include settles ordered

theorem overlay_entries {setting : Setting} {value : α}
    (decoded : record.decode setting = .ok value)
    (ordered' : ∀ table, setting = .table table → Ordered table)
    (together : Together (some setting) upper) {result : Option α} :
    Tells record.decode (overlay (overlay lowest (some (.table (record.entries value)))) upper)
        result ↔
      Tells record.decode (overlay (overlay lowest (some setting)) upper) result := by
  obtain ⟨whole, written, of⟩ := settles (record.ordered_entries value) (record.of_entries value)
    (record.complete_fields value)
  rw [written]
  rcases record.shaped decoded with ⟨table, rfl⟩ | ⟨items, rfl⟩
  · obtain ⟨fields, of', complete⟩ := record.decode_table.mp decoded
    obtain ⟨table', below, of''⟩ := settles (ordered' table rfl) of' complete
    rw [below]
    exact overlay_congr of of'' ordered
  · rw [overlay_plain lowest rfl]
    cases upper with
    | none =>
      have decoded' : record.decode (.table whole) = .ok value :=
        record.decode_table.mpr ⟨_, of, record.complete_fields value⟩
      simp only [Setting.overlay_none, tells_some, decoded, decoded']
    | some upper =>
      cases plain : upper.isTable with
      | false => rw [overlay_plain _ plain, overlay_plain _ plain]
      | true =>
        cases upper with
        | table above => exact absurd rfl (together items above rfl)
        | _ => cases plain

theorem exists_overlay_entries {lower : Option Setting} (known : record.Known lower)
    {before : Option α} (tells : Tells record.decode (overlay lower upper) before) (value : α) :
    ∃ result,
      Tells record.decode (overlay (some (.table (record.entries value))) upper) (some result) ∧
      Tells record.decode (overlay (overlay lowest (some (.table (record.entries value)))) upper)
        (some result) := by
  obtain ⟨whole, written, of⟩ := settles (record.ordered_entries value) (record.of_entries value)
    (record.complete_fields value)
  rw [written]
  suffices alone : ∃ result, Tells record.decode
      (overlay (some (.table (record.entries value))) upper) (some result) by
    obtain ⟨result, alone⟩ := alone
    exact ⟨result, alone, (overlay_congr of (record.of_entries value) ordered).mpr alone⟩
  cases upper with
  | none => exact ⟨value, .some (decode_entries value)⟩
  | some upper =>
    cases plain : upper.isTable with
    | false =>
      rw [overlay_plain _ plain] at tells ⊢
      obtain ⟨result, rfl, decoded⟩ := tells_some.mp tells
      exact ⟨result, .some decoded⟩
    | true =>
      cases upper with
      | table above =>
        obtain ⟨fields, of'⟩ := of_upper known (ordered above rfl) tells
        obtain ⟨result, complete⟩ := record.complete_or fields value
        have merged := (record.of_mergeEntries (ordered above rfl) (record.of_entries value)).mpr
          ⟨fields, of', rfl⟩
        refine ⟨result, ?_⟩
        rw [overlay, merge_table]
        exact .some (record.decode_table.mpr ⟨_, merged, complete⟩)
      | _ => cases plain

end

end Record

def ProfileFields.complete (fields : ProfileFields) : Option Profile :=
  fields.apiBase.map fun apiBase =>
    { apiBase, timeout := fields.timeout, caCert := fields.caCert, insecure := fields.insecure }

theorem ProfileFields.complete_iff {fields : ProfileFields} {profile : Profile} :
    fields.complete = some profile ↔ fields = profile.fields := by
  obtain ⟨apiBase, timeout, caCert, insecure⟩ := fields
  cases apiBase with
  | none => exact ⟨nofun, nofun⟩
  | some apiBase =>
    constructor
    · rintro ⟨⟩
      rfl
    · rintro ⟨⟩
      rfl

private theorem ProfileFields.Of.unique {first second : ProfileFields}
    {entries : List (String × Setting)}
    (of : first.Of entries) (of' : second.Of entries) : first = second := by
  obtain ⟨_, _, _, _⟩ := first
  obtain ⟨_, _, _, _⟩ := second
  rw [ProfileFields.mk.injEq]
  exact ⟨of.apiBase.unique of'.apiBase, of.timeout.unique of'.timeout, of.caCert.unique of'.caCert,
    of.insecure.unique of'.insecure⟩

theorem toProfile_shaped {setting : Setting} {profile : Profile}
    (decoded : setting.toProfile = .ok profile) :
    (∃ table, setting = .table table) ∨ ∃ items, setting = .list items := by
  cases setting with
  | table table => exact .inl ⟨table, rfl⟩
  | list items => exact .inr ⟨items, rfl⟩
  | _ => cases decoded

def profileRecord : Record Profile ProfileFields where
  decode := Setting.toProfile
  Of := ProfileFields.Of
  or := ProfileFields.or
  complete := ProfileFields.complete
  fields := Profile.fields
  entries := Profile.entries
  shaped := toProfile_shaped
  unique := ProfileFields.Of.unique
  decode_table := by
    intro table profile
    rw [toProfile_table]
    constructor
    · exact fun of => ⟨_, of, ProfileFields.complete_iff.mpr rfl⟩
    · rintro ⟨fields, of, complete⟩
      rwa [ProfileFields.complete_iff.mp complete] at of
  of_mergeEntries ordered _ _ of := ProfileFields.of_mergeEntries ordered of
  of_entries := Profile.fields_of_entries
  ordered_entries _ := ordered_sortEntries _
  complete_fields _ := rfl
  complete_or above profile := by
    obtain ⟨apiBase, timeout, caCert, insecure⟩ := above
    cases apiBase <;> exact ⟨_, rfl⟩

private theorem DefaultsFields.Of.unique {first second : DefaultsFields}
    {entries : List (String × Setting)}
    (of : first.Of entries) (of' : second.Of entries) : first = second := by
  obtain ⟨_, _⟩ := first
  obtain ⟨_, _⟩ := second
  rw [DefaultsFields.mk.injEq]
  exact ⟨of.timeout.unique of'.timeout, of.insecure.unique of'.insecure⟩

theorem toDefaults_shaped {setting : Setting} {defaults : Defaults}
    (decoded : setting.toDefaults = .ok defaults) :
    (∃ table, setting = .table table) ∨ ∃ items, setting = .list items := by
  cases setting with
  | table table => exact .inl ⟨table, rfl⟩
  | list items => exact .inr ⟨items, rfl⟩
  | _ => cases decoded

def defaultsRecord : Record Defaults DefaultsFields where
  decode := Setting.toDefaults
  Of := DefaultsFields.Of
  or := DefaultsFields.or
  complete fields := some fields.complete
  fields := Defaults.fields
  entries := Defaults.entries
  shaped := toDefaults_shaped
  unique := DefaultsFields.Of.unique
  decode_table := by
    intro table defaults
    rw [toDefaults_table]
    simp only [Option.some.injEq, eq_comm]
  of_mergeEntries ordered _ _ of := DefaultsFields.of_mergeEntries ordered of
  of_entries := Defaults.fields_of_entries
  ordered_entries _ := ordered_sortEntries _
  complete_fields _ := rfl
  complete_or _ _ := ⟨_, rfl⟩

namespace Settings

theorem builtinProfile_cases (name : String) :
    builtinProfile name = none ∨ (name = "development" ∨ name = "production") ∧
      ∃ base, builtinProfile name = some (Profile.ofBase base).toSetting := by
  have found : builtin.profiles.get? name =
      if name = "production" then some (.ofBase "http://localhost/api")
      else if name = "development" then some (.ofBase "http://localhost:8000/api") else none := by
    simp [builtin, NameMap.get?, NameMap.ofList, sortEntries, lookup_insertEntry]
  rw [builtinProfile, found]
  split
  next production => exact .inr ⟨.inr production, _, rfl⟩
  split
  next development => exact .inr ⟨.inl development, _, rfl⟩
  next => exact .inl rfl

private theorem or_ofBase (profile : Profile) (base : String) :
    profile.fields.or (Profile.ofBase base).fields = profile.fields := by
  obtain ⟨apiBase, timeout, caCert, insecure⟩ := profile
  simp [ProfileFields.or, Profile.fields, Profile.ofBase]

theorem settles_builtinProfile (name : String) : profileRecord.Settles (builtinProfile name) := by
  intro table fields profile ordered of complete
  have same : fields = profile.fields := ProfileFields.complete_iff.mp complete
  subst same
  rcases builtinProfile_cases name with absent | ⟨_, base, present⟩
  · exact ⟨table, by rw [absent]; rfl, of⟩
  · rw [present]
    refine ⟨mergeEntries (Profile.ofBase base).entries table, ?_, ?_⟩
    · rw [overlay, Profile.toSetting_entries, merge_table]
    · change profile.fields.Of _
      rw [← or_ofBase profile base]
      exact (ProfileFields.of_mergeEntries ordered (Profile.fields_of_entries _)).mpr ⟨_, of, rfl⟩

theorem settles_standard : defaultsRecord.Settles (some Defaults.standard.toSetting) := by
  intro table fields defaults ordered of complete
  have same : fields.complete = defaults := Option.some.inj complete
  subst same
  refine ⟨mergeEntries Defaults.standard.entries table, ?_, ?_⟩
  · rw [overlay, Defaults.toSetting_entries, merge_table]
  · have whole : fields.complete.fields = fields.or Defaults.standard.fields := by
      obtain ⟨timeout, insecure⟩ := fields
      cases timeout <;> cases insecure <;> rfl
    change fields.complete.fields.Of _
    rw [whole]
    exact (DefaultsFields.of_mergeEntries ordered (Defaults.fields_of_entries _)).mpr ⟨_, of, rfl⟩

end Settings

end InterfaceSync
