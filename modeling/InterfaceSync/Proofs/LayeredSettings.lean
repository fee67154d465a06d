import InterfaceSync.Proofs.Results
import InterfaceSync.Proofs.WellFormedLayers
import Mathlib.Data.Option.Defs

/-! The settings that layers say. A field is what the topmost layer that names it says, a profile or
the defaults are their fields, and settings are decoded exactly when all of these are. -/

namespace InterfaceSync

namespace Setting

section
variable {α : Type}

/-- What a decoder makes of an entry that may be missing. -/
abbrev Tells (decode : Setting → Decoded α) : Option Setting → Option α → Prop :=
  Option.Rel fun setting value => decode setting = .ok value

theorem Tells.unique {decode : Setting → Decoded α} {entry : Option Setting}
    {first second : Option α}
    (tells : Tells decode entry first) (tells' : Tells decode entry second) : first = second := by
  cases tells with
  | none =>
    cases tells'
    rfl
  | some decoded =>
    cases tells' with
    | some decoded' =>
      rw [decoded] at decoded'
      cases decoded'
      rfl

theorem tells_none {decode : Setting → Decoded α} {value : Option α} :
    Tells decode none value ↔ value = none :=
  ⟨fun tells => by cases tells; rfl, fun absent => absent ▸ .none⟩

theorem tells_some {decode : Setting → Decoded α} {setting : Setting} {value : Option α} :
    Tells decode (some setting) value ↔ ∃ held, value = some held ∧ decode setting = .ok held := by
  constructor
  · rintro (_ | _)
    next held decoded => exact ⟨held, rfl, decoded⟩
  · rintro ⟨held, rfl, decoded⟩
    exact .some decoded

theorem tells_value {decode : Setting → Decoded α} {entry : Option Setting} {value : α} :
    Tells decode entry (some value) ↔
      ∃ setting, entry = some setting ∧ decode setting = .ok value := by
  constructor
  · rintro (_ | _)
    next setting decoded => exact ⟨setting, rfl, decoded⟩
  · rintro ⟨setting, rfl, decoded⟩
    exact .some decoded

theorem under_ok {key : String} {result : Decoded α} {value : α} :
    under key result = .ok value ↔ result = .ok value := by
  cases result <;> simp [under]

theorem field?_ok {entries : List (String × Setting)} {key : String}
    {decode : Setting → Decoded α} {value : Option α} :
    field? entries key decode = .ok value ↔ Tells decode (entries.lookup key) value := by
  unfold field?
  cases entries.lookup key with
  | none =>
    rw [tells_none]
    exact ⟨fun same => by cases same; rfl, fun absent => by rw [absent]⟩
  | some setting =>
    dsimp only
    rw [tells_some, under_ok]
    cases decode setting with
    | error unfit =>
      refine ⟨nofun, ?_⟩
      rintro ⟨_, _, decoded⟩
      cases decoded
    | ok held => exact ⟨fun same => by cases same; exact ⟨held, rfl, rfl⟩,
        fun ⟨_, present, decoded⟩ => by cases decoded; rw [present]; rfl⟩

def Plain (decode : Setting → Decoded α) : Prop :=
  ∀ entries value, decode (.table entries) ≠ .ok value

theorem tells_overlay {decode : Setting → Decoded α} (plain : Plain decode)
    {lower upper : Option Setting}
    {below value : Option α} (tells : Tells decode lower below) :
    Tells decode (overlay lower upper) value ↔
      ∃ above, Tells decode upper above ∧ value = above.or below := by
  cases tells with
  | none =>
    rw [none_overlay]
    constructor
    · exact fun tells => ⟨value, tells, (Option.or_none).symm⟩
    · rintro ⟨above, tells, rfl⟩
      rwa [Option.or_none]
  | @some setting held decoded =>
    have untabled : setting.isTable = false := by
      cases setting with
      | table entries => exact absurd decoded (plain entries held)
      | _ => rfl
    cases upper with
    | none =>
      rw [overlay_none]
      constructor
      · intro tells
        exact ⟨none, .none, (tells.unique (.some decoded))⟩
      · rintro ⟨above, tells, rfl⟩
        rw [tells_none.mp tells, Option.none_or]
        exact .some decoded
    | some upper =>
      have replaced : overlay (some setting) (some upper) = some upper := by
        rw [overlay, merge_onto untabled]
      rw [replaced]
      constructor
      · intro tells
        obtain ⟨above, rfl, decoded'⟩ := tells_some.mp tells
        exact ⟨some above, .some decoded', rfl⟩
      · rintro ⟨above, tells, rfl⟩
        obtain ⟨above, rfl, decoded'⟩ := tells_some.mp tells
        exact .some decoded'

end

theorem plain_toText : Plain toText := nofun

theorem plain_toNat : Plain toNat := nofun

theorem plain_toBool : Plain toBool := nofun

end Setting

open Setting (Tells tells_none tells_overlay tells_some overlay mergeEntries lookup_mergeEntries
  field?_ok plain_toText plain_toNat plain_toBool under_ok)

/-- The fields of a profile that a layer tells. -/
structure ProfileFields where
  apiBase : Option String
  timeout : Option Nat
  caCert : Option String
  insecure : Option Bool

def Profile.fields (profile : Profile) : ProfileFields :=
  ⟨some profile.apiBase, profile.timeout, profile.caCert, profile.insecure⟩

/-- Fields of an upper layer before those of a lower one. -/
def ProfileFields.or (above below : ProfileFields) : ProfileFields where
  apiBase := above.apiBase.or below.apiBase
  timeout := above.timeout.or below.timeout
  caCert := above.caCert.or below.caCert
  insecure := above.insecure.or below.insecure

structure ProfileFields.Of (fields : ProfileFields) (entries : List (String × Setting)) : Prop where
  apiBase : Tells Setting.toText (entries.lookup "api_base") fields.apiBase
  caCert : Tells Setting.toText (entries.lookup "ca_cert") fields.caCert
  insecure : Tells Setting.toBool (entries.lookup "insecure") fields.insecure
  timeout : Tells Setting.toNat (entries.lookup "timeout") fields.timeout

theorem toProfile_table {entries : List (String × Setting)} {profile : Profile} :
    (Setting.table entries).toProfile = .ok profile ↔ profile.fields.Of entries := by
  rw [Setting.toProfile]
  simp only [bind_ok, field?_ok]
  constructor
  · rintro ⟨apiBase, base, caCert, ca, insecure, trust, timeout, time, same⟩
    cases apiBase with
    | none => cases same
    | some apiBase =>
      cases same
      exact ⟨base, ca, trust, time⟩
  · rintro ⟨base, ca, trust, time⟩
    exact ⟨_, base, _, ca, _, trust, _, time, rfl⟩

/-- Fields without a base make up no profile, whatever else they say. -/
theorem toProfile_missing {entries : List (String × Setting)} {fields : ProfileFields}
    (tells : fields.Of entries) (missing : fields.apiBase = none) :
    (Setting.table entries).toProfile = .error ⟨.missingField, []⟩ := by
  rw [Setting.toProfile, field?_ok.mpr tells.apiBase, field?_ok.mpr tells.caCert,
    field?_ok.mpr tells.insecure, field?_ok.mpr tells.timeout, missing]
  rfl

theorem ProfileFields.of_mergeEntries {lower upper : List (String × Setting)}
    (ordered : Ordered upper) {below fields : ProfileFields} (tells : below.Of lower) :
    fields.Of (mergeEntries lower upper) ↔
      ∃ above : ProfileFields, above.Of upper ∧ fields = above.or below := by
  have overlay (key : String) := lookup_mergeEntries lower ordered key
  constructor
  · rintro ⟨base, ca, trust, time⟩
    rw [overlay] at base ca trust time
    obtain ⟨apiBase, base, base'⟩ := (tells_overlay plain_toText tells.apiBase).mp base
    obtain ⟨caCert, ca, ca'⟩ := (tells_overlay plain_toText tells.caCert).mp ca
    obtain ⟨insecure, trust, trust'⟩ := (tells_overlay plain_toBool tells.insecure).mp trust
    obtain ⟨timeout, time, time'⟩ := (tells_overlay plain_toNat tells.timeout).mp time
    refine ⟨⟨apiBase, timeout, caCert, insecure⟩, ⟨base, ca, trust, time⟩, ?_⟩
    rw [ProfileFields.or, ← base', ← ca', ← trust', ← time']
  · rintro ⟨above, ⟨base, ca, trust, time⟩, rfl⟩
    refine ⟨?_, ?_, ?_, ?_⟩
    all_goals rw [overlay]
    · exact (tells_overlay plain_toText tells.apiBase).mpr ⟨_, base, rfl⟩
    · exact (tells_overlay plain_toText tells.caCert).mpr ⟨_, ca, rfl⟩
    · exact (tells_overlay plain_toBool tells.insecure).mpr ⟨_, trust, rfl⟩
    · exact (tells_overlay plain_toNat tells.timeout).mpr ⟨_, time, rfl⟩

def Profile.entries (profile : Profile) : List (String × Setting) :=
  presentEntries [
    ("api_base", some (.text profile.apiBase)), ("timeout", profile.timeout.map fun n => .whole n),
    ("ca_cert", profile.caCert.map .text), ("insecure", profile.insecure.map .truth)]

theorem Profile.toSetting_entries (profile : Profile) :
    profile.toSetting = .table profile.entries := rfl

theorem Profile.fields_of_entries (profile : Profile) : profile.fields.Of profile.entries := by
  obtain ⟨apiBase, timeout, caCert, insecure⟩ := profile
  have number (value : Nat) : Setting.toNat (.whole value) = .ok value := by
    simp [Setting.toNat]
  constructor <;> cases timeout <;> cases caCert <;> cases insecure <;>
    simp [Profile.entries, presentEntries, sortEntries, lookup_insertEntry, Profile.fields,
      Setting.toText, Setting.toBool, number, Option.rel_some_some]

private theorem Profile.toProfile_toSetting (profile : Profile) :
    profile.toSetting.toProfile = .ok profile :=
  toProfile_table.mpr profile.fields_of_entries

/-- The fields of the defaults that a layer tells. -/
structure DefaultsFields where
  timeout : Option Nat
  insecure : Option Bool

def Defaults.fields (defaults : Defaults) : DefaultsFields :=
  ⟨some defaults.timeout, some defaults.insecure⟩

namespace DefaultsFields

def or (above below : DefaultsFields) : DefaultsFields :=
  ⟨above.timeout.or below.timeout, above.insecure.or below.insecure⟩

def complete (fields : DefaultsFields) : Defaults :=
  ⟨fields.timeout.getD Defaults.standard.timeout, fields.insecure.getD Defaults.standard.insecure⟩

structure Of (fields : DefaultsFields) (entries : List (String × Setting)) : Prop where
  insecure : Tells Setting.toBool (entries.lookup "insecure") fields.insecure
  timeout : Tells Setting.toNat (entries.lookup "timeout") fields.timeout

end DefaultsFields

theorem toDefaults_table {entries : List (String × Setting)} {defaults : Defaults} :
    (Setting.table entries).toDefaults = .ok defaults ↔
      ∃ fields : DefaultsFields, fields.Of entries ∧ defaults = fields.complete := by
  rw [Setting.toDefaults]
  simp only [bind_ok, field?_ok]
  constructor
  · rintro ⟨insecure, trust, timeout, time, ⟨⟩⟩
    exact ⟨⟨timeout, insecure⟩, ⟨trust, time⟩, rfl⟩
  · rintro ⟨fields, ⟨trust, time⟩, rfl⟩
    exact ⟨_, trust, _, time, rfl⟩

def Defaults.entries (defaults : Defaults) : List (String × Setting) :=
  presentEntries [
    ("timeout", some (.whole defaults.timeout)), ("insecure", some (.truth defaults.insecure))]

theorem Defaults.toSetting_entries (defaults : Defaults) :
    defaults.toSetting = .table defaults.entries := rfl

theorem Defaults.fields_of_entries (defaults : Defaults) : defaults.fields.Of defaults.entries := by
  have number : Setting.toNat (.whole defaults.timeout) = .ok defaults.timeout := by
    simp [Setting.toNat]
  constructor <;>
    simp [Defaults.entries, presentEntries, sortEntries, lookup_insertEntry, Defaults.fields,
      Setting.toBool, number, Option.rel_some_some]

private theorem Defaults.toDefaults_toSetting (defaults : Defaults) :
    defaults.toSetting.toDefaults = .ok defaults :=
  toDefaults_table.mpr ⟨defaults.fields, defaults.fields_of_entries, rfl⟩

theorem DefaultsFields.of_mergeEntries {lower upper : List (String × Setting)}
    (ordered : Ordered upper) {below fields : DefaultsFields} (tells : below.Of lower) :
    fields.Of (mergeEntries lower upper) ↔
      ∃ above : DefaultsFields, above.Of upper ∧ fields = above.or below := by
  have overlay (key : String) := lookup_mergeEntries lower ordered key
  constructor
  · rintro ⟨trust, time⟩
    rw [overlay] at trust time
    obtain ⟨insecure, trust, trust'⟩ := (tells_overlay plain_toBool tells.insecure).mp trust
    obtain ⟨timeout, time, time'⟩ := (tells_overlay plain_toNat tells.timeout).mp time
    refine ⟨⟨timeout, insecure⟩, ⟨trust, time⟩, ?_⟩
    rw [DefaultsFields.or, ← trust', ← time']
  · rintro ⟨above, ⟨trust, time⟩, rfl⟩
    refine ⟨?_, ?_⟩
    all_goals rw [overlay]
    · exact (tells_overlay plain_toBool tells.insecure).mpr ⟨_, trust, rfl⟩
    · exact (tells_overlay plain_toNat tells.timeout).mpr ⟨_, time, rfl⟩

private theorem lookup_forall₂ {α β : Type} {relates : α → β → Prop} {entries : List (String × α)}
    {results : List (String × β)}
    (each : List.Forall₂ (fun entry result => entry.1 = result.1 ∧ relates entry.2 result.2)
      entries results) (name : String) :
    Option.Rel relates (entries.lookup name) (results.lookup name) := by
  induction each with
  | nil => exact .none
  | @cons entry result entries results first _ ih =>
    obtain ⟨key, value⟩ := entry
    obtain ⟨key', value'⟩ := result
    obtain ⟨same, related⟩ := first
    dsimp only at same related
    subst same
    rw [lookup_entry, lookup_entry]
    split
    · exact .some related
    · exact ih

private theorem names_forall₂ {α β : Type} {relates : String × α → String × β → Prop}
    (named : ∀ {entry result}, relates entry result → entry.1 = result.1)
    {entries : List (String × α)} {results : List (String × β)}
    (each : List.Forall₂ relates entries results) : entries.map (·.1) = results.map (·.1) := by
  induction each with
  | nil => rfl
  | cons first _ ih => rw [List.map_cons, List.map_cons, named first, ih]

private theorem ordered_names {α β : Type} {entries : List (String × α)}
    {results : List (String × β)}
    (same : entries.map (·.1) = results.map (·.1)) (ordered : Ordered entries) :
    Ordered results := by
  have names : (entries.map (·.1)).Pairwise (· < ·) := List.pairwise_map.mpr ordered
  rw [same] at names
  exact List.pairwise_map.mp names

theorem toProfiles_entries {entries : List (String × Setting)} {profiles : NameMap Profile} :
    (Setting.table entries).toProfiles = .ok profiles ↔
      ∃ results, List.Forall₂ (fun entry result =>
        entry.1 = result.1 ∧ entry.2.toProfile = .ok result.2) entries results ∧
        profiles = .ofList results := by
  have decodes (entry : String × Setting) (result : String × Profile) :
      (Setting.under entry.1 do return (entry.1, ← entry.2.toProfile)) = .ok result ↔
        entry.1 = result.1 ∧ entry.2.toProfile = .ok result.2 := by
    rw [under_ok, bind_ok]
    constructor
    · rintro ⟨profile, decoded, ⟨⟩⟩
      exact ⟨rfl, decoded⟩
    · rintro ⟨same, decoded⟩
      exact ⟨result.2, decoded, by rw [same]; rfl⟩
  rw [Setting.toProfiles, bind_ok]
  simp only [mapM_ok, decodes]
  constructor
  · rintro ⟨results, each, ⟨⟩⟩
    exact ⟨results, each, rfl⟩
  · rintro ⟨results, each, rfl⟩
    exact ⟨results, each, rfl⟩

private theorem tells_of_forall₂ {entries : List (String × Setting)} (ordered : Ordered entries)
    {results : List (String × Profile)} (each : List.Forall₂ (fun entry result =>
      entry.1 = result.1 ∧ entry.2.toProfile = .ok result.2) entries results) (name : String) :
    Tells Setting.toProfile (entries.lookup name) ((NameMap.ofList results).get? name) := by
  have sorted := sortEntries_ordered (ordered_names (names_forall₂ And.left each) ordered)
  rw [NameMap.get?, NameMap.ofList]
  simp only [sorted]
  exact lookup_forall₂ each name

theorem exists_toProfiles {entries : List (String × Setting)} (ordered : Ordered entries)
    (each : ∀ name, ∃ profile, Tells Setting.toProfile (entries.lookup name) profile) :
    ∃ profiles, (Setting.table entries).toProfiles = .ok profiles := by
  have decoded : ∀ entry ∈ entries, ∃ result : String × Profile,
      entry.1 = result.1 ∧ entry.2.toProfile = .ok result.2 := by
    intro entry inside
    obtain ⟨profile, tells⟩ := each entry.1
    rw [lookup_of_mem ordered inside] at tells
    obtain ⟨profile, _, decoded⟩ := tells_some.mp tells
    exact ⟨(entry.1, profile), rfl, decoded⟩
  obtain ⟨results, both⟩ : ∃ results : List (String × Profile), List.Forall₂ (fun entry result =>
      entry.1 = result.1 ∧ entry.2.toProfile = .ok result.2) entries results := by
    clear ordered each
    induction entries with
    | nil => exact ⟨[], .nil⟩
    | cons entry entries ih =>
      obtain ⟨⟨result, first⟩, others⟩ := List.forall_mem_cons.mp decoded
      obtain ⟨results, others⟩ := ih others
      exact ⟨result :: results, .cons first others⟩
  exact ⟨_, toProfiles_entries.mpr ⟨results, both, rfl⟩⟩

theorem toProfiles_table {entries : List (String × Setting)} (ordered : Ordered entries)
    {profiles : NameMap Profile} :
    (Setting.table entries).toProfiles = .ok profiles ↔
      ∀ name, Tells Setting.toProfile (entries.lookup name) (profiles.get? name) := by
  constructor
  · intro decoded
    obtain ⟨results, each, rfl⟩ := toProfiles_entries.mp decoded
    exact tells_of_forall₂ ordered each
  · intro tells
    obtain ⟨found, decoded⟩ := exists_toProfiles ordered fun name => ⟨_, tells name⟩
    obtain ⟨results, each, rfl⟩ := toProfiles_entries.mp decoded
    have same : profiles = .ofList results := NameMap.ext_get? fun name =>
      (tells name).unique (tells_of_forall₂ ordered each name)
    rw [same]
    exact decoded

private theorem toProfiles_isTable {setting : Setting} {profiles : NameMap Profile}
    (decoded : setting.toProfiles = .ok profiles) : ∃ entries, setting = .table entries := by
  cases setting with
  | table entries => exact ⟨entries, rfl⟩
  | _ => cases decoded

theorem toSettings_table {entries : List (String × Setting)} {settings : Settings} :
    (Setting.table entries).toSettings = .ok settings ↔
      Tells Setting.toText (entries.lookup "default_profile") settings.defaultProfile ∧
      (∃ defaults, Tells Setting.toDefaults (entries.lookup "defaults") defaults ∧
        settings.defaults = defaults.getD .standard) ∧
      ∃ profiles, Tells Setting.toProfiles (entries.lookup "profiles") profiles ∧
        settings.profiles = profiles.getD .empty := by
  rw [Setting.toSettings]
  simp only [bind_ok, field?_ok]
  constructor
  · rintro ⟨default, named, defaults, said, profiles, listed, ⟨⟩⟩
    exact ⟨named, ⟨defaults, said, rfl⟩, profiles, listed, rfl⟩
  · rintro ⟨named, ⟨defaults, said, same⟩, profiles, listed, same'⟩
    refine ⟨_, named, _, said, _, listed, ?_⟩
    rw [← same, ← same']
    rfl

namespace Setting

def at? : List String → Setting → Option Setting
  | [], setting => some setting
  | key :: path, .table entries => (entries.lookup key).bind (at? path)
  | _ :: _, _ => none

@[simp] theorem at?_key (key : String) (entries : List (String × Setting)) :
    (table entries).at? [key] = entries.lookup key := by
  cases found : entries.lookup key <;> simp [at?, found]

theorem at?_name (key name : String) (entries : List (String × Setting)) :
    (table entries).at? [key, name] = (entries.lookup key).bind (at? [name]) := rfl

/-- An entry that is missing or a table. -/
def Nested (entry : Option Setting) : Prop :=
  ∀ setting ∈ entry, ∃ entries, setting = .table entries

theorem nested_none : Nested none := nofun

theorem nested_overlay {lower upper : Option Setting} (nested : Nested lower)
    (nested' : Nested upper) :
    Nested (overlay lower upper) := by
  cases lower with
  | none => rwa [none_overlay]
  | some lower =>
    cases upper with
    | none => rwa [overlay_none]
    | some upper =>
      obtain ⟨below, rfl⟩ := nested lower rfl
      obtain ⟨above, rfl⟩ := nested' upper rfl
      rintro _ ⟨⟩
      exact ⟨_, merge_table below above⟩

theorem overlay_at? {fits : Int → Prop} {lower upper : Option Setting} (nested : Nested lower)
    (nested' : Nested upper) (formed : ∀ setting ∈ upper, WellFormed fits setting) (name : String) :
    (overlay lower upper).bind (at? [name]) =
      overlay (lower.bind (at? [name])) (upper.bind (at? [name])) := by
  cases lower with
  | none => simp
  | some lower =>
    cases upper with
    | none => simp
    | some upper =>
      obtain ⟨below, rfl⟩ := nested lower rfl
      obtain ⟨above, rfl⟩ := nested' upper rfl
      have tidy : Tidy fits above := formed _ rfl
      simp only [overlay, merge_table, Option.bind_some, at?_key,
        lookup_mergeEntries below tidy.ordered]

private theorem wellFormed_overlay {fits : Int → Prop} {lower upper : Option Setting}
    (formed : ∀ setting ∈ lower, WellFormed fits setting)
    (formed' : ∀ setting ∈ upper, WellFormed fits setting) :
    ∀ setting ∈ overlay lower upper, WellFormed fits setting := by
  cases lower with
  | none => rwa [none_overlay]
  | some lower =>
    cases upper with
    | none => rwa [overlay_none]
    | some upper =>
      rintro _ ⟨⟩
      exact wellFormed_merge (formed lower rfl) (formed' upper rfl)

theorem WellFormed.mono {fits fits' : Int → Prop} (weaker : ∀ value, fits value → fits' value)
    {setting : Setting} (formed : WellFormed fits setting) : WellFormed fits' setting := by
  induction formed with
  | text value => exact .text value
  | whole inside => exact .whole (weaker _ inside)
  | fraction => exact .fraction
  | truth value => exact .truth value
  | list _ each => exact .list each
  | table ordered _ each => exact .table ordered each

end Setting

open Setting (Nested WellFormed Tidy at?_key at?_name merge_table)

/-- What profiles are made of decides on which layer may be put on others. -/
theorem nested_of_toProfiles {lower upper : Option Setting} {profiles : Option (NameMap Profile)}
    (tells : Tells Setting.toProfiles (overlay lower upper) profiles) : Nested upper := by
  rintro setting held
  rw [Option.mem_def.mp held] at tells
  cases plain : setting.isTable with
  | true =>
    cases setting with
    | table entries => exact ⟨entries, rfl⟩
    | _ => cases plain
  | false =>
    have replaced : overlay lower (some setting) = some setting := by
      cases lower with
      | none => rfl
      | some lower => rw [overlay, Setting.merge_plain lower plain]
    rw [replaced] at tells
    obtain ⟨_, _, decoded⟩ := tells_some.mp tells
    exact toProfiles_isTable decoded

theorem tells_toProfiles {fits : Int → Prop} {entry : Option Setting} (nested : Nested entry)
    (formed : ∀ setting ∈ entry, WellFormed fits setting) {map : NameMap Profile} :
    (∃ profiles, Tells Setting.toProfiles entry profiles ∧ map = profiles.getD .empty) ↔
      ∀ name, Tells Setting.toProfile (entry.bind (Setting.at? [name])) (map.get? name) := by
  cases entry with
  | none =>
    simp only [tells_none, Option.bind_none]
    constructor
    · rintro ⟨_, rfl, rfl⟩ name
      rfl
    · exact fun absent => ⟨none, rfl, NameMap.ext_get? absent⟩
  | some setting =>
    obtain ⟨entries, rfl⟩ := nested setting rfl
    have tidy : Tidy fits entries := formed _ rfl
    simp only [Option.bind_some, at?_key]
    rw [← toProfiles_table tidy.ordered]
    constructor
    · rintro ⟨profiles, tells, rfl⟩
      obtain ⟨held, rfl, decoded⟩ := tells_some.mp tells
      exact decoded
    · exact fun decoded => ⟨some map, .some decoded, rfl⟩

namespace Settings

def profileEntries (settings : Settings) : List (String × Setting) :=
  settings.profiles.entries.map fun (name, profile) => (name, profile.toSetting)

def entries (settings : Settings) : List (String × Setting) :=
  presentEntries [
    ("default_profile", settings.defaultProfile.map .text),
    ("defaults", some settings.defaults.toSetting),
    ("profiles", some (.table settings.profileEntries))]

theorem toSetting_entries (settings : Settings) : settings.toSetting = .table settings.entries := rfl

theorem lookup_profileEntries (settings : Settings) (name : String) :
    settings.profileEntries.lookup name = (settings.profiles.get? name).map Profile.toSetting := by
  rw [profileEntries, NameMap.get?]
  induction settings.profiles.entries with
  | nil => rfl
  | cons head rest ih =>
    obtain ⟨key, profile⟩ := head
    rw [List.map_cons, lookup_entry, lookup_entry, ih]
    split <;> rfl

theorem lookup_entries (settings : Settings) :
    settings.entries.lookup "default_profile" = settings.defaultProfile.map .text ∧
    settings.entries.lookup "defaults" = some settings.defaults.toSetting ∧
    settings.entries.lookup "profiles" = some (.table settings.profileEntries) := by
  obtain ⟨defaultProfile, defaults, profiles⟩ := settings
  cases defaultProfile <;>
    simp [entries, presentEntries, sortEntries, lookup_insertEntry]

end Settings

open Environment (Anything)

theorem tidy_presentEntries {fields : List (String × Option Setting)}
    (each : ∀ field ∈ fields, ∀ value ∈ field.2, WellFormed Anything value) :
    Tidy Anything (presentEntries fields) := by
  refine .table (ordered_sortEntries _) ?_
  intro entry inside
  obtain ⟨field, member, present⟩ := List.mem_filterMap.mp (mem_sortEntries inside)
  obtain ⟨value, held, rfl⟩ := Option.map_eq_some_iff.mp present
  exact each field member value held

private theorem Profile.tidy_entries (profile : Profile) : Tidy Anything profile.entries := by
  apply tidy_presentEntries
  intro field inside value held
  simp only [List.mem_cons, List.not_mem_nil, or_false] at inside
  rcases inside with rfl | rfl | rfl | rfl
  · cases held
    exact .text _
  · obtain ⟨_, _, rfl⟩ := Option.map_eq_some_iff.mp held
    exact .whole trivial
  · obtain ⟨_, _, rfl⟩ := Option.map_eq_some_iff.mp held
    exact .text _
  · obtain ⟨_, _, rfl⟩ := Option.map_eq_some_iff.mp held
    exact .truth _

private theorem Defaults.tidy_entries (defaults : Defaults) : Tidy Anything defaults.entries := by
  apply tidy_presentEntries
  intro field inside value held
  simp only [List.mem_cons, List.not_mem_nil, or_false] at inside
  rcases inside with rfl | rfl
  · cases held
    exact .whole trivial
  · cases held
    exact .truth _

namespace Settings

theorem tidy_profileEntries (settings : Settings) : Tidy Anything settings.profileEntries := by
  refine .table (List.pairwise_map.mpr settings.profiles.ordered) ?_
  intro entry inside
  obtain ⟨⟨name, profile⟩, _, rfl⟩ := List.mem_map.mp inside
  exact profile.tidy_entries

theorem tidy_entries (settings : Settings) : Tidy Anything settings.entries := by
  apply tidy_presentEntries
  intro field inside value held
  simp only [List.mem_cons, List.not_mem_nil, or_false] at inside
  rcases inside with rfl | rfl | rfl
  · obtain ⟨_, _, rfl⟩ := Option.map_eq_some_iff.mp held
    exact .text _
  · cases held
    exact settings.defaults.tidy_entries
  · cases held
    exact settings.tidy_profileEntries

theorem decode_ok {layer : Setting} {settings : Settings} :
    decode layer = .ok settings ↔ layer.toSettings = .ok settings := by
  rw [decode]
  cases layer.toSettings <;> simp [Except.mapError]

theorem fileLayer_table {content : Option String} {layer : Setting}
    (read : fileLayer content = .ok layer) :
    ∃ entries, layer = .table entries ∧ Tidy Toml.InFile entries := by
  cases content with
  | none =>
    cases read
    exact ⟨[], rfl, .empty⟩
  | some text =>
    rw [fileLayer] at read
    split at read
    next parsed =>
      cases read
      exact Toml.parse?_table parsed
    next => cases read

theorem toSettings_layer {entries : List (String × Setting)} (tidy : Tidy Anything entries)
    (nested : Nested (entries.lookup "profiles")) {settings : Settings} :
    (Setting.table entries).toSettings = .ok settings ↔
      Tells Setting.toText (entries.lookup "default_profile") settings.defaultProfile ∧
      (∃ defaults, Tells Setting.toDefaults (entries.lookup "defaults") defaults ∧
        settings.defaults = defaults.getD .standard) ∧
      ∀ name, Tells Setting.toProfile ((Setting.table entries).at? ["profiles", name])
        (settings.profiles.get? name) := by
  rw [toSettings_table, tells_toProfiles nested fun setting found => tidy.lookup found]
  rfl

theorem toSettings_toSetting (settings : Settings) :
    settings.toSetting.toSettings = .ok settings := by
  obtain ⟨named, defaults, profiles⟩ := settings.lookup_entries
  have nested : Nested (settings.entries.lookup "profiles") := by
    rw [profiles]
    rintro _ ⟨⟩
    exact ⟨_, rfl⟩
  rw [toSetting_entries, toSettings_layer settings.tidy_entries nested, named, defaults]
  refine ⟨?_, ⟨some settings.defaults, .some settings.defaults.toDefaults_toSetting, rfl⟩, ?_⟩
  · cases settings.defaultProfile with
    | none => exact .none
    | some name => exact .some rfl
  · intro name
    rw [at?_name, profiles, Option.bind_some, at?_key, lookup_profileEntries]
    cases settings.profiles.get? name with
    | none => exact .none
    | some profile => exact .some profile.toProfile_toSetting

/-- An entry of the built-in settings below one of the file, and that one below one of the
variables. -/
def layered (lowest : Option Setting) (file overrides : Setting) (path : List String) :
    Option Setting :=
  overlay (overlay lowest (file.at? path)) (overrides.at? path)

def builtinProfile (name : String) : Option Setting :=
  (builtin.profiles.get? name).map Profile.toSetting

section
variable {file overrides : List (String × Setting)} (tidy : Tidy Anything file)
  (tidy' : Tidy Anything overrides) (nested : Nested (file.lookup "profiles"))
  (nested' : Nested (overrides.lookup "profiles"))

include tidy tidy' nested nested'

theorem layered_profiles :
    ∃ entries, layered (some (.table builtin.profileEntries)) (.table file) (.table overrides)
        ["profiles"] = some (.table entries) ∧ Tidy Anything entries ∧
      ∀ name, entries.lookup name =
        layered (builtinProfile name) (.table file) (.table overrides) ["profiles", name] := by
  have table : Nested (some (.table builtin.profileEntries)) := by
    rintro _ ⟨⟩
    exact ⟨_, rfl⟩
  have lower := Setting.nested_overlay table nested
  have formed : ∀ setting ∈ overlay (overlay (some (.table builtin.profileEntries))
      (file.lookup "profiles")) (overrides.lookup "profiles"), WellFormed Anything setting := by
    apply Setting.wellFormed_overlay _ fun _ found => tidy'.lookup found
    apply Setting.wellFormed_overlay _ fun _ found => tidy.lookup found
    rintro _ ⟨⟩
    exact builtin.tidy_profileEntries
  obtain ⟨setting, found⟩ : ∃ setting, overlay (overlay (some (.table builtin.profileEntries))
      (file.lookup "profiles")) (overrides.lookup "profiles") = some setting := by
    cases file.lookup "profiles" <;> cases overrides.lookup "profiles" <;> exact ⟨_, rfl⟩
  obtain ⟨entries, rfl⟩ := Setting.nested_overlay lower nested' setting found
  refine ⟨entries, ?_, formed _ found, ?_⟩
  · simpa only [layered, at?_key] using found
  · intro name
    have bound : (some (Setting.table entries)).bind (Setting.at? [name]) = entries.lookup name :=
      at?_key name entries
    rw [← bound, ← found, Setting.overlay_at? lower nested' (fun _ found => tidy'.lookup found),
      Setting.overlay_at? table nested (fun _ found => tidy.lookup found), Option.bind_some, at?_key,
      lookup_profileEntries]
    rfl

theorem toSettings_layers {settings : Settings} :
    ((builtin.toSetting.merge (.table file)).merge (.table overrides)).toSettings = .ok settings ↔
      Tells Setting.toText
        (layered (some (.text fallbackProfile)) (.table file) (.table overrides)
          ["default_profile"]) settings.defaultProfile ∧
      Tells Setting.toDefaults
        (layered (some Defaults.standard.toSetting) (.table file) (.table overrides) ["defaults"])
        (some settings.defaults) ∧
      ∀ name, Tells Setting.toProfile
        (layered (builtinProfile name) (.table file) (.table overrides) ["profiles", name])
        (settings.profiles.get? name) := by
  obtain ⟨named, defaults, profiles⟩ := builtin.lookup_entries
  obtain ⟨entries, found, tidyEntries, lookups⟩ := layered_profiles tidy tidy' nested nested'
  have entry (key : String) :
      (mergeEntries (mergeEntries builtin.entries file) overrides).lookup key =
      layered (builtin.entries.lookup key) (.table file) (.table overrides) [key] := by
    rw [lookup_mergeEntries _ tidy'.ordered, lookup_mergeEntries _ tidy.ordered, layered, at?_key,
      at?_key]
  rw [toSetting_entries, merge_table, merge_table, toSettings_table, entry, entry, entry, named,
    defaults, profiles, found]
  apply and_congr Iff.rfl
  apply and_congr
  · obtain ⟨setting, filled⟩ : ∃ setting, layered (some builtin.defaults.toSetting) (.table file)
        (.table overrides) ["defaults"] = some setting := by
      simp only [layered, at?_key]
      cases file.lookup "defaults" <;> cases overrides.lookup "defaults" <;> exact ⟨_, rfl⟩
    have standard : builtin.defaults = .standard := rfl
    rw [← standard, filled]
    constructor
    · rintro ⟨defaults, tells, same⟩
      obtain ⟨held, rfl, decoded⟩ := tells_some.mp tells
      rw [same]
      exact tells
    · exact fun tells => ⟨_, tells, rfl⟩
  · simp only [← lookups, ← toProfiles_table tidyEntries.ordered]
    constructor
    · rintro ⟨profiles, tells, same⟩
      obtain ⟨held, rfl, decoded⟩ := tells_some.mp tells
      rw [same]
      exact decoded
    · exact fun decoded => ⟨_, .some decoded, rfl⟩

theorem exists_settings {named : Option String} {defaults : Defaults}
    (tells : Tells Setting.toText
      (layered (some (.text fallbackProfile)) (.table file) (.table overrides)
        ["default_profile"]) named)
    (tells' : Tells Setting.toDefaults
      (layered (some Defaults.standard.toSetting) (.table file) (.table overrides) ["defaults"])
      (some defaults))
    (each : ∀ name, ∃ profile, Tells Setting.toProfile
      (layered (builtinProfile name) (.table file) (.table overrides) ["profiles", name]) profile) :
    ∃ profiles,
      ((builtin.toSetting.merge (.table file)).merge (.table overrides)).toSettings =
        .ok ⟨named, defaults, profiles⟩ := by
  obtain ⟨entries, _, tidyEntries, lookups⟩ := layered_profiles tidy tidy' nested nested'
  obtain ⟨profiles, decoded⟩ := exists_toProfiles tidyEntries.ordered fun name => by
    rw [lookups]
    exact each name
  refine ⟨profiles,
    (toSettings_layers tidy tidy' nested nested').mpr ⟨tells, tells', fun name => ?_⟩⟩
  rw [← lookups]
  exact (toProfiles_table tidyEntries.ordered).mp decoded name

end

end Settings

end InterfaceSync
