import InterfaceSync.Proofs.RecordLayers
import InterfaceSync.Proofs.SettingsFile
import InterfaceSync.Cli.Run

/-! A file of settings on its own and below the variables. What the program runs with has the
built-in settings underneath, and what is written back is read from the file alone. -/

namespace InterfaceSync

open Setting (Tells Nested WellFormed Tidy overlay tells_none tells_some at?_key at?_name merge_table
  mergeEntries)
open Environment (Anything)

theorem Setting.item?_ok {α : Type} {items : List Setting} {index : Nat}
    {decode : Setting → Setting.Decoded α} {value : Option α} :
    Setting.item? items index decode = .ok value ↔ Tells decode items[index]? value := by
  unfold Setting.item?
  cases items[index]? with
  | none =>
    rw [tells_none]
    exact ⟨fun same => by cases same; rfl, fun absent => by rw [absent]⟩
  | some setting =>
    dsimp only
    rw [tells_some, under_ok, bind_ok]
    constructor
    · rintro ⟨held, decoded, ⟨⟩⟩
      exact ⟨held, rfl, decoded⟩
    · rintro ⟨held, rfl, decoded⟩
      exact ⟨held, decoded, rfl⟩

private theorem Setting.item_ok {α : Type} {items : List Setting} {index : Nat}
    {decode : Setting → Setting.Decoded α} {value : α} :
    Setting.item items index decode = .ok value ↔ Tells decode items[index]? (some value) := by
  rw [← item?_ok, Setting.item, bind_ok]
  constructor
  · rintro ⟨found, decoded, same⟩
    cases found with
    | none => cases same
    | some held =>
      cases same
      exact decoded
  · exact fun decoded => ⟨some value, decoded, rfl⟩

namespace Settings

/-- The layers of settings that are loaded. -/
structure Loading (content : Option String) (environment : List (String × String))
    (file overrides : List (String × Setting)) : Prop where
  read : fileLayer content = .ok (.table file)
  tidy : Tidy Toml.InFile file
  said : Environment.layer environment = .table overrides
  tidy' : Tidy Anything overrides

theorem exists_loading {content : Option String} {layer : Setting}
    (read : fileLayer content = .ok layer) (environment : List (String × String)) :
    ∃ file overrides, Loading content environment file overrides := by
  obtain ⟨file, rfl, tidy⟩ := fileLayer_table read
  obtain ⟨overrides, said, tidy'⟩ := Environment.layer_table environment
  exact ⟨file, overrides, read, tidy, said, tidy'⟩

variable {content : Option String} {environment : List (String × String)}
  {file overrides : List (String × Setting)} {settings : Settings}

theorem Loading.anything (loading : Loading content environment file overrides) :
    Tidy Anything file :=
  loading.tidy.mono fun _ _ => trivial

theorem fileLayer_of_loadFile (loaded : loadFile content = .ok settings) :
    ∃ layer, fileLayer content = .ok layer := by
  cases read : fileLayer content with
  | ok layer => exact ⟨layer, rfl⟩
  | error error =>
    rw [loadFile, read] at loaded
    cases loaded

theorem fileLayer_of_load (loaded : load content environment = .ok settings) :
    ∃ layer, fileLayer content = .ok layer := by
  cases read : fileLayer content with
  | ok layer => exact ⟨layer, rfl⟩
  | error error =>
    rw [load, read] at loaded
    cases loaded

namespace Loading

variable (loading : Loading content environment file overrides)

include loading

theorem loadFile_eq : loadFile content = decode (.table file) := by
  rw [loadFile, loading.read]
  rfl

theorem load_eq :
    load content environment =
      decode ((builtin.toSetting.merge (.table file)).merge (.table overrides)) := by
  rw [load, loading.read, loading.said]
  rfl

theorem nested_of_loadFile (loaded : loadFile content = .ok settings) :
    Nested (file.lookup "profiles") := by
  rw [loading.loadFile_eq, decode_ok, toSettings_table] at loaded
  obtain ⟨_, _, _, tells, _⟩ := loaded
  rw [← Setting.none_overlay (file.lookup "profiles")] at tells
  exact nested_of_toProfiles tells

private theorem nested_of_load (loaded : load content environment = .ok settings) :
    Nested (overrides.lookup "profiles") := by
  rw [loading.load_eq, decode_ok, toSetting_entries, merge_table, merge_table,
    toSettings_table] at loaded
  obtain ⟨_, _, _, tells, _⟩ := loaded
  rw [Setting.lookup_mergeEntries _ loading.tidy'.ordered] at tells
  exact nested_of_toProfiles tells

theorem loadFile_iff (nested : Nested (file.lookup "profiles")) :
    loadFile content = .ok settings ↔
      Tells Setting.toText (file.lookup "default_profile") settings.defaultProfile ∧
      (∃ defaults, Tells Setting.toDefaults (file.lookup "defaults") defaults ∧
        settings.defaults = defaults.getD .standard) ∧
      ∀ name, Tells Setting.toProfile ((Setting.table file).at? ["profiles", name])
        (settings.profiles.get? name) := by
  rw [loading.loadFile_eq, decode_ok, toSettings_layer loading.anything nested]

theorem load_iff (nested : Nested (file.lookup "profiles"))
    (nested' : Nested (overrides.lookup "profiles")) :
    load content environment = .ok settings ↔
      Tells Setting.toText
        (layered (some (.text fallbackProfile)) (.table file) (.table overrides)
          ["default_profile"]) settings.defaultProfile ∧
      Tells Setting.toDefaults
        (layered (some Defaults.standard.toSetting) (.table file) (.table overrides) ["defaults"])
        (some settings.defaults) ∧
      ∀ name, Tells Setting.toProfile
        (layered (builtinProfile name) (.table file) (.table overrides) ["profiles", name])
        (settings.profiles.get? name) := by
  rw [loading.load_eq, decode_ok, toSettings_layers loading.anything loading.tidy' nested nested']

end Loading

theorem fileLayer_write {text : String} (written : Toml.write settings = .ok text) :
    fileLayer (some text) = .ok (.table settings.entries) := by
  rw [Toml.write] at written
  split at written
  next writable =>
    cases written
    rw [fileLayer, Toml.parse?_writeSettings writable, toSetting_entries]
  next => cases written

/-- Settings that are written are read as they were. -/
theorem loadFile_write {text : String} (written : Toml.write settings = .ok text) :
    loadFile (some text) = .ok settings := by
  rw [loadFile, fileLayer_write written, ← toSetting_entries]
  exact decode_ok.mpr settings.toSettings_toSetting

private theorem loading_write {text : String} (written : Toml.write settings = .ok text)
    (said : Environment.layer environment = .table overrides) (tidy' : Tidy Anything overrides) :
    Loading (some text) environment settings.entries overrides := by
  refine ⟨fileLayer_write written, ?_, said, tidy'⟩
  obtain ⟨entries, same, tidy⟩ := fileLayer_table (fileLayer_write written)
  cases same
  exact tidy

theorem nested_entries (settings : Settings) : Nested (settings.entries.lookup "profiles") := by
  rw [settings.lookup_entries.2.2]
  rintro _ ⟨⟩
  exact ⟨_, rfl⟩

private theorem at?_profiles (settings : Settings) (name : String) :
    (Setting.table settings.entries).at? ["profiles", name] =
      (settings.profiles.get? name).map Profile.toSetting := by
  rw [at?_name, settings.lookup_entries.2.2, Option.bind_some, at?_key, lookup_profileEntries]

section
variable (settings : Settings) (lowest : Option Setting) (overrides : List (String × Setting))

theorem layered_defaultProfile {name : String} (named : settings.defaultProfile = some name)
    (fallback : String) :
    layered (some (.text fallback)) (.table settings.entries) (.table overrides)
        ["default_profile"] =
      overlay (some (.text name)) ((Setting.table overrides).at? ["default_profile"]) := by
  rw [layered, at?_key, settings.lookup_entries.1, named]
  rfl

theorem layered_defaults :
    layered lowest (.table settings.entries) (.table overrides) ["defaults"] =
      overlay (overlay lowest (some settings.defaults.toSetting))
        ((Setting.table overrides).at? ["defaults"]) := by
  rw [layered, at?_key, settings.lookup_entries.2.1]

theorem layered_profile (name : String) :
    layered lowest (.table settings.entries) (.table overrides) ["profiles", name] =
      overlay (overlay lowest ((settings.profiles.get? name).map Profile.toSetting))
        ((Setting.table overrides).at? ["profiles", name]) := by
  rw [layered, at?_profiles]

end

def Sorted (entry : Option Setting) : Prop :=
  ∀ table, entry = some (.table table) → Ordered table

theorem wellFormed_at? {fits : Int → Prop} {path : List String} {setting found : Setting}
    (formed : WellFormed fits setting) (held : setting.at? path = some found) :
    WellFormed fits found := by
  induction path generalizing setting with
  | nil =>
    cases held
    exact formed
  | cons key path ih =>
    cases setting with
    | table entries =>
      obtain ⟨inner, entry, held⟩ := Option.bind_eq_some_iff.mp held
      exact ih (Tidy.lookup formed entry) held
    | _ => cases held

theorem sorted_at? {entries : List (String × Setting)} (tidy : Tidy Anything entries)
    (path : List String) : Sorted ((Setting.table entries).at? path) := by
  intro table held
  have formed : Tidy Anything table := wellFormed_at? tidy held
  exact formed.ordered

theorem known_builtinProfile (name : String) : profileRecord.Known (builtinProfile name) := by
  intro table held
  rcases builtinProfile_cases name with absent | ⟨_, base, present⟩
  · rw [absent] at held
    cases held
  · rw [present] at held
    cases held
    exact ⟨_, Profile.fields_of_entries _⟩

theorem known_standard : defaultsRecord.Known (some Defaults.standard.toSetting) := by
  rintro table ⟨⟩
  exact ⟨_, Defaults.fields_of_entries _⟩

section
variable {lower upper : Option Setting} (sorted : Sorted lower) (sorted' : Sorted upper)

include sorted sorted'

theorem tells_keptProfile {name : String} {own before : Option Profile}
    (read : Tells Setting.toProfile lower own) (together : Record.Together lower upper)
    (tells : Tells Setting.toProfile (overlay (overlay (builtinProfile name) lower) upper) before) :
    Tells Setting.toProfile
      (overlay (overlay (builtinProfile name) (own.map Profile.toSetting)) upper) before := by
  cases read with
  | none => exact tells
  | some decoded =>
    exact (Record.overlay_entries (settles_builtinProfile name) sorted' decoded
      (fun table same => sorted table (congrArg some same)) together).mpr tells

theorem exists_addedProfile {name : String} {own before : Option Profile}
    (read : Tells Setting.toProfile lower own)
    (tells : Tells Setting.toProfile (overlay (overlay (builtinProfile name) lower) upper) before)
    (profile : Profile) :
    ∃ result, Tells Setting.toProfile (overlay (some profile.toSetting) upper) (some result) ∧
      Tells Setting.toProfile
        (overlay (overlay (builtinProfile name) (some profile.toSetting)) upper) (some result) :=
  Record.exists_overlay_entries (settles_builtinProfile name) sorted'
    (Record.known_overlay (known_builtinProfile name) (Record.known_of_tells read) sorted) tells profile

theorem exists_keptProfile {name : String} {own before : Option Profile}
    (read : Tells Setting.toProfile lower own)
    (tells : Tells Setting.toProfile (overlay (overlay (builtinProfile name) lower) upper) before) :
    ∃ result, Tells Setting.toProfile
      (overlay (overlay (builtinProfile name) (own.map Profile.toSetting)) upper) result := by
  cases own with
  | none =>
    cases read
    exact ⟨before, tells⟩
  | some own =>
    obtain ⟨result, _, tells⟩ := exists_addedProfile sorted sorted' read tells own
    exact ⟨some result, tells⟩

private theorem tells_keptDefaults {own : Option Defaults} {before : Defaults}
    (read : Tells Setting.toDefaults lower own) (together : Record.Together lower upper)
    (tells : Tells Setting.toDefaults
      (overlay (overlay (some Defaults.standard.toSetting) lower) upper) (some before)) :
    Tells Setting.toDefaults
      (overlay (overlay (some Defaults.standard.toSetting) (some (own.getD .standard).toSetting)) upper)
      (some before) := by
  cases read with
  | none =>
    obtain ⟨table, written, of⟩ := settles_standard
      (defaultsRecord.ordered_entries .standard) (defaultsRecord.of_entries .standard) rfl
    have below := (Record.overlay_congr of (defaultsRecord.of_entries .standard) sorted').mpr tells
    rwa [← written] at below
  | some decoded =>
    exact (Record.overlay_entries settles_standard sorted' decoded
      (fun table same => sorted table (congrArg some same)) together).mpr tells

theorem exists_keptDefaults {own before : Option Defaults}
    (read : Tells Setting.toDefaults lower own)
    (tells : Tells Setting.toDefaults
      (overlay (overlay (some Defaults.standard.toSetting) lower) upper) before)
    (defaults : Defaults) :
    ∃ result, Tells Setting.toDefaults (overlay (some defaults.toSetting) upper) (some result) ∧
      Tells Setting.toDefaults
        (overlay (overlay (some Defaults.standard.toSetting) (some defaults.toSetting)) upper)
        (some result) := by
  exact Record.exists_overlay_entries settles_standard sorted'
    (Record.known_overlay known_standard (Record.known_of_tells read) sorted) tells defaults

end

theorem inFile_toNat {entry : Option Setting}
    (formed : ∀ setting ∈ entry, WellFormed Toml.InFile setting) {value : Option Nat}
    (tells : Tells Setting.toNat entry value) : ∀ number ∈ value, number ≤ Toml.maxWhole := by
  rintro number held
  cases tells with
  | none => cases held
  | @some setting told decoded =>
    cases held
    cases formed setting rfl with
    | @whole value inside =>
      rw [Setting.toNat] at decoded
      split at decoded
      next => cases decoded
      next =>
        cases decoded
        unfold Toml.InFile at inside
        omega
    | _ => cases decoded

private theorem inFile_toProfile {setting : Setting} (formed : WellFormed Toml.InFile setting)
    {profile : Profile} (decoded : setting.toProfile = .ok profile) :
    ∀ timeout ∈ profile.timeout, timeout ≤ Toml.maxWhole := by
  rcases toProfile_shaped decoded with ⟨table, rfl⟩ | ⟨items, rfl⟩
  · have tidy : Tidy Toml.InFile table := formed
    exact inFile_toNat (fun _ found => tidy.lookup found) (toProfile_table.mp decoded).timeout
  · rw [Setting.toProfile] at decoded
    obtain ⟨_, _, decoded⟩ := bind_ok.mp decoded
    obtain ⟨timeout, tells, decoded⟩ := bind_ok.mp decoded
    obtain ⟨_, _, decoded⟩ := bind_ok.mp decoded
    obtain ⟨_, _, ⟨⟩⟩ := bind_ok.mp decoded
    refine inFile_toNat ?_ (Setting.item_ok.mp tells)
    intro setting found
    cases formed with
    | list each => exact each setting (List.mem_of_getElem? found)

private theorem inFile_toDefaults {setting : Setting} (formed : WellFormed Toml.InFile setting)
    {defaults : Defaults} (decoded : setting.toDefaults = .ok defaults) :
    defaults.timeout ≤ Toml.maxWhole := by
  have filled {timeout : Option Nat} (inside : ∀ number ∈ timeout, number ≤ Toml.maxWhole) :
      timeout.getD Defaults.standard.timeout ≤ Toml.maxWhole := by
    cases timeout with
    | none => decide
    | some number => exact inside number rfl
  rcases toDefaults_shaped decoded with ⟨table, rfl⟩ | ⟨items, rfl⟩
  · have tidy : Tidy Toml.InFile table := formed
    obtain ⟨fields, of, rfl⟩ := toDefaults_table.mp decoded
    exact filled (inFile_toNat (fun _ found => tidy.lookup found) of.timeout)
  · rw [Setting.toDefaults] at decoded
    obtain ⟨timeout, tells, decoded⟩ := bind_ok.mp decoded
    obtain ⟨_, _, ⟨⟩⟩ := bind_ok.mp decoded
    refine filled (inFile_toNat ?_ (Setting.item?_ok.mp tells))
    intro setting found
    cases formed with
    | list each => exact each setting (List.mem_of_getElem? found)

theorem exists_write {content : Option String} {own : Settings}
    (loadedFile : loadFile content = .ok own) (name : String) (profile : Profile)
    (unlimited : profile.timeout = none) :
    ∃ text, Toml.write (Cli.withDefaultProfile own name profile) = .ok text := by
  obtain ⟨layer, read⟩ := fileLayer_of_loadFile loadedFile
  obtain ⟨file, _, loading⟩ := exists_loading read []
  obtain ⟨_, ⟨defaults, tells, same⟩, profiles⟩ :=
    (loading.loadFile_iff (loading.nested_of_loadFile loadedFile)).mp loadedFile
  have below : own.defaults.timeout ≤ Toml.maxWhole := by
    rw [same]
    cases defaults with
    | none => decide
    | some defaults =>
      obtain ⟨setting, found, decoded⟩ := Setting.tells_value.mp tells
      exact inFile_toDefaults (loading.tidy.lookup found) decoded
  have each : ∀ entry ∈ (own.profiles.insert name profile).entries,
      ∀ timeout ∈ entry.2.timeout, timeout ≤ Toml.maxWhole := by
    intro entry inside timeout limited
    have found := lookup_of_mem (own.profiles.insert name profile).ordered inside
    rw [← NameMap.get?, NameMap.get?_insert] at found
    split at found
    next =>
      cases found
      rw [unlimited] at limited
      cases limited
    next =>
      have tells := profiles entry.1
      rw [found] at tells
      obtain ⟨setting, there, decoded⟩ := Setting.tells_value.mp tells
      exact inFile_toProfile (wellFormed_at? loading.tidy there) decoded timeout limited
  refine ⟨_, if_pos ?_⟩
  rw [Toml.isWritable, Bool.and_eq_true, List.all_eq_true]
  refine ⟨decide_eq_true below, fun entry inside => ?_⟩
  rw [Option.all_eq_true]
  exact fun timeout limited => decide_eq_true (each entry inside timeout limited)

/-- The file gives the fields at a path as a list, and the variables give some of them as a table.
Then nothing that the file gives there is in force, until it is written back as a table. -/
def Spread (content : Option String) (environment : List (String × String)) (path : List String) :
    Prop :=
  ∃ layer items entries, fileLayer content = .ok layer ∧ layer.at? path = some (.list items) ∧
    (Environment.layer environment).at? path = some (.table entries)

/-- What is in force after a file has been rewritten with a new profile, compared with what was
before. -/
structure Adds (content : Option String) (environment : List (String × String)) (name : String)
    (own before after : Settings) : Prop where
  profile : ∀ other profile, own.profiles.get? other = some profile → Tells Setting.toProfile
    (overlay (some profile.toSetting) ((Environment.layer environment).at? ["profiles", other]))
    (after.profiles.get? other)
  defaults : Tells Setting.toDefaults
    (overlay (some own.defaults.toSetting) ((Environment.layer environment).at? ["defaults"]))
    (some after.defaults)
  defaultProfile : Tells Setting.toText
    (overlay (some (.text name)) ((Environment.layer environment).at? ["default_profile"]))
    after.defaultProfile
  keepsDefaults : ¬ Spread content environment ["defaults"] → after.defaults = before.defaults
  keepsProfiles : ∀ other, other ≠ name → ¬ Spread content environment ["profiles", other] →
    after.profiles.get? other = before.profiles.get? other

private theorem Loading.together (loading : Loading content environment file overrides)
    {path : List String} (apart : ¬ Spread content environment path) :
    Record.Together ((Setting.table file).at? path) ((Setting.table overrides).at? path) :=
  fun items table below above =>
    apart ⟨_, items, table, loading.read, below, by rw [loading.said, above]⟩

theorem exists_named {lower upper : Option Setting} {own before : Option String}
    (read : Tells Setting.toText lower own)
    (tells : Tells Setting.toText
      (overlay (overlay (some (.text fallbackProfile)) lower) upper) before)
    (name : String) :
    ∃ result, Tells Setting.toText (overlay (some (.text name)) upper) result := by
  have fallback : Tells Setting.toText (some (.text fallbackProfile)) (some fallbackProfile) :=
    .some rfl
  have below := (Setting.tells_overlay Setting.plain_toText fallback).mpr ⟨own, read, rfl⟩
  obtain ⟨above, told, _⟩ := (Setting.tells_overlay Setting.plain_toText below).mp tells
  have new : Tells Setting.toText (some (.text name)) (some name) := .some rfl
  exact ⟨_, (Setting.tells_overlay Setting.plain_toText new).mpr ⟨above, told, rfl⟩⟩

/-- What is read of a file on its own and below the variables, entry by entry. -/
structure Told (file overrides : List (String × Setting)) (own before : Settings) : Prop where
  nested : Nested (overrides.lookup "profiles")
  ownNamed : Tells Setting.toText ((Setting.table file).at? ["default_profile"]) own.defaultProfile
  ownDefaults : ∃ defaults, Tells Setting.toDefaults ((Setting.table file).at? ["defaults"]) defaults ∧
    own.defaults = defaults.getD .standard
  ownProfiles : ∀ name, Tells Setting.toProfile ((Setting.table file).at? ["profiles", name])
    (own.profiles.get? name)
  named : Tells Setting.toText
    (layered (some (.text fallbackProfile)) (.table file) (.table overrides) ["default_profile"])
    before.defaultProfile
  defaults : Tells Setting.toDefaults
    (layered (some Defaults.standard.toSetting) (.table file) (.table overrides) ["defaults"])
    (some before.defaults)
  profiles : ∀ name, Tells Setting.toProfile
    (layered (builtinProfile name) (.table file) (.table overrides) ["profiles", name])
    (before.profiles.get? name)

private theorem Loading.told (loading : Loading content environment file overrides)
    {own before : Settings}
    (loadedFile : loadFile content = .ok own) (loaded : load content environment = .ok before) :
    Told file overrides own before := by
  have nested := loading.nested_of_loadFile loadedFile
  have nested' := loading.nested_of_load loaded
  obtain ⟨ownNamed, ownDefaults, ownProfiles⟩ := (loading.loadFile_iff nested).mp loadedFile
  obtain ⟨named, defaults, profiles⟩ := (loading.load_iff nested nested').mp loaded
  rw [← at?_key] at ownNamed
  simp only [← at?_key "defaults"] at ownDefaults
  exact ⟨nested', ownNamed, ownDefaults, ownProfiles, named, defaults, profiles⟩

theorem get?_withDefaultProfile (own : Settings) (name : String) (profile : Profile) (other : String) :
    (Cli.withDefaultProfile own name profile).profiles.get? other =
      if other = name then some profile else own.profiles.get? other :=
  NameMap.get?_insert _ _ _ _

theorem Told.exists_load {own before : Settings} (told : Told file overrides own before)
    (loading : Loading content environment file overrides) {name text : String} {profile : Profile}
    (loading' : Loading (some text) environment (Cli.withDefaultProfile own name profile).entries
      overrides) :
    ∃ after, load (some text) environment = .ok after := by
  have sorted (path : List String) := sorted_at? loading.anything path
  have sorted' (path : List String) := sorted_at? loading.tidy' path
  obtain ⟨_, ownDefaults, _⟩ := told.ownDefaults
  obtain ⟨namedAfter, tells⟩ := exists_named told.ownNamed told.named name
  obtain ⟨defaultsAfter, _, tells'⟩ := exists_keptDefaults (sorted _) (sorted' _) ownDefaults
    told.defaults own.defaults
  have each (other : String) : ∃ result, Tells Setting.toProfile
      (layered (builtinProfile other) (.table (Cli.withDefaultProfile own name profile).entries)
        (.table overrides) ["profiles", other]) result := by
    rw [layered_profile, get?_withDefaultProfile]
    split
    next here =>
      rw [here]
      obtain ⟨result, _, all⟩ := exists_addedProfile (sorted _) (sorted' _) (told.ownProfiles name)
        (told.profiles name) profile
      exact ⟨_, all⟩
    next =>
      exact exists_keptProfile (sorted _) (sorted' _) (told.ownProfiles other) (told.profiles other)
  obtain ⟨profilesAfter, decoded⟩ := exists_settings loading'.anything loading'.tidy'
    (nested_entries _) told.nested
    (by rwa [layered_defaultProfile (Cli.withDefaultProfile own name profile) overrides rfl])
    (by rwa [layered_defaults]) each
  exact ⟨_, loading'.load_eq.trans (decode_ok.mpr decoded)⟩

/-- A file with a profile more is read as the old one with that profile, and in force nothing but
that profile and the default one is different. -/
theorem load_added {own before : Settings} (loadedFile : loadFile content = .ok own)
    (loaded : load content environment = .ok before) {name text : String} {profile : Profile}
    (written : Toml.write (Cli.withDefaultProfile own name profile) = .ok text) :
    loadFile (some text) = .ok (Cli.withDefaultProfile own name profile) ∧
      ∃ after, load (some text) environment = .ok after ∧
        Adds content environment name (Cli.withDefaultProfile own name profile) before after := by
  refine ⟨loadFile_write written, ?_⟩
  obtain ⟨layer, read⟩ := fileLayer_of_loadFile loadedFile
  obtain ⟨file, overrides, loading⟩ := exists_loading read environment
  have told := loading.told loadedFile loaded
  have loading' := loading_write written loading.said loading.tidy'
  have sorted (path : List String) := sorted_at? loading.anything path
  have sorted' (path : List String) := sorted_at? loading.tidy' path
  obtain ⟨defaults, ownDefaults, same⟩ := told.ownDefaults
  obtain ⟨after, after'⟩ := told.exists_load loading loading'
  refine ⟨after, after', ?_⟩
  obtain ⟨namedAfter, defaultsAfter, profilesAfter⟩ :=
    (loading'.load_iff (nested_entries _) told.nested).mp after'
  rw [layered_defaultProfile (Cli.withDefaultProfile own name profile) overrides rfl] at namedAfter
  rw [layered_defaults] at defaultsAfter
  constructor
  case profile =>
    intro other kept there
    obtain ⟨result, alone, all⟩ := exists_addedProfile (sorted _) (sorted' _)
      (told.ownProfiles other) (told.profiles other) kept
    have inForce := profilesAfter other
    rw [layered_profile, there] at inForce
    rw [loading.said]
    rwa [← inForce.unique all] at alone
  case defaults =>
    obtain ⟨result, alone, all⟩ := exists_keptDefaults (sorted _) (sorted' _) ownDefaults
      told.defaults own.defaults
    have inForce : some after.defaults = some result := defaultsAfter.unique all
    rwa [loading.said, inForce]
  case defaultProfile => rwa [loading.said]
  case keepsDefaults =>
    intro apart
    have kept := tells_keptDefaults (sorted _) (sorted' _) ownDefaults (loading.together apart)
      told.defaults
    rw [← same] at kept
    exact Option.some.inj (defaultsAfter.unique kept)
  case keepsProfiles =>
    intro other different apart
    have there := profilesAfter other
    rw [layered_profile, get?_withDefaultProfile, if_neg different] at there
    exact there.unique (tells_keptProfile (sorted _) (sorted' _) (told.ownProfiles other)
      (loading.together apart) (told.profiles other))

end Settings

end InterfaceSync
