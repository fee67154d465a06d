import InterfaceSync.Proofs.FileRewrite

/-! Files that the program runs with, read by themselves. A file may leave the base of a built-in
profile to the settings below it. Then it is good enough to run with, and is not good enough to be
written back; nothing else makes that difference. -/

namespace InterfaceSync

open Setting (Tells Nested field?_ok overlay tells_some tells_overlay at?_key at?_name merge_table)

private theorem toProfiles_cases (entries : List (String × Setting)) :
    (∃ profiles, (Setting.table entries).toProfiles = .ok profiles) ∨
      ∃ entry ∈ entries, ∃ unfit, entry.2.toProfile = .error unfit ∧
        (Setting.table entries).toProfiles =
          .error { unfit with path := entry.1 :: unfit.path } := by
  rw [Setting.toProfiles]
  rcases mapM_cases (fun entry : String × Setting =>
    Setting.under entry.1 do return (entry.1, ← entry.2.toProfile)) entries with
    ⟨results, each⟩ | ⟨entry, inside, error, failed, each⟩
  · exact .inl ⟨.ofList results, by rw [each]; rfl⟩
  · cases decoded : entry.2.toProfile with
    | ok profile =>
      rw [decoded] at failed
      cases failed
    | error unfit =>
      rw [decoded] at failed
      cases failed
      exact .inr ⟨entry, inside, unfit, decoded, by rw [each]; rfl⟩

namespace Settings

/-- The file gives a profile as a table that says no base. -/
def LacksBase (content : Option String) (name : String) : Prop :=
  ∃ layer entries, fileLayer content = .ok layer ∧
    layer.at? ["profiles", name] = some (.table entries) ∧ entries.lookup "api_base" = none

variable {content : Option String} {environment : List (String × String)}
  {file : List (String × Setting)} {own inForce : Settings}

theorem not_lacksBase (loaded : loadFile content = .ok own) (name : String) :
    ¬ LacksBase content name := by
  rintro ⟨layer, entries, read, there, baseless⟩
  obtain ⟨file, _, loading⟩ := exists_loading read []
  obtain ⟨_, _, profiles⟩ := (loading.loadFile_iff (loading.nested_of_loadFile loaded)).mp loaded
  have tells := profiles name
  have same : layer = .table file := Except.ok.inj (read.symm.trans loading.read)
  rw [← same, there] at tells
  obtain ⟨profile, _, decoded⟩ := tells_some.mp tells
  have base := (toProfile_table.mp decoded).apiBase
  rw [baseless] at base
  cases base

namespace Loading

theorem load_iff_alone (loading : Loading content environment file [])
    (loaded : load content environment = .ok inForce) :
    Nested (file.lookup "profiles") ∧
      Tells Setting.toText (overlay (some (.text fallbackProfile)) (file.lookup "default_profile"))
        inForce.defaultProfile ∧
      Tells Setting.toDefaults (overlay (some Defaults.standard.toSetting) (file.lookup "defaults"))
        (some inForce.defaults) ∧
      ∀ name, Tells Setting.toProfile
        (overlay (builtinProfile name) ((Setting.table file).at? ["profiles", name]))
        (inForce.profiles.get? name) := by
  have nested : Nested (file.lookup "profiles") := by
    have decoded := loaded
    rw [loading.load_eq, decode_ok, toSetting_entries, merge_table, merge_table,
      Setting.mergeEntries, toSettings_table] at decoded
    obtain ⟨_, _, _, tells, _⟩ := decoded
    rw [Setting.lookup_mergeEntries _ loading.tidy.ordered] at tells
    exact nested_of_toProfiles tells
  obtain ⟨named, defaults, profiles⟩ := (loading.load_iff nested Setting.nested_none).mp loaded
  have above (lowest : Option Setting) (key : String) (path : List String) :
      layered lowest (.table file) (.table []) (key :: path) =
        overlay lowest ((Setting.table file).at? (key :: path)) :=
    Setting.overlay_none _
  rw [above, at?_key] at named defaults
  exact ⟨nested, named, defaults, fun name => above _ _ _ ▸ profiles name⟩

end Loading

/-- What the file says of a profile is one, or it leaves the base to a built-in profile. -/
theorem profile_cases {lower : Setting} {name : String} {profile : Option Profile}
    (sorted : Sorted (some lower))
    (tells : Tells Setting.toProfile (overlay (builtinProfile name) (some lower)) profile) :
    (∃ own, lower.toProfile = .ok own) ∨ (name = "development" ∨ name = "production") ∧
      lower.toProfile = .error ⟨.missingField, []⟩ ∧
        ∃ entries, lower = .table entries ∧ entries.lookup "api_base" = none := by
  rcases builtinProfile_cases name with absent | ⟨builtin, _⟩
  · rw [absent, Setting.none_overlay] at tells
    obtain ⟨own, _, decoded⟩ := tells_some.mp tells
    exact .inl ⟨own, decoded⟩
  rcases Record.upper_cases profileRecord (known_builtinProfile name)
    (fun table same => sorted table (congrArg some same)) tells with
    whole | ⟨table, fields, rfl, of, incomplete⟩
  · exact .inl whole
  · have missing : fields.apiBase = none := Option.map_eq_none_iff.mp incomplete
    have base := ProfileFields.Of.apiBase of
    rw [missing] at base
    refine .inr ⟨builtin, toProfile_missing of missing, table, rfl, ?_⟩
    cases held : table.lookup "api_base" with
    | none => rfl
    | some setting =>
      rw [held] at base
      cases base

private theorem exists_ownDefaults {lower : Option Setting} {defaults : Option Defaults}
    (sorted : Sorted lower)
    (tells : Tells Setting.toDefaults (overlay (some Defaults.standard.toSetting) lower) defaults) :
    ∃ own, Tells Setting.toDefaults lower own := by
  cases lower with
  | none => exact ⟨none, .none⟩
  | some setting =>
    rcases Record.upper_cases defaultsRecord known_standard
      (fun table same => sorted table (congrArg some same)) tells with
      ⟨own, decoded⟩ | ⟨_, _, _, _, incomplete⟩
    · exact ⟨some own, .some decoded⟩
    · cases incomplete

/-- A file that the program runs with stands alone, unless it gives a table over a built-in profile
without the base. -/
theorem loadFile_cases (unrelated : ∀ entry ∈ environment, Environment.path? entry.1 = none)
    (loaded : load content environment = .ok inForce) :
    (∃ own, loadFile content = .ok own) ∨
      ∃ name, LacksBase content name ∧ (name = "development" ∨ name = "production") ∧
        loadFile content = .error (.unfit .missingField ["profiles", name]) := by
  obtain ⟨layer, read⟩ := fileLayer_of_load loaded
  obtain ⟨file, overrides, loading⟩ := exists_loading read environment
  have silent : overrides = [] := by
    have said := loading.said
    rw [Environment.layer_unrelated unrelated] at said
    cases said
    rfl
  subst silent
  obtain ⟨nested, named, defaults, profiles⟩ := loading.load_iff_alone loaded
  have sorted (path : List String) := sorted_at? loading.anything path
  obtain ⟨ownName, tellsName, _⟩ := (tells_overlay Setting.plain_toText (.some rfl)).mp named
  obtain ⟨ownDefaults, tellsDefaults⟩ :=
    exists_ownDefaults (at?_key "defaults" file ▸ sorted ["defaults"]) defaults
  rw [loading.loadFile_eq, decode, Setting.toSettings, field?_ok.mpr tellsName,
    field?_ok.mpr tellsDefaults]
  cases held : file.lookup "profiles" with
  | none =>
    have absent : Setting.field? file "profiles" Setting.toProfiles = .ok none :=
      field?_ok.mpr (held ▸ .none)
    rw [absent]
    exact .inl ⟨_, rfl⟩
  | some listed =>
    obtain ⟨entries, rfl⟩ := nested listed held
    have tidy : Setting.Tidy Environment.Anything entries := loading.anything.lookup held
    rcases toProfiles_cases entries with ⟨own, decoded⟩ | ⟨entry, inside, unfit, failed, all⟩
    · have found : Setting.field? file "profiles" Setting.toProfiles = .ok (some own) :=
        field?_ok.mpr (held ▸ .some decoded)
      rw [found]
      exact .inl ⟨_, rfl⟩
    · have there : (Setting.table file).at? ["profiles", entry.1] = some entry.2 := by
        rw [at?_name, held, Option.bind_some, at?_key, lookup_of_mem tidy.ordered inside]
      have tells := profiles entry.1
      rw [there] at tells
      rcases profile_cases (there ▸ sorted ["profiles", entry.1]) tells with
        ⟨own, decoded⟩ | ⟨builtin, missing, table, same, baseless⟩
      · rw [failed] at decoded
        cases decoded
      · rw [failed] at missing
        cases missing
        refine .inr ⟨entry.1, ⟨_, table, loading.read, same ▸ there, baseless⟩, builtin, ?_⟩
        rw [Setting.field?, held]
        dsimp only
        rw [all]
        rfl

end Settings

end InterfaceSync
