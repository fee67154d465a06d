import InterfaceSync.Proofs.FileRewrite

/-! Settings leaf by leaf. A leaf lies at a path of its own, and where nothing but tables leads to
the leaves, layers on each other hold at a leaf what the topmost one holds there. So what a variable
says about one leaf is no matter for any other. -/

namespace InterfaceSync

open Setting (Tells Nested WellFormed Tidy overlay overlay_at? nested_none nested_overlay at?_key
  at?_name merge_table)
open Environment (Anything)

inductive Setting.Kind
  | text
  | number
  | truth

def Setting.Kind.Fits : Setting.Kind → Setting → Prop
  | .text, setting => ∃ value, setting = .text value
  | .number, setting => ∃ value : Nat, setting = .whole value
  | .truth, setting => ∃ value, setting = .truth value

inductive Profile.Key
  | apiBase
  | timeout
  | caCert
  | insecure

namespace Profile

def Key.name : Key → String
  | .apiBase => "api_base"
  | .timeout => "timeout"
  | .caCert => "ca_cert"
  | .insecure => "insecure"

private theorem Key.name_injective : Function.Injective Key.name := by
  intro key key' same
  cases key <;> cases key' <;> simp [name] at same ⊢

def Key.kind : Key → Setting.Kind
  | .apiBase | .caCert => .text
  | .timeout => .number
  | .insecure => .truth

def value? (profile : Profile) : Key → Option Setting
  | .apiBase => some (.text profile.apiBase)
  | .timeout => profile.timeout.map fun (seconds : Nat) => .whole seconds
  | .caCert => profile.caCert.map .text
  | .insecure => profile.insecure.map .truth

end Profile

namespace Settings

/-- The single values that settings are made of. -/
inductive Leaf
  | defaultProfile
  | timeout
  | insecure
  | profile (name : String) (key : Profile.Key)

namespace Leaf

def path : Leaf → List String
  | .defaultProfile => ["default_profile"]
  | .timeout => ["defaults", "timeout"]
  | .insecure => ["defaults", "insecure"]
  | .profile name key => ["profiles", name, key.name]

def kind : Leaf → Setting.Kind
  | .defaultProfile => .text
  | .timeout => .number
  | .insecure => .truth
  | .profile _ key => key.kind

/-- No leaf lies on the way to another one. -/
theorem eq_of_path_prefix {leaf other : Leaf} (leads : leaf.path <+: other.path) :
    leaf = other := by
  cases leaf <;> cases other
  case profile.profile name key name' key' =>
    simp only [path, List.cons_prefix_cons, List.prefix_rfl, and_true, true_and] at leads
    obtain ⟨rfl, same⟩ := leads
    rw [Profile.Key.name_injective same]
  all_goals simp [path, List.cons_prefix_cons] at leads ⊢

theorem eq_of_path {leaf other : Leaf} (same : leaf.path = other.path) : leaf = other :=
  eq_of_path_prefix (same ▸ List.prefix_refl _)

end Leaf

def value? (settings : Settings) : Leaf → Option Setting
  | .defaultProfile => settings.defaultProfile.map .text
  | .timeout => some (.whole settings.defaults.timeout)
  | .insecure => some (.truth settings.defaults.insecure)
  | .profile name key => (settings.profiles.get? name).bind (·.value? key)

theorem value?_fits (settings : Settings) (leaf : Leaf) :
    ∀ setting ∈ settings.value? leaf, leaf.kind.Fits setting := by
  intro setting held
  cases leaf with
  | defaultProfile =>
    obtain ⟨name, _, rfl⟩ := Option.map_eq_some_iff.mp held
    exact ⟨name, rfl⟩
  | timeout =>
    cases held
    exact ⟨_, rfl⟩
  | insecure =>
    cases held
    exact ⟨_, rfl⟩
  | profile name key =>
    obtain ⟨profile, _, held⟩ := Option.bind_eq_some_iff.mp held
    cases key with
    | apiBase =>
      cases held
      exact ⟨_, rfl⟩
    | timeout | caCert | insecure =>
      obtain ⟨value, _, rfl⟩ := Option.map_eq_some_iff.mp held
      exact ⟨value, rfl⟩

end Settings

namespace Setting

theorem nested_table (entries : List (String × Setting)) : Nested (some (.table entries)) :=
  fun _ held => ⟨entries, (Option.mem_some.mp held).symm⟩

def Opens : List String → Option Setting → Prop
  | [], _ => True
  | key :: path, entry => Nested entry ∧ Opens path (entry.bind (at? [key]))

theorem opens_none (path : List String) : Opens path none := by
  induction path with
  | nil => trivial
  | cons key path ih => exact ⟨nested_none, ih⟩

private theorem Opens.front {front behind : List String} {entry : Option Setting}
    (opens : Opens (front ++ behind) entry) : Opens front entry := by
  induction front generalizing entry with
  | nil => trivial
  | cons key front ih => exact ⟨opens.1, ih opens.2⟩

theorem bind_at?_nil (entry : Option Setting) : entry.bind (at? []) = entry := by
  cases entry <;> rfl

theorem bind_at?_cons (key : String) (path : List String) (entry : Option Setting) :
    entry.bind (at? (key :: path)) = (entry.bind (at? [key])).bind (at? path) := by
  cases entry with
  | none => rfl
  | some setting =>
    cases setting with
    | table entries =>
      rw [Option.bind_some, Option.bind_some, at?_key]
      rfl
    | _ => rfl

private theorem bind_at?_append (front behind : List String) (entry : Option Setting) :
    entry.bind (at? (front ++ behind)) = (entry.bind (at? front)).bind (at? behind) := by
  induction front generalizing entry with
  | nil => rw [List.nil_append, bind_at?_nil]
  | cons key front ih => rw [List.cons_append, bind_at?_cons, bind_at?_cons key front, ih]

theorem at?_profile_key (setting : Setting) (name : String) (key : Profile.Key) :
    setting.at? (Settings.Leaf.profile name key).path =
      (setting.at? ["profiles", name]).bind (at? [key.name]) :=
  bind_at?_append ["profiles", name] [key.name] (some setting)

section
variable {fits : Int → Prop} {path : List String} {lower upper : Option Setting}

theorem wellFormed_bind_at? (formed : ∀ setting ∈ upper, WellFormed fits setting) :
    ∀ setting ∈ upper.bind (at? path), WellFormed fits setting := by
  intro setting found
  obtain ⟨above, held, found⟩ := Option.bind_eq_some_iff.mp found
  exact Settings.wellFormed_at? (formed above held) found

theorem overlay_path (opens : Opens path lower) (opens' : Opens path upper)
    (formed : ∀ setting ∈ upper, WellFormed fits setting) :
    (overlay lower upper).bind (at? path) =
      overlay (lower.bind (at? path)) (upper.bind (at? path)) := by
  induction path generalizing lower upper with
  | nil => simp only [bind_at?_nil]
  | cons key path ih =>
    rw [bind_at?_cons, bind_at?_cons _ _ lower, bind_at?_cons _ _ upper,
      overlay_at? opens.1 opens'.1 formed]
    exact ih opens.2 opens'.2 (wellFormed_bind_at? formed)

private theorem opens_overlay (opens : Opens path lower) (opens' : Opens path upper)
    (formed : ∀ setting ∈ upper, WellFormed fits setting) : Opens path (overlay lower upper) := by
  induction path generalizing lower upper with
  | nil => trivial
  | cons key path ih =>
    refine ⟨nested_overlay opens.1 opens'.1, ?_⟩
    rw [overlay_at? opens.1 opens'.1 formed]
    exact ih opens.2 opens'.2 (wellFormed_bind_at? formed)

end

theorem isSome_overlay (lower upper : Option Setting) :
    (overlay lower upper).isSome = (upper.isSome || lower.isSome) := by
  cases lower <;> cases upper <;> rfl

/-- A value without what a table holds. A table on a table is the one place where the upper layer
does not replace the lower one, and outlines do not tell such tables apart. -/
def outline : Setting → Setting
  | .table _ => .table []
  | setting => setting

theorem map_outline_overlay (lower upper : Option Setting) :
    (overlay lower upper).map outline = (upper.or lower).map outline := by
  cases upper with
  | none => rw [overlay_none, Option.none_or]
  | some upper =>
    cases lower with
    | none => rfl
    | some lower =>
      rw [overlay, Option.some_or, Option.map_some, Option.map_some]
      cases upper with
      | table upper =>
        cases lower with
        | table lower => rw [merge_table]; rfl
        | _ => rw [merge_onto rfl]
      | _ => rw [merge_plain lower rfl]

private theorem Kind.fits_outline {kind : Kind} {setting : Setting} :
    kind.Fits setting.outline ↔ kind.Fits setting := by
  cases setting with
  | table entries => cases kind <;> exact ⟨nofun, nofun⟩
  | _ => rfl

/-- What fits a leaf is no table, so its outline says all of it. -/
theorem eq_of_outline {kind : Kind} {entry other : Option Setting}
    (fits : ∀ setting ∈ entry, kind.Fits setting) (same : entry.map outline = other.map outline) :
    entry = other := by
  cases entry with
  | none => exact (Option.map_eq_none_iff.mp same.symm).symm
  | some setting =>
    obtain ⟨setting', rfl, outlined⟩ := Option.map_eq_some_iff.mp same.symm
    have fits := fits setting rfl
    have fits' : kind.Fits setting' := by
      rw [← Kind.fits_outline, outlined, Kind.fits_outline]
      exact fits
    have whole {setting : Setting} (fits : kind.Fits setting) : setting.outline = setting := by
      cases kind <;> obtain ⟨_, rfl⟩ := fits <;> rfl
    rw [whole fits, whole fits'] at outlined
    rw [outlined]

private theorem at?_nested (path : List String) (value : Setting) :
    (nested path value).at? path = some value := by
  induction path with
  | nil => rfl
  | cons key path ih =>
    have here : ([(key, nested path value)] : List (String × Setting)).lookup key =
        some (nested path value) := by
      rw [lookup_entry, if_pos rfl]
    rw [nested, List.foldr_cons, ← nested, at?, here]
    exact ih

theorem at?_nested_key (key other : String) (path : List String) (value : Setting) :
    (nested (key :: path) value).at? [other] =
      if other = key then some (nested path value) else none := by
  change (table [(key, nested path value)]).at? [other] = _
  rw [at?_key, lookup_entry, List.lookup_nil]

private theorem opens_nested {path other : List String} (leads : path <+: other → path = other)
    (value : Setting) : Opens other (some (nested path value)) := by
  induction path generalizing other with
  | nil =>
    rw [← leads List.nil_prefix]
    trivial
  | cons key path ih =>
    cases other with
    | nil => trivial
    | cons key' other =>
      refine ⟨nested_table _, ?_⟩
      rw [Option.bind_some, at?_nested_key]
      split
      next same =>
        subst same
        exact ih fun front => (List.cons.inj (leads (List.cons_prefix_cons.mpr ⟨rfl, front⟩))).2
      next => exact opens_none other

private theorem at?_nested_apart {path other : List String} (apart : ¬ path <+: other)
    (apart' : ¬ other <+: path) (value : Setting) : (nested path value).at? other = none := by
  induction path generalizing other with
  | nil => exact absurd List.nil_prefix apart
  | cons key path ih =>
    cases other with
    | nil => exact absurd List.nil_prefix apart'
    | cons key' other =>
      have step := bind_at?_cons key' other (some (nested (key :: path) value))
      rw [Option.bind_some, Option.bind_some, at?_nested_key] at step
      rw [step]
      split
      next same =>
        subst same
        rw [List.cons_prefix_cons] at apart apart'
        exact ih (fun front => apart ⟨rfl, front⟩) fun front => apart' ⟨rfl, front⟩
      next => rfl

/-- The layer, its defaults, its profiles and each of these are tables, where they are present. -/
def Sectioned (layer : Setting) : Prop :=
  ∀ leaf : Settings.Leaf, Opens leaf.path (some layer)

namespace Sectioned

variable {fits : Int → Prop} {lower upper : Setting}

theorem profile (sectioned : lower.Sectioned) (name : String) :
    Opens ["profiles", name] (some lower) := by
  have opens : Opens (["profiles", name] ++ ["api_base"]) (some lower) :=
    sectioned (.profile name .apiBase)
  exact opens.front

theorem defaults (sectioned : lower.Sectioned) : Nested (lower.at? ["defaults"]) :=
  (sectioned .timeout).2.1

theorem profiles (sectioned : lower.Sectioned) : Nested (lower.at? ["profiles"]) :=
  (sectioned.profile "").2.1

theorem nested_profile (sectioned : lower.Sectioned) (name : String) :
    Nested (lower.at? ["profiles", name]) := by
  have nested : Nested (((some lower).bind (at? ["profiles"])).bind (at? [name])) :=
    (sectioned (.profile name .apiBase)).2.2.1
  rwa [← bind_at?_cons] at nested

theorem merge (sectioned : lower.Sectioned) (sectioned' : upper.Sectioned)
    (formed : WellFormed fits upper) : (lower.merge upper).Sectioned :=
  fun leaf => opens_overlay (sectioned leaf) (sectioned' leaf) fun _ same => by
    cases same
    exact formed

theorem at?_merge (sectioned : lower.Sectioned) (sectioned' : upper.Sectioned)
    (formed : WellFormed fits upper) (leaf : Settings.Leaf) :
    (lower.merge upper).at? leaf.path = overlay (lower.at? leaf.path) (upper.at? leaf.path) :=
  overlay_path (sectioned leaf) (sectioned' leaf) fun _ same => by
    cases same
    exact formed

theorem at?_profile_merge (sectioned : lower.Sectioned) (sectioned' : upper.Sectioned)
    (formed : WellFormed fits upper) (name : String) :
    (lower.merge upper).at? ["profiles", name] =
      overlay (lower.at? ["profiles", name]) (upper.at? ["profiles", name]) :=
  overlay_path (sectioned.profile name) (sectioned'.profile name) fun _ same => by
    cases same
    exact formed

end Sectioned

end Setting

open Setting (Opens Sectioned mergeEntries nested_table outline map_outline_overlay)
open Settings (Leaf)

namespace Environment

def said? : List (String × String) → List String → Option Setting
  | [], _ => none
  | (name, text) :: rest, path =>
    (said? rest path).or (if path? name = some path then some (value text) else none)

theorem said?_append (before after : List (String × String)) (path : List String) :
    said? (before ++ after) path = (said? after path).or (said? before path) := by
  induction before with
  | nil => rw [List.nil_append, said?, Option.or_none]
  | cons entry before ih => rw [List.cons_append, said?, said?, ih, Option.or_assoc]

/-- Every variable that is for settings is for a single leaf. -/
def NamesLeaves (environment : List (String × String)) : Prop :=
  ∀ entry ∈ environment, ∀ path, path? entry.1 = some path → ∃ leaf : Leaf, leaf.path = path

def NamesProfile (environment : List (String × String)) (name : String) : Prop :=
  ∃ entry ∈ environment, ∃ key, path? entry.1 = some (Leaf.profile name key).path

theorem namesProfile_concat {environment : List (String × String)} {entry : String × String}
    {name : String} :
    NamesProfile (environment ++ [entry]) name ↔
      NamesProfile environment name ∨ ∃ key, path? entry.1 = some (Leaf.profile name key).path := by
  simp [NamesProfile, List.mem_append, or_and_right, exists_or]

/-- A layer that holds what some variables say, leaf by leaf. -/
structure Holds (environment : List (String × String)) (layer : Setting) : Prop where
  sectioned : layer.Sectioned
  leaf : ∀ leaf : Leaf,
    (layer.at? leaf.path).map outline = (said? environment leaf.path).map outline
  profile : ∀ name, (layer.at? ["profiles", name]).isSome = true ↔ NamesProfile environment name

private theorem holds_nil : Holds [] (.table []) := by
  have sectioned : Sectioned (.table []) := by
    intro leaf
    cases leaf <;> exact ⟨nested_table [], Setting.opens_none _⟩
  refine ⟨sectioned, fun leaf => ?_, fun name => ⟨nofun, nofun⟩⟩
  cases leaf <;> rfl

private theorem sectioned_nested (leaf : Leaf) (value : Setting) :
    (Setting.nested leaf.path value).Sectioned := fun _ =>
  Setting.opens_nested (fun leads => congrArg Leaf.path (Leaf.eq_of_path_prefix leads)) value

private theorem isSome_nested_profile (leaf : Leaf) (value : Setting) (name : String) :
    ((Setting.nested leaf.path value).at? ["profiles", name]).isSome = true ↔
      ∃ key, leaf = .profile name key := by
  cases leaf with
  | profile name' key =>
    have said : (Setting.nested (Leaf.profile name' key).path value).at? ["profiles", name] =
        if name = name' then some (.nested [key.name] value) else none := by
      rw [← Setting.at?_nested_key]
      rfl
    rw [said]
    split
    next same =>
      subst same
      exact ⟨fun _ => ⟨key, rfl⟩, fun _ => rfl⟩
    next different =>
      refine ⟨nofun, ?_⟩
      rintro ⟨_, ⟨⟩⟩
      exact absurd rfl different
  | _ => simp [Leaf.path, Setting.nested, Setting.at?, lookup_entry]

private theorem Holds.concat {environment : List (String × String)} {layer : Setting}
    (holds : Holds environment layer) {name text : String} {leaf : Leaf}
    (found : path? name = some leaf.path) :
    Holds (environment ++ [(name, text)]) (layer.merge (.nested leaf.path (value text))) := by
  have formed := wellFormed_nested leaf.path (wellFormed_value text)
  have sectioned := sectioned_nested leaf (value text)
  refine ⟨holds.sectioned.merge sectioned formed, fun other => ?_, fun profile => ?_⟩
  -- A value at one leaf hides what is below it and leaves every other leaf as it is.
  · rw [holds.sectioned.at?_merge sectioned formed, map_outline_overlay, said?_append, said?, said?,
      Option.none_or, Option.map_or, holds.leaf, ← Option.map_or]
    by_cases here : leaf = other
    · subst here
      rw [Setting.at?_nested, if_pos found]
    · have apart (first second : Leaf) (different : first ≠ second) :
          ¬ first.path <+: second.path := fun leads => different (Leaf.eq_of_path_prefix leads)
      rw [Setting.at?_nested_apart (apart _ _ here) (apart _ _ (Ne.symm here)), if_neg]
      rw [found]
      exact fun same => here (Leaf.eq_of_path (Option.some.inj same))
  · rw [holds.sectioned.at?_profile_merge sectioned formed, Setting.isSome_overlay, Bool.or_eq_true,
      isSome_nested_profile, holds.profile, namesProfile_concat, found, or_comm]
    refine or_congr_right ⟨?_, ?_⟩
    · rintro ⟨key, rfl⟩
      exact ⟨key, rfl⟩
    · rintro ⟨key, same⟩
      exact ⟨key, Leaf.eq_of_path (Option.some.inj same)⟩

private theorem Holds.unrelated {environment : List (String × String)} {layer : Setting}
    (holds : Holds environment layer) {name text : String} (unrelated : path? name = none) :
    Holds (environment ++ [(name, text)]) layer := by
  refine ⟨holds.sectioned, fun leaf => ?_, fun profile => ?_⟩
  · rw [holds.leaf, said?_append, said?, said?, unrelated, if_neg nofun]
    rfl
  · rw [holds.profile, namesProfile_concat, unrelated]
    exact ⟨.inl, fun named => named.resolve_right (by rintro ⟨_, ⟨⟩⟩)⟩

private theorem holds_layer {environment : List (String × String)}
    (leaves : NamesLeaves environment) : Holds environment (layer environment) := by
  induction environment using List.reverseRecOn with
  | nil => exact holds_nil
  | append_singleton before entry ih =>
    obtain ⟨name, text⟩ := entry
    have holds := ih fun other inside => leaves other (List.mem_append_left _ inside)
    have named := leaves (name, text) (List.mem_append_right _ (List.mem_singleton_self _))
    rw [layer, List.foldl_append, ← layer, List.foldl_cons, List.foldl_nil]
    cases found : path? name with
    | some path =>
      obtain ⟨leaf, rfl⟩ := named path found
      simp only [found]
      exact holds.concat found
    | none =>
      simp only [found]
      exact holds.unrelated found

end Environment

namespace Setting

section
variable {α : Type} {decode : Setting → Decoded α} {write : α → Setting}

def Exact (decode : Setting → Decoded α) (write : α → Setting) : Prop :=
  ∀ setting value, decode setting = .ok value ↔ setting = write value

theorem Exact.tells (decodes : Exact decode write) {entry : Option Setting} {value : Option α} :
    Tells decode entry value ↔ entry = value.map write := by
  constructor
  · rintro (_ | _)
    next setting held decoded => exact congrArg some ((decodes setting held).mp decoded)
    next => rfl
  · rintro rfl
    cases value with
    | none => exact .none
    | some held => exact .some ((decodes _ held).mpr rfl)

theorem Exact.exists_tells (decodes : Exact decode write) {entry : Option Setting}
    (fits : ∀ setting ∈ entry, ∃ value, setting = write value) :
    ∃ value, Tells decode entry value := by
  cases entry with
  | none => exact ⟨none, .none⟩
  | some setting =>
    obtain ⟨value, rfl⟩ := fits setting rfl
    exact ⟨some value, .some ((decodes _ value).mpr rfl)⟩

end

theorem exact_toText : Exact toText .text := by
  intro setting value
  cases setting <;> simp [toText]

theorem exact_toNat : Exact toNat fun (value : Nat) => .whole value := by
  intro setting value
  cases setting with
  | whole number =>
    rw [toNat, Setting.whole.injEq]
    split
    next negative =>
      constructor
      · intro failed
        cases failed
      · intro same
        omega
    next => rw [Except.ok.injEq]; omega
  | _ => simp [toNat]

theorem exact_toBool : Exact toBool .truth := by
  intro setting value
  cases setting <;> simp [toBool]

end Setting

open Setting (exact_toText exact_toNat exact_toBool)

theorem toProfile_keys {entries : List (String × Setting)} {profile : Profile} :
    (Setting.table entries).toProfile = .ok profile ↔
      ∀ key : Profile.Key, entries.lookup key.name = profile.value? key := by
  rw [toProfile_table]
  constructor
  · intro of key
    cases key with
    | apiBase => exact exact_toText.tells.mp of.apiBase
    | timeout => exact exact_toNat.tells.mp of.timeout
    | caCert => exact exact_toText.tells.mp of.caCert
    | insecure => exact exact_toBool.tells.mp of.insecure
  · intro same
    exact ⟨exact_toText.tells.mpr (same .apiBase), exact_toText.tells.mpr (same .caCert),
      exact_toBool.tells.mpr (same .insecure), exact_toNat.tells.mpr (same .timeout)⟩

private theorem exists_toProfile {entries : List (String × Setting)}
    (fits : ∀ key : Profile.Key, ∀ setting ∈ entries.lookup key.name, key.kind.Fits setting)
    (based : (entries.lookup Profile.Key.apiBase.name).isSome = true) :
    ∃ profile, (Setting.table entries).toProfile = .ok profile := by
  obtain ⟨apiBase, base⟩ := exact_toText.exists_tells (fits .apiBase)
  obtain ⟨timeout, time⟩ := exact_toNat.exists_tells (fits .timeout)
  obtain ⟨caCert, ca⟩ := exact_toText.exists_tells (fits .caCert)
  obtain ⟨insecure, trust⟩ := exact_toBool.exists_tells (fits .insecure)
  cases apiBase with
  | none =>
    rw [exact_toText.tells.mp base] at based
    cases based
  | some apiBase =>
    exact ⟨⟨apiBase, timeout, caCert, insecure⟩, toProfile_table.mpr ⟨base, ca, trust, time⟩⟩

theorem tells_profile_keys {entry : Option Setting} (nested : Nested entry)
    {profile : Option Profile} (tells : Tells Setting.toProfile entry profile) :
    profile.isSome = entry.isSome ∧
      ∀ key : Profile.Key, profile.bind (·.value? key) = entry.bind (Setting.at? [key.name]) := by
  cases tells with
  | none => exact ⟨rfl, fun _ => rfl⟩
  | @some setting profile decoded =>
    obtain ⟨entries, rfl⟩ := nested setting rfl
    refine ⟨rfl, fun key => ?_⟩
    rw [Option.bind_some, Option.bind_some, at?_key]
    exact (toProfile_keys.mp decoded key).symm

private theorem exists_tells_profile {entry : Option Setting} (nested : Nested entry)
    (fits : ∀ key : Profile.Key, ∀ setting ∈ entry.bind (Setting.at? [key.name]),
      key.kind.Fits setting)
    (based : entry.isSome = true →
      (entry.bind (Setting.at? [Profile.Key.apiBase.name])).isSome = true) :
    ∃ profile, Tells Setting.toProfile entry profile := by
  cases entry with
  | none => exact ⟨none, .none⟩
  | some setting =>
    obtain ⟨entries, rfl⟩ := nested setting rfl
    simp only [Option.bind_some, at?_key] at fits based
    obtain ⟨profile, decoded⟩ := exists_toProfile fits (based rfl)
    exact ⟨some profile, .some decoded⟩

theorem tells_defaults_keys {entry : Option Setting} (nested : Nested entry)
    {defaults : Option Defaults} (tells : Tells Setting.toDefaults entry defaults) :
    some (.whole (defaults.getD .standard).timeout) =
        (entry.bind (Setting.at? ["timeout"])).or (some (.whole Defaults.standard.timeout)) ∧
      some (.truth (defaults.getD .standard).insecure) =
        (entry.bind (Setting.at? ["insecure"])).or (some (.truth Defaults.standard.insecure)) := by
  cases tells with
  | none => exact ⟨rfl, rfl⟩
  | @some setting defaults decoded =>
    obtain ⟨entries, rfl⟩ := nested setting rfl
    obtain ⟨fields, of, rfl⟩ := toDefaults_table.mp decoded
    rw [Option.bind_some, Option.bind_some, at?_key, at?_key, exact_toNat.tells.mp of.timeout,
      exact_toBool.tells.mp of.insecure]
    obtain ⟨timeout, insecure⟩ := fields
    cases timeout <;> cases insecure <;> exact ⟨rfl, rfl⟩

private theorem exists_tells_defaults {entry : Option Setting} (nested : Nested entry)
    (fits : ∀ setting ∈ entry.bind (Setting.at? ["timeout"]), Setting.Kind.number.Fits setting)
    (fits' : ∀ setting ∈ entry.bind (Setting.at? ["insecure"]), Setting.Kind.truth.Fits setting) :
    ∃ defaults, Tells Setting.toDefaults entry defaults := by
  cases entry with
  | none => exact ⟨none, .none⟩
  | some setting =>
    obtain ⟨entries, rfl⟩ := nested setting rfl
    rw [Option.bind_some, at?_key] at fits fits'
    obtain ⟨timeout, time⟩ := exact_toNat.exists_tells fits
    obtain ⟨insecure, trust⟩ := exact_toBool.exists_tells fits'
    exact ⟨_, .some (toDefaults_table.mpr ⟨⟨timeout, insecure⟩, ⟨trust, time⟩, rfl⟩)⟩

namespace Settings

section
variable {layer : List (String × Setting)} (tidy : Tidy Anything layer)
  (sectioned : Sectioned (.table layer))

include tidy sectioned

/-- Settings of a layer hold what it holds at each leaf, and the standard value where it holds
none. -/
theorem toSettings_leaves {settings : Settings}
    (decoded : (Setting.table layer).toSettings = .ok settings) :
    (∀ name, settings.profiles.contains name =
        ((Setting.table layer).at? ["profiles", name]).isSome) ∧
      ∀ leaf, settings.value? leaf =
        ((Setting.table layer).at? leaf.path).or (empty.value? leaf) := by
  have profiles := sectioned.profiles
  have defaults := sectioned.defaults
  rw [at?_key] at profiles defaults
  obtain ⟨named, ⟨told, tells, same⟩, each⟩ := (toSettings_layer tidy profiles).mp decoded
  have keys (name : String) := tells_profile_keys (sectioned.nested_profile name) (each name)
  refine ⟨fun name => (keys name).1, fun leaf => ?_⟩
  cases leaf with
  | defaultProfile =>
    rw [Leaf.path, at?_key, exact_toText.tells.mp named]
    exact Option.or_none.symm
  | timeout =>
    rw [value?, same]
    exact (tells_defaults_keys defaults tells).1
  | insecure =>
    rw [value?, same]
    exact (tells_defaults_keys defaults tells).2
  | profile name key =>
    rw [value?, (keys name).2 key, Setting.at?_profile_key]
    exact Option.or_none.symm

private theorem exists_toSettings
    (fits : ∀ leaf : Leaf, ∀ setting ∈ (Setting.table layer).at? leaf.path, leaf.kind.Fits setting)
    (based : ∀ name, ((Setting.table layer).at? ["profiles", name]).isSome = true →
      ((Setting.table layer).at? (Leaf.profile name .apiBase).path).isSome = true) :
    ∃ settings, (Setting.table layer).toSettings = .ok settings := by
  have profiles := sectioned.profiles
  have defaults := sectioned.defaults
  rw [at?_key] at profiles defaults
  obtain ⟨named, tells⟩ : ∃ named, Tells Setting.toText (layer.lookup "default_profile") named := by
    rw [← at?_key]
    exact exact_toText.exists_tells (fits .defaultProfile)
  obtain ⟨told, tells'⟩ := exists_tells_defaults defaults (fits .timeout) (fits .insecure)
  have each (name : String) : ∃ profile,
      Tells Setting.toProfile ((Setting.table layer).at? ["profiles", name]) profile := by
    refine exists_tells_profile (sectioned.nested_profile name) (fun key => ?_) fun present => ?_
    · rw [← Setting.at?_profile_key]
      exact fits (.profile name key)
    · rw [← Setting.at?_profile_key]
      exact based name present
  obtain ⟨map, tells''⟩ :
      ∃ map, Tells Setting.toProfiles (layer.lookup "profiles") map := by
    cases found : layer.lookup "profiles" with
    | none => exact ⟨none, .none⟩
    | some setting =>
      obtain ⟨entries, rfl⟩ := profiles setting found
      have tidy' : Tidy Anything entries := tidy.lookup found
      obtain ⟨map, decoded⟩ := exists_toProfiles tidy'.ordered fun name => by
        have entry : (Setting.table layer).at? ["profiles", name] = entries.lookup name := by
          rw [at?_name, found, Option.bind_some, at?_key]
        rw [← entry]
        exact each name
      exact ⟨some map, .some decoded⟩
  exact ⟨⟨named, told.getD .standard, map.getD .empty⟩,
    toSettings_table.mpr ⟨tells, ⟨told, tells', rfl⟩, map, tells'', rfl⟩⟩

end

theorem sectioned_toSetting (settings : Settings) : settings.toSetting.Sectioned := by
  obtain ⟨_, defaults, profiles⟩ := settings.lookup_entries
  have said (key : String) :
      (some settings.toSetting).bind (Setting.at? [key]) = settings.entries.lookup key :=
    at?_key key settings.entries
  intro leaf
  cases leaf with
  | defaultProfile => exact ⟨nested_table _, trivial⟩
  | timeout | insecure =>
    refine ⟨nested_table _, ?_, trivial⟩
    rw [said, defaults]
    exact nested_table _
  | profile name key =>
    refine ⟨nested_table _, ?_, ?_, trivial⟩
    all_goals rw [said, profiles]
    · exact nested_table _
    · rw [Option.bind_some, at?_key, lookup_profileEntries]
      rintro _ held
      obtain ⟨profile, _, rfl⟩ := Option.map_eq_some_iff.mp held
      exact ⟨_, rfl⟩

theorem toSetting_leaves (settings : Settings) :
    (∀ name, settings.profiles.contains name =
        (settings.toSetting.at? ["profiles", name]).isSome) ∧
      ∀ leaf, settings.value? leaf = (settings.toSetting.at? leaf.path).or (empty.value? leaf) :=
  toSettings_leaves settings.tidy_entries settings.sectioned_toSetting settings.toSettings_toSetting

/-- What counts at a leaf: what the last variable for it says, else the file, else the built-in
settings, else the standard value. -/
def winning (file : Setting) (environment : List (String × String)) (leaf : Leaf) :
    Option Setting :=
  (Environment.said? environment leaf.path).or
    ((file.at? leaf.path).or ((builtin.value? leaf).or (empty.value? leaf)))

/-- The profile is built-in, or there is one of the name in the file, or a variable is for it. -/
def Named (file : Setting) (environment : List (String × String)) (name : String) : Prop :=
  builtin.profiles.contains name = true ∨ (file.at? ["profiles", name]).isSome = true ∨
    Environment.NamesProfile environment name

/-- What is loaded from a file and some variables, leaf by leaf. -/
structure ByLeaf (content : Option String) (file : Setting) (environment : List (String × String)) :
    Prop where
  /-- Loading succeeds when what counts at a leaf fits it, and no profile is left without a base. -/
  loads : (∃ settings, load content environment = .ok settings) ↔
    (∀ leaf, ∀ setting ∈ winning file environment leaf, leaf.kind.Fits setting) ∧
      ∀ name, Named file environment name →
        (winning file environment (.profile name .apiBase)).isSome = true
  profiles : ∀ settings, load content environment = .ok settings →
    ∀ name, settings.profiles.contains name = true ↔ Named file environment name
  values : ∀ settings, load content environment = .ok settings →
    ∀ leaf, settings.value? leaf = winning file environment leaf
  /-- One variable more or less matters to no leaf but its own. -/
  alone : ∀ before name text after leaf, environment = before ++ (name, text) :: after →
    Environment.path? name = some leaf.path →
    ∀ settings settings', load content environment = .ok settings →
      load content (before ++ after) = .ok settings' →
      ∀ other, other ≠ leaf → settings.value? other = settings'.value? other

/-- What the layers hold at a leaf, one on the other. -/
def stacked (file : Setting) (environment : List (String × String)) (leaf : Leaf) :
    Option Setting :=
  (Environment.said? environment leaf.path).or
    ((file.at? leaf.path).or (builtin.toSetting.at? leaf.path))

theorem winning_eq (file : Setting) (environment : List (String × String)) (leaf : Leaf) :
    winning file environment leaf = (stacked file environment leaf).or (empty.value? leaf) := by
  rw [winning, builtin.toSetting_leaves.2, stacked, Option.or_assoc, Option.or_assoc,
    Option.or_assoc, Option.or_self]

section
variable {content : Option String} {environment : List (String × String)} {file : Setting}
  (read : fileLayer content = .ok file) (sectioned : file.Sectioned)
  (leaves : Environment.NamesLeaves environment)

include read sectioned leaves

theorem exists_merged :
    ∃ merged, load content environment = decode (.table merged) ∧ Tidy Anything merged ∧
      Sectioned (.table merged) ∧
      (∀ name, ((Setting.table merged).at? ["profiles", name]).isSome = true ↔
        Named file environment name) ∧
      ∀ leaf : Leaf, ((Setting.table merged).at? leaf.path).map outline =
        (stacked file environment leaf).map outline := by
  obtain ⟨entries, overrides, loading⟩ := exists_loading read environment
  obtain rfl : file = .table entries := Except.ok.inj (read.symm.trans loading.read)
  have holds := Environment.holds_layer leaves
  rw [loading.said] at holds
  have lowest := builtin.sectioned_toSetting
  have lower := lowest.merge sectioned loading.anything
  have merged : Setting.table (mergeEntries (mergeEntries builtin.entries entries) overrides) =
      (builtin.toSetting.merge (.table entries)).merge (.table overrides) := by
    rw [toSetting_entries, merge_table, merge_table]
  refine ⟨_, ?_, Setting.tidy_mergeEntries
    (Setting.tidy_mergeEntries builtin.tidy_entries loading.anything) loading.tidy', ?_⟩
  · rw [loading.load_eq, merged]
  rw [merged]
  -- The file is put on the built-in settings first, and the variables on both.
  refine ⟨lower.merge holds.sectioned loading.tidy', fun name => ?_, fun leaf => ?_⟩
  · rw [lower.at?_profile_merge holds.sectioned loading.tidy', Setting.isSome_overlay,
      lowest.at?_profile_merge sectioned loading.anything, Setting.isSome_overlay,
      ← builtin.toSetting_leaves.1, Bool.or_eq_true, Bool.or_eq_true, holds.profile, Named]
    tauto
  · rw [lower.at?_merge holds.sectioned loading.tidy', map_outline_overlay, Option.map_or,
      holds.leaf, lowest.at?_merge sectioned loading.anything, map_outline_overlay,
      ← Option.map_or, stacked]

private theorem load_values {settings : Settings} (loaded : load content environment = .ok settings)
    :
    (∀ name, settings.profiles.contains name = true ↔ Named file environment name) ∧
      ∀ leaf, settings.value? leaf = winning file environment leaf := by
  obtain ⟨merged, same, tidy, sectioned, named, outlined⟩ := exists_merged read sectioned leaves
  rw [same, decode_ok] at loaded
  obtain ⟨names, values⟩ := toSettings_leaves tidy sectioned loaded
  refine ⟨fun name => by rw [names, named], fun leaf => ?_⟩
  have fits : ∀ setting ∈ (Setting.table merged).at? leaf.path, leaf.kind.Fits setting := by
    intro setting held
    refine settings.value?_fits leaf setting ?_
    rw [values, Option.mem_def.mp held]
    rfl
  rw [values, winning_eq, Setting.eq_of_outline fits (outlined leaf)]

private theorem exists_load
    (fits : ∀ leaf : Leaf, ∀ setting ∈ winning file environment leaf, leaf.kind.Fits setting)
    (based : ∀ name, Named file environment name →
      (winning file environment (.profile name .apiBase)).isSome = true) :
    ∃ settings, load content environment = .ok settings := by
  obtain ⟨merged, same, tidy, sectioned, named, outlined⟩ := exists_merged read sectioned leaves
  have fits' (leaf : Leaf) : ∀ setting ∈ stacked file environment leaf, leaf.kind.Fits setting := by
    intro setting held
    refine fits leaf setting ?_
    rw [winning_eq, Option.mem_def.mp held]
    rfl
  have held (leaf : Leaf) :
      (Setting.table merged).at? leaf.path = stacked file environment leaf :=
    (Setting.eq_of_outline (fits' leaf) (outlined leaf).symm).symm
  obtain ⟨settings, decoded⟩ : ∃ settings, (Setting.table merged).toSettings = .ok settings := by
    refine exists_toSettings tidy sectioned (fun leaf => ?_) fun name present => ?_
    · rw [held]
      exact fits' leaf
    · have based := based name ((named name).mp present)
      have standard : empty.value? (.profile name .apiBase) = none := rfl
      rwa [winning_eq, standard, Option.or_none, ← held] at based
  exact ⟨settings, by rw [same, decode_ok]; exact decoded⟩

/-- Every leaf is what the topmost layer that says it says, and the only ways to fail are a leaf
whose value does not fit and a profile without a base. -/
theorem load_leaves : ByLeaf content file environment where
  loads := by
    constructor
    · rintro ⟨settings, loaded⟩
      obtain ⟨names, values⟩ := load_values read sectioned leaves loaded
      refine ⟨fun leaf => ?_, fun name named => ?_⟩
      · rw [← values]
        exact settings.value?_fits leaf
      · obtain ⟨profile, found⟩ := Option.isSome_iff_exists.mp ((names name).mpr named)
        rw [← values, value?, found]
        rfl
    · rintro ⟨fits, based⟩
      exact exists_load read sectioned leaves fits based
  profiles _ loaded := (load_values read sectioned leaves loaded).1
  values _ loaded := (load_values read sectioned leaves loaded).2
  alone := by
    rintro before name text after leaf rfl found settings settings' loaded loaded' other different
    have leaves' : Environment.NamesLeaves (before ++ after) := by
      intro entry inside
      refine leaves entry ?_
      rcases List.mem_append.mp inside with inside | inside
      · exact List.mem_append_left _ inside
      · exact List.mem_append_right _ (List.mem_cons_of_mem _ inside)
    -- Every other leaf is said by the same variables as without this one.
    have apart : Environment.path? name ≠ some other.path := by
      rw [found]
      exact fun same => different (Leaf.eq_of_path (Option.some.inj same)).symm
    rw [(load_values read sectioned leaves loaded).2,
      (load_values read sectioned leaves' loaded').2, winning, winning, Environment.said?_append,
      Environment.said?_append, Environment.said?, if_neg apart, Option.or_none]

end

def labSettings : Settings :=
  ⟨some "lab", ⟨9, false⟩, .ofList [("lab", .ofBase "http://lab/api")]⟩

def labText : String :=
  "default_profile = \"lab\"\n\n[defaults]\ntimeout = 9\ninsecure = false\n" ++
    "\n[profiles.lab]\napi_base = \"http://lab/api\"\n"

def labVariables : List (String × String) :=
  [("NICCONF_PROFILES__LAB__TIMEOUT", "5"), ("HOME", "/root"),
    ("NICCONF_DEFAULTS__INSECURE", "true")]

/-- A profile and the defaults of a file are completed by variables, beside a built-in profile. -/
theorem load_leaves_lab :
    ByLeaf (some labText) labSettings.toSetting labVariables ∧
      (load (some labText) labVariables).toOption.map (fun settings =>
        (settings.profiles.get? "lab", settings.profiles.get? "development", settings.defaults)) =
        some (some ⟨"http://lab/api", some 5, none, none⟩,
          some (.ofBase "http://localhost:8000/api"), ⟨9, true⟩) := by
  have read : fileLayer (some labText) = .ok labSettings.toSetting := by
    have written : Toml.write labSettings = .ok labText := by decide +kernel
    exact fileLayer_write written
  have leaves : Environment.NamesLeaves labVariables := by
    have first : Environment.path? "NICCONF_PROFILES__LAB__TIMEOUT" =
      some (Leaf.profile "lab" .timeout).path := by decide +kernel
    have second : Environment.path? "HOME" = none := by decide +kernel
    have third : Environment.path? "NICCONF_DEFAULTS__INSECURE" = some Leaf.insecure.path := by
      decide +kernel
    simp only [Environment.NamesLeaves, labVariables, List.forall_mem_cons, first, second, third]
    refine ⟨?_, nofun, ?_, nofun⟩
    · rintro _ ⟨⟩
      exact ⟨_, rfl⟩
    · rintro _ ⟨⟩
      exact ⟨_, rfl⟩
  exact ⟨load_leaves read labSettings.sectioned_toSetting leaves, by decide +kernel⟩

end Settings

end InterfaceSync
