import InterfaceSync.Cli.Saving
import InterfaceSync.Proofs.FileLookup
import InterfaceSync.Proofs.FileRewrite

/-! Settings that are saved and loaded again. Whatever they say, a file takes them all or none of
them: they are put into text before anything is written, and the text says them in full. -/

namespace InterfaceSync

/-- All timeouts are numbers with a sign of 64 bits. -/
structure Settings.Fits (settings : Settings) : Prop where
  defaults : settings.defaults.timeout < 2 ^ 63
  profiles : ∀ name profile timeout, settings.profiles.get? name = some profile →
    profile.timeout = some timeout → timeout < 2 ^ 63

theorem Toml.isWritable_iff {settings : Settings} : isWritable settings = true ↔ settings.Fits := by
  have bound (number : Nat) : number ≤ maxWhole ↔ number < 2 ^ 63 := by
    unfold maxWhole
    omega
  rw [isWritable, Bool.and_eq_true, List.all_eq_true, decide_eq_true_iff, bound]
  constructor
  · rintro ⟨defaults, each⟩
    refine ⟨defaults, fun name profile timeout held limited => ?_⟩
    have fits :=
      (Option.all_eq_true _ _).mp (each (name, profile) (lookup_mem held)) timeout limited
    exact (bound timeout).mp (of_decide_eq_true fits)
  · rintro ⟨defaults, each⟩
    refine ⟨defaults, fun entry inside => (Option.all_eq_true _ _).mpr fun timeout limited => ?_⟩
    have held := lookup_of_mem settings.profiles.ordered inside
    exact decide_eq_true ((bound timeout).mpr (each _ _ timeout held limited))

private theorem Toml.write_fits {settings : Settings} (fits : settings.Fits) :
    ∃ text, write settings = .ok text :=
  ⟨_, if_pos (isWritable_iff.mpr fits)⟩

private theorem Toml.write_unfit {settings : Settings} (unfit : ¬ settings.Fits) :
    write settings = .error .unwritable :=
  if_neg fun writable => unfit (isWritable_iff.mp writable)

namespace Cli

namespace Location

variable {outer : Location} {name : String}

private theorem parentNames_toPath (named : ∀ part ∈ outer ++ [name], Named part) :
    Path.parentNames (toPath (outer ++ [name])) = outer := by
  have kept : (outer ++ [name]).filter (· != ".") = outer ++ [name] :=
    List.filter_eq_self.mpr fun part inside => by simpa using (named part inside).noDot
  rw [Path.parentNames, names_toPath named, kept, List.dropLast_concat]

private theorem endsWith_toPath (outer : Location) (fine : Named name) :
    (toPath (outer ++ [name])).endsWith "/" = false := by
  obtain ⟨before, same⟩ := toPath_concat outer name
  rw [same, Path.endsWith_append (by simpa using fine.filled)]
  refine Bool.eq_false_iff.mpr fun slash => ?_
  obtain ⟨before, same⟩ := Path.endsWith_slash.mp slash
  exact fine.whole (by simp [same])

end Location

namespace Machine

variable {machine prepared after : Machine} {path : String} {settings : Settings}

theorem saveSettings_ok {text : String} (written : Toml.write settings = .ok text)
    (put : machine.writeFile path text = (.ok (), after)) :
    machine.saveSettings path settings = (.ok (), after) := by
  obtain ⟨prepared, made, put⟩ := writeFile_prepared.mp put
  simp only [saveSettings, made, written, put]

theorem saveSettings_unwritten {error : SettingsError}
    (written : Toml.write settings = .error error) (made : machine.prepare path = (.ok (), prepared)) :
    machine.saveSettings path settings = (.error error, prepared) := by
  simp only [saveSettings, made, written]

/-- Settings are saved by a write of all their text, or nothing but directories is made. -/
theorem saveSettings_cases (machine : Machine) (path : String) (settings : Settings) :
    (∃ text after, Toml.write settings = .ok text ∧
      machine.writeFile path text = (.ok (), after) ∧
      machine.saveSettings path settings = (.ok (), after)) ∨
    ∃ error after, machine.saveSettings path settings = (.error error, after) ∧
      machine.SameFiles after := by
  have kept := machine.sameFiles_prepare path
  cases made : machine.prepare path with
  | mk result prepared =>
  rw [made] at kept
  cases result with
  | error error => exact .inr ⟨.file error, prepared, by simp only [saveSettings, made], kept⟩
  | ok done =>
    cases written : Toml.write settings with
    | error error => exact .inr ⟨error, prepared, saveSettings_unwritten written made, kept⟩
    | ok text =>
      cases put : prepared.overwrite path text with
      | error error =>
        exact .inr ⟨.file error, prepared, by simp only [saveSettings, made, written, put], kept⟩
      | ok after =>
        have whole := writeFile_prepared.mpr ⟨prepared, made, put⟩
        exact .inl ⟨text, after, rfl, whole, saveSettings_ok written whole⟩

private theorem loadSettingsFile_eq (machine : Machine) (path : String) :
    machine.loadSettingsFile path = Settings.loadFile (settingsText machine machine [] path) := by
  have read : ((machine.host []).readOptional path).run machine =
      (.ok (settingsText machine machine [] path), machine) :=
    acts_readOptional machine machine [] path
  rw [loadSettingsFile, read]

/-- There can be a file at a path: the directories around it are there or can be made, and it is not
a directory itself. -/
def Takes (machine : Machine) (path : String) : Prop :=
  ∃ after, machine.writeFile path "" = (.ok (), after)

private theorem Takes.writeFile (takes : machine.Takes path) (content : String) :
    ∃ after, machine.writeFile path content = (.ok (), after) := by
  obtain ⟨_, put⟩ := takes
  obtain ⟨proper, noSlash, built, location, made, located, apart, _⟩ := writeFile_ok.mp put
  exact ⟨_, writeFile_ok.mpr ⟨proper, noSlash, built, location, made, located, apart, rfl⟩⟩

private theorem Takes.prepares (takes : machine.Takes path) :
    ∃ prepared, machine.prepare path = (.ok (), prepared) := by
  obtain ⟨_, put⟩ := takes
  obtain ⟨prepared, made, _⟩ := writeFile_prepared.mp put
  exact ⟨prepared, made⟩

theorem takes_file {text : String} (sound : machine.Sound)
    (held : machine.readFile path = .ok text) : machine.Takes path :=
  exists_writeFile sound held ""

theorem makeDirectories_named (machine : Machine) (outer : Location) {inner : Location}
    (wasMissing : Bool)
    (named : ∀ name ∈ inner, Location.Named name)
    (free : ∀ place, outer <+: place → place <+: outer ++ inner → machine.content? place = none)
    (around : machine.isDirectory outer = true) :
    ∃ built, machine.makeDirectories outer wasMissing inner = (.ok (), built) ∧
      built.isDirectory (outer ++ inner) = true ∧
      ∀ place, built.isDirectory place = true →
        machine.isDirectory place = true ∨ place <+: outer ++ inner := by
  induction inner generalizing machine outer wasMissing with
  | nil => exact ⟨machine, rfl, by rwa [List.append_nil], fun _ => .inl⟩
  | cons name inner ih =>
    have fine : Location.Named name := named name List.mem_cons_self
    have whole : outer ++ name :: inner = (outer ++ [name]) ++ inner := by simp
    have empty : machine.content? (outer ++ [name]) = none :=
      free _ (List.prefix_append _ _) (whole ▸ List.prefix_append _ _)
    have later : ∀ name ∈ inner, Location.Named name :=
      fun name inside => named name (List.mem_cons_of_mem _ inside)
    have beyond : ∀ place, outer ++ [name] <+: place → place <+: (outer ++ [name]) ++ inner →
        machine.content? place = none :=
      fun place behind before => free place ((List.prefix_append _ _).trans behind) (whole ▸ before)
    rw [whole]
    cases there : machine.isDirectory (outer ++ [name]) with
    | true =>
      have entry := entry?_directory.mpr ⟨empty, there⟩
      obtain ⟨built, made, directory, only⟩ := ih machine _ wasMissing later beyond there
      exact ⟨built, makeDirectories_cons.mpr ⟨_, fine.step outer, .inl ⟨entry, made⟩⟩, directory,
        only⟩
    | false =>
      have entry : machine.entry? (outer ++ [name]) = none := by
        simp [ entry?, empty, there]
      obtain ⟨built, made, directory, only⟩ :=
        ih (machine.makeDirectory (outer ++ [name])) _ true later beyond
          (isDirectory_makeDirectory.mpr (.inl List.prefix_rfl))
      refine ⟨built, makeDirectories_cons.mpr ⟨_, fine.step outer, .inr ⟨entry, made⟩⟩, directory,
        fun place inside => ?_⟩
      rcases only place inside with before | before
      · rcases isDirectory_makeDirectory.mp before with within | before
        · exact .inr (within.trans (List.prefix_append _ _))
        · exact .inl before
      · exact .inr before

/-- There can be a new file at every place whose names are fit for directories, as long as no file
is in the way, and no directory in its place. -/
theorem takes_toPath {outer : Location} {name : String}
    (named : ∀ part ∈ outer ++ [name], Location.Named part)
    (free : ∀ place, place <+: outer → machine.content? place = none)
    (apart : machine.isDirectory (outer ++ [name]) = false)
    (short : (Location.toPath (outer ++ [name])).utf8ByteSize ≤ pathLimit) :
    machine.Takes (Location.toPath (outer ++ [name])) := by
  have outerNamed : ∀ part ∈ outer, Location.Named part :=
    fun part inside => named part (List.mem_append_left _ inside)
  have fine : Location.Named name := named name (by simp)
  have names : Path.names (Location.toPath (outer ++ [name])) = outer ++ [name] :=
    Location.names_toPath named
  have parents := Location.parentNames_toPath named
  have root (machine : Machine) : machine.start (Location.toPath (outer ++ [name])) = [] :=
    if_pos (Path.isAbsolute_root _)
  obtain ⟨built, made, directory, only⟩ :=
    makeDirectories_named machine [] false outerNamed
      (fun place _ before => free place before) (isDirectory_iff.mpr (.inl List.nil_prefix))
  have around : built.around (Location.toPath (outer ++ [name])) = .ok outer := by
    refine around_ok.mpr ⟨holdsNull_iff.mpr (Location.null_toPath named), ?_, short, ?_⟩
    · simp [Location.toPath]
    · rw [root, names, List.dropLast_concat]
      refine walk_named outerNamed fun place before => entry?_directory.mpr ⟨?_, ?_⟩
      · obtain ⟨_, dirs, rfl⟩ := built_makeDirectories made
        exact free place before
      · exact isDirectory_outer before directory
  have apart : built.isDirectory (outer ++ [name]) = false := by
    refine Bool.eq_false_iff.mpr fun taken => ?_
    rcases only _ taken with before | before
    · rw [apart] at before
      cases before
    · have longer := before.length_le
      simp at longer
  refine ⟨_, writeFile_ok.mpr ⟨?_, Location.endsWith_toPath outer fine, built, outer ++ [name], ?_, ?_,
    apart, rfl⟩⟩
  · rw [parents, List.any_eq_false]
    exact fun part inside => by simp [holdsNull_iff.mpr (outerNamed part inside).proper]
  · rw [root, parents]
    exact made
  · rw [locate, around, names, List.getLast?_concat]
    exact fine.step outer

/-- Settings whose timeouts fit are loaded as they were saved, from every path that takes a file
and leads to it, and all other files stay. A timeout that does not fit is told before anything is
written, once the directories are made. No save that fails changes a file. -/
theorem saved_settings (machine : Machine) (path : String) (settings : Settings) :
    (settings.Fits → machine.Takes path → machine.Reaches path →
      ∃ after, machine.saveSettings path settings = (.ok (), after) ∧
        after.loadSettingsFile path = .ok settings ∧
        ∃ location, after.locate path = .ok location ∧
          ∀ other, other ≠ location → after.content? other = machine.content? other) ∧
    (¬ settings.Fits →
      ∃ error after, machine.saveSettings path settings = (.error error, after) ∧
        machine.SameFiles after ∧
        ((∃ prepared, machine.prepare path = (.ok (), prepared)) → error = .unwritable)) ∧
    ∀ error after, machine.saveSettings path settings = (.error error, after) →
      machine.SameFiles after := by
  refine ⟨fun fits takes reaches => ?_, fun unfit => ?_, fun error after failed => ?_⟩
  · obtain ⟨text, written⟩ := Toml.write_fits fits
    obtain ⟨after, put⟩ := takes.writeFile text
    obtain ⟨location, located, contents⟩ := content?_writeFile put
    have same : after.directory = machine.directory := directory_writeFile put
    have here : LooksHere after after [] path :=
      reaches.looksHere (fun sound => sound.writeFile put) same same
    refine ⟨after, saveSettings_ok written put, ?_, location, located, fun other different => ?_⟩
    · rw [loadSettingsFile_eq, settingsText_of_readFile here (readFile_writeFile put)]
      exact Settings.loadFile_write written
    · exact (contents other).trans (if_neg different)
  · have unwritable := Toml.write_unfit unfit
    rcases machine.saveSettings_cases path settings with
      ⟨text, _, written, _⟩ | ⟨error, after, failed, same⟩
    · cases unwritable.symm.trans written
    · refine ⟨error, after, failed, same, ?_⟩
      rintro ⟨prepared, made⟩
      cases failed.symm.trans (saveSettings_unwritten unwritable made)
      rfl
  · rcases machine.saveSettings_cases path settings with
      ⟨_, _, _, _, saved⟩ | ⟨_, _, failed', same⟩
    · cases saved.symm.trans failed
    · cases failed'.symm.trans failed
      exact same

def awkwardSettings (timeout : Nat) : Settings where
  defaultProfile := some ""
  defaults := ⟨0, true⟩
  profiles := NameMap.empty.insert "a.\"b]\n" ⟨"'''\"", some timeout, some "", none⟩

def settingsHolder : Machine :=
  ofFiles [(["etc", "old.toml"], "kept")] [] fun _ => .silent

private theorem sound_settingsHolder : settingsHolder.Sound := by
  intro location directory
  have apart : location ≠ ["etc", "old.toml"] := by
    rintro rfl
    simp [isDirectory, settingsHolder, ofFiles] at directory
  exact (lookup_file _ _ _ _).trans (if_neg apart)

theorem saved_awkwardSettings :
    (∃ after, settingsHolder.saveSettings "/etc/new/a.toml" (awkwardSettings (2 ^ 63 - 1)) =
        (.ok (), after) ∧
      after.loadSettingsFile "/etc/new/a.toml" = .ok (awkwardSettings (2 ^ 63 - 1))) ∧
    ∃ after, settingsHolder.saveSettings "/etc/old.toml" (awkwardSettings (2 ^ 63)) =
        (.error .unwritable, after) ∧ after.readFile "/etc/old.toml" = .ok "kept" := by
  constructor
  · have fits : (awkwardSettings (2 ^ 63 - 1)).Fits := Toml.isWritable_iff.mp (by decide)
    have named : ∀ part ∈ ["etc", "new"] ++ ["a.toml"], Location.Named part := by
      intro part inside
      simp only [List.cons_append, List.nil_append, List.mem_cons, List.not_mem_nil,
        or_false] at inside
      rcases inside with rfl | rfl | rfl <;> constructor <;> decide
    have free : ∀ place, place <+: ["etc", "new"] → settingsHolder.content? place = none := by
      intro place before
      refine (lookup_file _ _ _ _).trans (if_neg ?_)
      rintro rfl
      revert before
      decide
    have takes : settingsHolder.Takes "/etc/new/a.toml" :=
      takes_toPath named free (by decide) (by decide)
    obtain ⟨after, saved, loaded, _⟩ :=
      (saved_settings _ _ _).1 fits takes (.inl (Path.isAbsolute_root "etc/new/a.toml"))
    exact ⟨after, saved, loaded⟩
  · have unfit : ¬ (awkwardSettings (2 ^ 63)).Fits :=
      fun fits => absurd (Toml.isWritable_iff.mpr fits) (by decide)
    have held : settingsHolder.readFile "/etc/old.toml" = .ok "kept" := by decide +kernel
    obtain ⟨error, after, failed, same, told⟩ := (saved_settings _ _ _).2.1 unfit
    rw [told (takes_file sound_settingsHolder held).prepares] at failed
    exact ⟨after, failed, same.read _ _ held⟩

end Machine

end Cli

end InterfaceSync
