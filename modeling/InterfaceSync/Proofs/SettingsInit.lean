import InterfaceSync.Proofs.FileLookup
import InterfaceSync.Proofs.PartialProfiles

/-! Putting a new profile into a file of settings. The file is read by itself, and is written only
when everything before that went well. -/

namespace InterfaceSync.Cli

open Settings (loadFile load Adds LacksBase)

def NewProfile.profile (new : NewProfile) (url : String) : Profile :=
  { Profile.ofBase url with caCert := new.caCert }

/-- The answer to a question that nobody is asked. -/
def answerOf (given : Option String) : Except Failure String :=
  match given with
  | some answer => .ok answer
  | none => .error (.invalid "interactive" "prompt failed: IO error: not a terminal")

/-- The name of a new profile, and what is to be written to a file with the given content. -/
def NewProfile.rewritten (new : NewProfile) (content : Option String) :
    Except Failure (String × String) := do
  let name ← answerOf new.name
  let url ← answerOf new.url
  let _ ← (readApiBase url).mapError .ofSettings
  let own ← (loadFile content).mapError .ofSettings
  let text ← (Toml.write (withDefaultProfile own name (new.profile url))).mapError .ofSettings
  return (name, text)

namespace Machine

variable (origin machine : Machine) (environment : List (String × String)) (options : Options)
  (new : NewProfile)

def initPath : String :=
  new.file.getD (origin.host environment).settingsPath

def noted (text : String) : Machine :=
  { machine with notices := machine.notices ++ if options.quiet then "" else text }

private theorem runs_askFor (given : Option String) (question usual : String) :
    machine.runs ((origin.host environment).askFor given question usual) =
      (answerOf given, machine) := by
  cases given <;> rfl

private theorem settingsText_noted (text path : String) :
    settingsText origin (machine.noted options text) environment path =
      settingsText origin machine environment path := rfl

theorem runs_initSettings :
    machine.runs (initSettings (origin.host environment) options new) =
      let path := initPath origin environment new
      let told := machine.noted options (settingsPathLine path)
      match new.rewritten (settingsText origin machine environment path) with
      | .error failure => (.error failure, told)
      | .ok (name, text) =>
        match told.writeFile path text with
        | (.error error, after) => (.error (.file error), after)
        | (.ok (), after) => (.ok (), after.noted options (writtenLines path name)) := by
  have notify (machine : Machine) (text : String) :
      machine.acts ((origin.host environment).notifyUnlessQuiet options text) =
        ((), machine.noted options text) :=
    acts_notifyUnlessQuiet origin machine environment options text
  have write (machine : Machine) (path text : String) :
      machine.acts ((origin.host environment).writeFile path text) = machine.writeFile path text :=
    machine.acts_modifyGet (·.writeFile path text)
  have profile (url : String) :
      { Profile.ofBase url with caCert := new.caCert } = new.profile url := rfl
  simp only [initSettings, runs_bind, runs_liftM, notify, runs_askFor, runs_orFail,
    runs_settingsContent, write, NewProfile.rewritten, initPath, profile]
  simp only [bind, Except.bind]
  cases answerOf new.name with
  | error failure => rfl
  | ok name =>
  cases answerOf new.url with
  | error failure => rfl
  | ok url =>
  dsimp only
  cases (readApiBase url).mapError Failure.ofSettings with
  | error failure => rfl
  | ok base =>
  dsimp only
  rw [settingsText_noted]
  cases (loadFile (settingsText origin machine environment
    (new.file.getD (origin.host environment).settingsPath))).mapError Failure.ofSettings with
  | error failure => rfl
  | ok own =>
  dsimp only
  cases (Toml.write (withDefaultProfile own name (new.profile url))).mapError
    Failure.ofSettings with
  | error failure => rfl
  | ok text =>
  dsimp only [pure, Except.pure]
  obtain ⟨result, after⟩ := writeFile _ _ text
  cases result <;> rfl

def initContent : Option String :=
  settingsText machine machine environment (initPath machine environment new)

def initializing : Except Failure Unit × Machine :=
  machine.acts (run (machine.host environment) ⟨options, .settings (.init new)⟩)

theorem initializing_eq :
    machine.initializing environment options new =
      let path := initPath machine environment new
      let told := machine.noted options (settingsPathLine path)
      match new.rewritten (machine.initContent environment new) with
      | .error failure => (.error failure, told)
      | .ok (name, text) =>
        match told.writeFile path text with
        | (.error error, after) => (.error (.file error), after)
        | (.ok (), after) => (.ok (), after.noted options (writtenLines path name)) :=
  runs_initSettings machine machine environment options new

end Machine

private theorem answerOf_ok {given : Option String} {answer : String} :
    answerOf given = .ok answer ↔ given = some answer := by
  cases given <;> simp [answerOf]

theorem NewProfile.rewritten_ok {new : NewProfile} {content : Option String} {name text : String} :
    new.rewritten content = .ok (name, text) ↔ new.name = some name ∧ ∃ url, new.url = some url ∧
      (∃ base, readApiBase url = .ok base) ∧ ∃ own, loadFile content = .ok own ∧
        Toml.write (withDefaultProfile own name (new.profile url)) = .ok text := by
  simp only [NewProfile.rewritten, bind_ok, mapError_ok, answerOf_ok]
  constructor
  · rintro ⟨_, named, url, based, base, accepted, own, loaded, _, written, ⟨⟩⟩
    exact ⟨named, url, based, ⟨base, accepted⟩, own, loaded, written⟩
  · rintro ⟨named, url, based, ⟨base, accepted⟩, own, loaded, written⟩
    exact ⟨name, named, url, based, base, accepted, own, loaded, text, written, rfl⟩

namespace Machine

section
variable (machine : Machine) (environment : List (String × String)) (options : Options)
  (new : NewProfile)

theorem initializing_cases :
    let path := initPath machine environment new
    let told := machine.noted options (settingsPathLine path)
    (∃ failure after, machine.initializing environment options new = (.error failure, after) ∧
      after.files = machine.files) ∨
      ∃ name text after, new.rewritten (machine.initContent environment new) = .ok (name, text) ∧
        told.writeFile path text = (.ok (), after) ∧ machine.initializing environment options new =
          (.ok (), after.noted options (writtenLines path name)) := by
  intro path told
  rw [initializing_eq]
  cases rewritten : new.rewritten (machine.initContent environment new) with
  | error failure => exact .inl ⟨failure, told, rfl, rfl⟩
  | ok written =>
    obtain ⟨name, text⟩ := written
    cases put : told.writeFile path text with
    | mk result after =>
      cases result with
      | error error =>
        exact .inl ⟨.file error, after, by simp only [path, told] at put ⊢; rw [put],
          (sameFiles_writeFile put).files⟩
      | ok done =>
        exact .inr ⟨name, text, after, rfl, put, by simp only [path, told] at put ⊢; rw [put]⟩

end

/-- What a command that puts a new profile into a file leaves, once it succeeded. -/
structure Rewrites (machine : Machine) (environment : List (String × String)) (new : NewProfile)
    (after : Machine) (name url : String) (own : Settings) (text : String) : Prop where
  named : new.name = some name
  accepted : new.url = some url ∧ ∃ base, readApiBase url = .ok base
  loaded : loadFile (machine.initContent environment new) = .ok own
  /-- All that is written are the settings that the file itself gave, and the new profile. -/
  written : Toml.write (withDefaultProfile own name (new.profile url)) = .ok text
  held : after.readFile (initPath machine environment new) = .ok text
  found : LooksHere machine after environment (initPath machine environment new) →
    settingsText machine after environment (initPath machine environment new) = some text
  here : machine.Reaches (initPath machine environment new) →
    LooksHere machine after environment (initPath machine environment new)
  others : ∃ location, after.locate (initPath machine environment new) = .ok location ∧
    ∀ other, other ≠ location → after.content? other = machine.content? other
  readBack : loadFile (some text) = .ok (withDefaultProfile own name (new.profile url))
  inForce : ∀ overrides before,
    load (machine.initContent environment new) overrides = .ok before →
    ∃ current, load (some text) overrides = .ok current ∧
      Adds (machine.initContent environment new) overrides name
        (withDefaultProfile own name (new.profile url)) before current

variable (machine : Machine) (environment : List (String × String)) (options : Options)
  (new : NewProfile)

/-- A new profile is all that a file of settings gains, and a file that is not rewritten stays as it
is. -/
theorem init_rewrites :
    match machine.initializing environment options new with
    | (.ok (), after) =>
      ∃ name url own text, machine.Rewrites environment new after name url own text
    | (.error _, after) => after.files = machine.files := by
  rcases machine.initializing_cases environment options new with
    ⟨failure, after, ran, same⟩ | ⟨name, text, after, rewritten, put, ran⟩
  · rw [ran]
    exact same
  · obtain ⟨named, url, based, accepted, own, loaded, written⟩ :=
      NewProfile.rewritten_ok.mp rewritten
    have held : after.readFile (initPath machine environment new) = .ok text :=
      readFile_writeFile put
    obtain ⟨location, located, contents⟩ := content?_writeFile put
    have same := directory_writeFile put
    have kept (sound : machine.Sound) : after.Sound := by
      have told : (machine.noted options
        (settingsPathLine (initPath machine environment new))).Sound := sound
      exact told.writeFile put
    rw [ran]
    refine ⟨name, url, own, text, {
      named, accepted := ⟨based, accepted⟩, loaded, written, held
      found := fun here => settingsText_of_readFile here held
      here := fun reaches => reaches.looksHere kept same rfl
      others := ⟨location, located, fun other different => ?_⟩
      readBack := Settings.loadFile_write written
      inForce := fun overrides before inForce =>
        (Settings.load_added loaded inForce written).2 }⟩
    exact (contents other).trans (if_neg different)

def ofSettings (text : String) : Machine :=
  ofFiles [(["c", "nicconf", "config.toml"], text)] [] fun _ => .silent

def quietOptions : Options :=
  ⟨none, none, .table, .auto, 0, true, false, none⟩

def labProfile : NewProfile :=
  ⟨some "lab", some "http://[::1]/api", none, none⟩

/-- Defaults as a list count again, once they have been rewritten as a table. -/
theorem init_spreadDefaults :
    let machine := ofSettings "defaults = [7]\n"
    let environment := [("XDG_CONFIG_HOME", "/c"), ("NICCONF_DEFAULTS__INSECURE", "true")]
    let (result, after) := machine.initializing environment quietOptions labProfile
    result = .ok () ∧
    (settings machine machine environment).toOption.map (·.defaults) = some ⟨30, true⟩ ∧
    (settings after after environment).toOption.map (·.defaults) = some ⟨7, true⟩ := by
  decide +kernel

theorem initializing_ok {text name url : String} {own : Settings} (sound : machine.Sound)
    (there : machine.readFile (initPath machine environment new) = .ok text)
    (here : LooksHere machine machine environment (initPath machine environment new))
    (named : new.name = some name) (based : new.url = some url)
    (accepted : ∃ base, readApiBase url = .ok base) (loaded : loadFile (some text) = .ok own) :
    (machine.initializing environment options new).1 = .ok () := by
  let path := initPath machine environment new
  let told := machine.noted options (settingsPathLine path)
  have content : machine.initContent environment new = some text :=
    settingsText_of_readFile here there
  obtain ⟨file, written⟩ := Settings.exists_write loaded name (new.profile url) rfl
  have rewritten : new.rewritten (some text) = .ok (name, file) :=
    NewProfile.rewritten_ok.mpr ⟨named, url, based, accepted, own, loaded, written⟩
  have sound : told.Sound := sound
  have there : told.readFile path = .ok text := there
  obtain ⟨after, put⟩ := exists_writeFile sound there file
  have ran : machine.initializing environment options new =
      (.ok (), after.noted options (writtenLines path name)) := by
    rw [initializing_eq, content, rewritten]
    dsimp only
    rw [put]
  rw [ran]

/-- A new profile goes into a file that the program runs with, unless the file leaves the base of a
built-in profile out. -/
theorem init_accepts {text name url : String} {inForce : Settings} (sound : machine.Sound)
    (there : machine.readFile (initPath machine environment new) = .ok text)
    (here : LooksHere machine machine environment (initPath machine environment new))
    (unrelated : ∀ entry ∈ environment, Environment.path? entry.1 = none)
    (loaded : load (some text) environment = .ok inForce)
    (named : new.name = some name) (based : new.url = some url)
    (accepted : ∃ base, readApiBase url = .ok base) :
    let complete := ∀ profile, ¬ LacksBase (some text) profile
    let ran := machine.initializing environment options new
    ((∃ own, loadFile (some text) = .ok own) ↔ complete) ∧ (ran.1 = .ok () ↔ complete) ∧
      ∀ failure, ran.1 = .error failure → ran.2.files = machine.files ∧
        ∃ profile, LacksBase (some text) profile ∧
          (profile = "development" ∨ profile = "production") ∧
          failure = .settings (.unfit .missingField ["profiles", profile]) := by
  intro complete ran
  rcases Settings.loadFile_cases unrelated loaded with
    ⟨own, read⟩ | ⟨profile, lacks, builtin, failed⟩
  · have whole : complete := Settings.not_lacksBase read
    have succeeded := machine.initializing_ok environment options new sound there here named based
      accepted read
    refine ⟨⟨fun _ => whole, fun _ => ⟨own, read⟩⟩, ⟨fun _ => whole, fun _ => succeeded⟩, ?_⟩
    intro failure ended
    cases succeeded.symm.trans ended
  · have partly : ¬ complete := fun whole => whole profile lacks
    have content : machine.initContent environment new = some text :=
      settingsText_of_readFile here there
    obtain ⟨base, accepted⟩ := accepted
    have rewritten : new.rewritten (some text) =
        .error (.settings (.unfit .missingField ["profiles", profile])) := by
      rw [NewProfile.rewritten, named, based]
      simp only [answerOf, bind, Except.bind, accepted, failed, Except.mapError, Failure.ofSettings]
    have ended : ran = (.error (.settings (.unfit .missingField ["profiles", profile])),
        machine.noted options (settingsPathLine (initPath machine environment new))) :=
      (machine.initializing_eq environment options new).trans (by rw [content, rewritten])
    rw [ended]
    refine ⟨⟨?_, fun whole => absurd whole partly⟩, ⟨nofun, fun whole => absurd whole partly⟩, ?_⟩
    · rintro ⟨own, read⟩
      exact absurd (Settings.not_lacksBase read) partly
    · rintro _ ⟨⟩
      exact ⟨rfl, profile, lacks, builtin, rfl⟩

private theorem sound_ofSettings (text : String) : (ofSettings text).Sound := by
  intro location directory
  have apart : location ≠ ["c", "nicconf", "config.toml"] := by
    rintro rfl
    simp [isDirectory, ofSettings, ofFiles] at directory
  exact (lookup_file _ _ _ _).trans (if_neg apart)

def partialText : String :=
  "[profiles.development]\ntimeout = 5\n"

def wholeText : String :=
  "[profiles.development]\napi_base = \"http://[::1]/\"\ntimeout = 5\n"

/-- A file that leaves a base out stays as it is; with the base, it takes a profile. -/
theorem init_accepts_withBase :
    let environment := [("XDG_CONFIG_HOME", "/c")]
    let ran (text : String) := (ofSettings text).initializing environment quietOptions labProfile
    (∃ failure, (ran partialText).1 = .error failure ∧
      (ran partialText).2.files = (ofSettings partialText).files) ∧
    (ran wholeText).1 = .ok () ∧ ∀ profile, ¬ LacksBase (some wholeText) profile := by
  intro environment ran
  have absolute : Path.isAbsolute (initPath (ofSettings "") environment labProfile) = true := by
    decide +kernel
  have accepts {text : String} {inForce : Settings}
      (there : (ofSettings text).readFile
        (initPath (ofSettings text) environment labProfile) = .ok text)
      (loaded : load (some text) environment = .ok inForce) :=
    init_accepts (ofSettings text) environment quietOptions labProfile (sound_ofSettings text) there
      (looksHere_absolute absolute) (by decide +kernel) loaded rfl rfl
      (exists_ok (by decide +kernel))
  constructor
  · obtain ⟨inForce, loaded⟩ : ∃ inForce, load (some partialText) environment = .ok inForce :=
      exists_ok (by decide +kernel)
    obtain ⟨alone, takes, failed⟩ := accepts (by decide +kernel) loaded
    have partly : ¬ ∃ own, loadFile (some partialText) = .ok own := by
      rintro ⟨own, read⟩
      have refused : (loadFile (some partialText)).toOption.isNone = true := by decide +kernel
      rw [read] at refused
      cases refused
    cases result : (ran partialText).1 with
    | ok done => exact absurd (alone.mpr (takes.mp result)) partly
    | error failure => exact ⟨failure, rfl, (failed failure result).1⟩
  · obtain ⟨inForce, loaded⟩ : ∃ inForce, load (some wholeText) environment = .ok inForce :=
      exists_ok (by decide +kernel)
    obtain ⟨alone, takes, _⟩ := accepts (by decide +kernel) loaded
    have whole := alone.mp (exists_ok (by decide +kernel))
    exact ⟨takes.mpr whole, whole⟩

/-- The program runs with this file, and no profile goes into it. -/
theorem init_partialText :
    let machine := ofSettings partialText
    let environment := [("XDG_CONFIG_HOME", "/c")]
    (∀ entry ∈ environment, Environment.path? entry.1 = none) ∧
    (settings machine machine environment).toOption.isSome = true ∧
    (loadFile (some partialText)).toOption.isNone = true ∧
    (machine.initializing environment quietOptions labProfile).1 =
      .error (.settings (.unfit .missingField ["profiles", "development"])) := by
  decide +kernel

end Machine

end InterfaceSync.Cli
