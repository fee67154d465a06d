import InterfaceSync.Cli.Machine
import InterfaceSync.Proofs.Results

/-! Files of a machine. A file that was written is read again at the same path, and no other file
is different. What a path passes through stays a directory while files are written. -/

namespace InterfaceSync.Cli.Machine

variable {machine middle after : Machine} {path content : String} {location : Location}

theorem entry?_directory :
    machine.entry? location = some .directory ↔
      machine.content? location = none ∧ machine.isDirectory location = true := by
  unfold entry?
  cases machine.content? location with
  | some content => exact ⟨nofun, nofun⟩
  | none =>
    cases machine.isDirectory location with
    | true => exact ⟨fun _ => ⟨rfl, rfl⟩, fun _ => rfl⟩
    | false => exact ⟨nofun, nofun⟩

theorem entry?_file :
    machine.entry? location = some (.file content) ↔ machine.content? location = some content := by
  unfold entry?
  cases machine.content? location with
  | some content => simp
  | none => cases machine.isDirectory location <;> simp

def Keeps (machine after : Machine) : Prop :=
  ∀ location, machine.entry? location = some .directory → after.entry? location = some .directory

theorem Keeps.refl (machine : Machine) : machine.Keeps machine :=
  fun _ held => held

private theorem Keeps.trans (keeps : machine.Keeps middle) (keeps' : middle.Keeps after) :
    machine.Keeps after :=
  fun location held => keeps' location (keeps location held)

theorem enter_ok {name : String} {inner : Location} :
    machine.enter location name = .ok inner ↔
      location.step name = .ok inner ∧ machine.entry? inner = some .directory := by
  rw [enter, bind_ok]
  constructor
  · rintro ⟨found, step, held⟩
    split at held
    next directory =>
      cases held
      exact ⟨step, directory⟩
    next => cases held
    next => cases held
  · rintro ⟨step, directory⟩
    refine ⟨inner, step, ?_⟩
    rw [directory]
    rfl

private theorem Keeps.walk (keeps : machine.Keeps after) {start : Location} {names : List String}
    (walked : machine.walk start names = .ok location) : after.walk start names = .ok location := by
  unfold Machine.walk at walked ⊢
  induction names generalizing start with
  | nil => exact walked
  | cons name names ih =>
    rw [List.foldlM_cons, bind_ok] at walked ⊢
    obtain ⟨inner, entered, rest⟩ := walked
    obtain ⟨step, directory⟩ := enter_ok.mp entered
    exact ⟨inner, enter_ok.mpr ⟨step, keeps inner directory⟩, ih rest⟩

theorem around_ok {inner : Location} :
    machine.around path = .ok inner ↔ holdsNull path = false ∧ path.isEmpty = false ∧
      path.utf8ByteSize ≤ pathLimit ∧
      machine.walk (machine.start path) (Path.names path).dropLast = .ok inner := by
  rw [around]
  split
  next null => simp [null]
  split
  next empty => simp [empty]
  split
  next long =>
    have : ¬ path.utf8ByteSize ≤ pathLimit := by omega
    simp [this]
  next proper filled short =>
    have : path.utf8ByteSize ≤ pathLimit := by omega
    simp [proper, filled, this]

private theorem start_eq (same : after.directory = machine.directory) (path : String) :
    after.start path = machine.start path := by
  rw [start, start, same]

private theorem Keeps.around (keeps : machine.Keeps after)
    (same : after.directory = machine.directory)
    (found : machine.around path = .ok location) : after.around path = .ok location := by
  rw [around_ok, start_eq same]
  obtain ⟨proper, filled, short, walked⟩ := around_ok.mp found
  exact ⟨proper, filled, short, keeps.walk walked⟩

theorem Keeps.locate (keeps : machine.Keeps after) (same : after.directory = machine.directory)
    (found : machine.locate path = .ok location) : after.locate path = .ok location := by
  rw [Machine.locate, bind_ok] at found ⊢
  obtain ⟨inner, around, found⟩ := found
  exact ⟨inner, keeps.around same around, found⟩

theorem isDirectory_iff :
    machine.isDirectory location = true ↔ location <+: machine.directory ∨
      (∃ made ∈ machine.made, location <+: made) ∨
      ∃ held ∈ machine.files.map Prod.fst, location <+: held ∧ location ≠ held := by
  simp [isDirectory, or_assoc]

theorem isDirectory_outer {outer : Location} (inside : outer <+: location)
    (directory : machine.isDirectory location = true) : machine.isDirectory outer = true := by
  rw [isDirectory_iff] at directory ⊢
  rcases directory with working | ⟨made, member, before⟩ | ⟨file, member, before, different⟩
  · exact .inl (inside.trans working)
  · exact .inr (.inl ⟨made, member, inside.trans before⟩)
  · refine .inr (.inr ⟨file, member, inside.trans before, ?_⟩)
    rintro rfl
    exact different (before.eq_of_length_le inside.length_le)

theorem isDirectory_makeDirectory {inner : Location} :
    (machine.makeDirectory inner).isDirectory location = true ↔
      location <+: inner ∨ machine.isDirectory location = true := by
  simp only [isDirectory_iff, makeDirectory, List.mem_cons, List.mem_filter,
    exists_eq_or_imp]
  constructor
  · rintro (working | (new | ⟨made, ⟨member, _⟩, before⟩) | file)
    · exact .inr (.inl working)
    · exact .inl new
    · exact .inr (.inr (.inl ⟨made, member, before⟩))
    · exact .inr (.inr (.inr file))
  · rintro (new | working | ⟨made, member, before⟩ | file)
    · exact .inr (.inl (.inl new))
    · exact .inl working
    · by_cases covered : made <+: inner
      · exact .inr (.inl (.inl (before.trans covered)))
      · refine .inr (.inl (.inr ⟨made, ⟨member, ?_⟩, before⟩))
        simpa [Bool.eq_false_iff] using covered
    · exact .inr (.inr file)

private theorem keeps_makeDirectory (machine : Machine) (inner : Location) :
    machine.Keeps (machine.makeDirectory inner) := by
  intro location held
  obtain ⟨empty, directory⟩ := entry?_directory.mp held
  exact entry?_directory.mpr ⟨empty, isDirectory_makeDirectory.mpr (.inr directory)⟩

/-- Making directories changes nothing else, however far it comes. -/
theorem keeps_makeDirectories (machine : Machine) (location : Location) (wasMissing : Bool)
    (names : List String) :
    let after := (machine.makeDirectories location wasMissing names).2
    machine.Keeps after ∧ ∃ made, after = { machine with made := made } := by
  induction names generalizing machine location wasMissing with
  | nil => exact ⟨.refl _, _, rfl⟩
  | cons name names ih =>
    rw [makeDirectories]
    split
    next => exact ⟨.refl _, _, rfl⟩
    next inner _ =>
      split
      next => exact ih machine inner wasMissing
      next => exact ⟨.refl _, _, rfl⟩
      next =>
        obtain ⟨keeps, made, same⟩ := ih (machine.makeDirectory inner) inner true
        exact ⟨(keeps_makeDirectory machine inner).trans keeps, made, same⟩

theorem built_makeDirectories {names : List String} {wasMissing : Bool}
    (built : machine.makeDirectories location wasMissing names = (.ok (), after)) :
    machine.Keeps after ∧ ∃ made, after = { machine with made := made } := by
  have keeps := machine.keeps_makeDirectories location wasMissing names
  rwa [built] at keeps

theorem makeDirectories_cons {names : List String} {name : String} {wasMissing : Bool} :
    machine.makeDirectories location wasMissing (name :: names) = (.ok (), after) ↔
      ∃ inner, location.step name = .ok inner ∧
        (machine.entry? inner = some .directory ∧
            machine.makeDirectories inner wasMissing names = (.ok (), after) ∨
          machine.entry? inner = none ∧
            (machine.makeDirectory inner).makeDirectories inner true names = (.ok (), after)) := by
  rw [makeDirectories]
  cases location.step name with
  | error error => simp
  | ok inner =>
    cases entry : machine.entry? inner with
    | none => simp [entry]
    | some held => cases held <;> simp [entry]

private theorem prepare_ok :
    machine.prepare path = (.ok (), after) ↔ (Path.parentNames path).any holdsNull = false ∧
      machine.makeDirectories (machine.start path) false (Path.parentNames path) =
        (.ok (), after) := by
  rw [prepare]
  cases (Path.parentNames path).any holdsNull <;> simp

private theorem keeps_prepare (machine : Machine) (path : String) :
    machine.Keeps (machine.prepare path).2 ∧
      ∃ made, (machine.prepare path).2 = { machine with made := made } := by
  rw [prepare]
  split
  next => exact ⟨.refl _, _, rfl⟩
  next => exact keeps_makeDirectories machine _ _ _

theorem lookup_file (held other : Location) (text : String) (files : List (Location × String)) :
    ((held, text) :: files).lookup other =
      if other = held then some text else files.lookup other := by
  by_cases same : other = held
  · simp [same]
  · have different : (other == held) = false := beq_eq_false_iff_ne.mpr same
    rw [List.lookup_cons, different, if_neg same]

private theorem lookup_setContent (location : Location) (content : String)
    (files : List (Location × String)) (other : Location) :
    (setContent location content files).lookup other =
      if other = location then some content else files.lookup other := by
  induction files with
  | nil =>
    rw [setContent, lookup_file]
  | cons file files ih =>
    obtain ⟨held, old⟩ := file
    rw [setContent]
    split
    next here =>
      subst here
      rw [lookup_file, lookup_file]
      split <;> rfl
    next elsewhere =>
      rw [lookup_file, lookup_file, ih]
      split
      next same =>
        subst same
        rw [if_neg elsewhere]
      next => rfl

private theorem mem_setContent {files : List (Location × String)} {other : Location} :
    other ∈ (setContent location content files).map Prod.fst ↔
      other = location ∨ other ∈ files.map Prod.fst := by
  induction files with
  | nil => simp [setContent]
  | cons file files ih =>
    obtain ⟨held, old⟩ := file
    rw [setContent]
    split
    next here =>
      subst here
      simp
    next =>
      rw [List.map_cons, List.map_cons, List.mem_cons, List.mem_cons, ih]
      exact or_left_comm

def withFile (machine : Machine) (location : Location) (content : String) : Machine :=
  { machine with files := setContent location content machine.files }

theorem content?_withFile (machine : Machine) (location : Location) (content : String)
    (other : Location) :
    (machine.withFile location content).content? other =
      if other = location then some content else machine.content? other :=
  lookup_setContent location content machine.files other

theorem isDirectory_withFile {other : Location} :
    (machine.withFile location content).isDirectory other = true ↔
      machine.isDirectory other = true ∨ other <+: location ∧ other ≠ location := by
  simp only [isDirectory_iff, withFile, mem_setContent, exists_eq_or_imp]
  constructor
  · rintro (working | made | new | held)
    · exact .inl (.inl working)
    · exact .inl (.inr (.inl made))
    · exact .inr new
    · exact .inl (.inr (.inr held))
  · rintro ((working | made | held) | new)
    · exact .inl working
    · exact .inr (.inl made)
    · exact .inr (.inr (.inr held))
    · exact .inr (.inr (.inl new))

/-- A file that takes no directory's place leaves all directories. -/
theorem keeps_withFile (apart : machine.isDirectory location = false) (content : String) :
    machine.Keeps (machine.withFile location content) := by
  intro other held
  obtain ⟨empty, directory⟩ := entry?_directory.mp held
  refine entry?_directory.mpr ⟨?_, isDirectory_withFile.mpr (.inl directory)⟩
  rw [content?_withFile, if_neg, empty]
  rintro rfl
  rw [apart] at directory
  cases directory

private theorem overwrite_ok :
    machine.overwrite path content = .ok after ↔ path.endsWith "/" = false ∧
      ∃ location, machine.locate path = .ok location ∧ machine.isDirectory location = false ∧
        machine.withFile location content = after := by
  rw [overwrite, bind_ok]
  constructor
  · rintro ⟨_, _, written⟩
    split at written
    next => cases written
    next noSlash =>
      obtain ⟨location, found, written⟩ := bind_ok.mp written
      split at written
      next => cases written
      next apart =>
        cases written
        exact ⟨Bool.eq_false_iff.mpr noSlash, location, found, Bool.eq_false_iff.mpr apart, rfl⟩
  · rintro ⟨noSlash, location, found, apart, rfl⟩
    obtain ⟨inner, around, _⟩ := bind_ok.mp found
    refine ⟨inner, around, ?_⟩
    rw [noSlash]
    refine bind_ok.mpr ⟨location, found, ?_⟩
    rw [apart]
    rfl

theorem writeFile_prepared :
    machine.writeFile path content = (.ok (), after) ↔
      ∃ prepared, machine.prepare path = (.ok (), prepared) ∧
        prepared.overwrite path content = .ok after := by
  rw [writeFile]
  obtain ⟨result, prepared⟩ := machine.prepare path
  cases result with
  | error error => simp
  | ok done => cases written : prepared.overwrite path content <;> simp [written]

/-- What a write needs, and what it does. -/
theorem writeFile_ok :
    machine.writeFile path content = (.ok (), after) ↔
      (Path.parentNames path).any holdsNull = false ∧ path.endsWith "/" = false ∧
      ∃ built location,
        machine.makeDirectories (machine.start path) false (Path.parentNames path) =
          (.ok (), built) ∧
        built.locate path = .ok location ∧ built.isDirectory location = false ∧
        built.withFile location content = after := by
  rw [writeFile_prepared]
  constructor
  · rintro ⟨built, made, written⟩
    obtain ⟨proper, made⟩ := prepare_ok.mp made
    obtain ⟨noSlash, location, written⟩ := overwrite_ok.mp written
    exact ⟨proper, noSlash, built, location, made, written⟩
  · rintro ⟨proper, noSlash, built, location, made, written⟩
    exact ⟨built, prepare_ok.mpr ⟨proper, made⟩, overwrite_ok.mpr ⟨noSlash, location, written⟩⟩

theorem readFile_ok {text : String} :
    machine.readFile path = .ok text ↔ path.endsWith "/" = false ∧
      ∃ location, machine.locate path = .ok location ∧ machine.content? location = some text := by
  rw [readFile, bind_ok]
  constructor
  · rintro ⟨location, found, read⟩
    split at read
    next held =>
      split at read
      next => cases read
      next noSlash =>
        cases read
        exact ⟨Bool.eq_false_iff.mpr noSlash, location, found, entry?_file.mp held⟩
    next => cases read
    next => cases read
  · rintro ⟨noSlash, location, found, held⟩
    refine ⟨location, found, ?_⟩
    rw [entry?_file.mpr held]
    dsimp only
    rw [noSlash]
    rfl

/-- No file is different, and every path that a file was read at leads to it. -/
structure SameFiles (machine after : Machine) : Prop where
  files : after.files = machine.files
  read : ∀ path text, machine.readFile path = .ok text → after.readFile path = .ok text

private theorem Keeps.sameFiles {made : List Location}
    (keeps : machine.Keeps { machine with made := made }) :
    SameFiles machine { machine with made := made } where
  files := rfl
  read path text held := by
    obtain ⟨noSlash, location, located, content⟩ := readFile_ok.mp held
    exact readFile_ok.mpr ⟨noSlash, location, keeps.locate rfl located, content⟩

theorem sameFiles_prepare (machine : Machine) (path : String) :
    machine.SameFiles (machine.prepare path).2 := by
  obtain ⟨keeps, made, same⟩ := machine.keeps_prepare path
  rw [same] at keeps ⊢
  exact keeps.sameFiles

/-- A write that fails may leave directories, but no other file. -/
theorem sameFiles_writeFile {error : FileError}
    (failed : machine.writeFile path content = (.error error, after)) :
    machine.SameFiles after := by
  have same := machine.sameFiles_prepare path
  rw [writeFile] at failed
  split at failed
  next prepared =>
    cases failed
    rwa [prepared] at same
  next prepared =>
    rw [prepared] at same
    split at failed
    · cases failed
      exact same
    · cases failed

section
variable (written : machine.writeFile path content = (.ok (), after))

include written

/-- A file that was written is at its path, and every other file is as it was. -/
theorem content?_writeFile :
    ∃ location, after.locate path = .ok location ∧ ∀ other,
      after.content? other = if other = location then some content else machine.content? other := by
  obtain ⟨_, _, built, location, made, found, apart, rfl⟩ := writeFile_ok.mp written
  obtain ⟨_, dirs, rfl⟩ := built_makeDirectories made
  exact ⟨location, (keeps_withFile apart content).locate rfl found,
    content?_withFile _ location content⟩

theorem directory_writeFile : after.directory = machine.directory := by
  obtain ⟨_, _, built, location, made, _, _, rfl⟩ := writeFile_ok.mp written
  obtain ⟨_, dirs, rfl⟩ := built_makeDirectories made
  rfl

theorem readFile_writeFile : after.readFile path = .ok content := by
  obtain ⟨location, found, held⟩ := content?_writeFile written
  obtain ⟨_, noSlash, _⟩ := writeFile_ok.mp written
  exact readFile_ok.mpr ⟨noSlash, location, found, by rw [held, if_pos rfl]⟩

end

/-- No file is where a directory is. -/
def Sound (machine : Machine) : Prop :=
  ∀ location, machine.isDirectory location = true → machine.content? location = none

theorem Sound.entry?_eq (sound : machine.Sound) :
    machine.entry? location = some .directory ↔ machine.isDirectory location = true :=
  entry?_directory.trans ⟨And.right, fun directory => ⟨sound location directory, directory⟩⟩

theorem isDirectory_start (machine : Machine) (path : String) :
    machine.isDirectory (machine.start path) = true := by
  rw [isDirectory_iff, start]
  split
  · exact .inl List.nil_prefix
  · exact .inl List.prefix_rfl

private theorem Sound.makeDirectory (sound : machine.Sound) {inner : Location}
    (new : ∀ outer, outer <+: inner → machine.content? outer = none) :
    (machine.makeDirectory inner).Sound := by
  intro other directory
  rcases isDirectory_makeDirectory.mp directory with inside | before
  · exact new other inside
  · exact sound other before

private theorem Sound.withFile (sound : machine.Sound)
    (apart : machine.isDirectory location = false)
    (inside : ∀ outer, outer <+: location → outer ≠ location → machine.content? outer = none) :
    (machine.withFile location content).Sound := by
  intro other directory
  rw [content?_withFile]
  rcases isDirectory_withFile.mp directory with before | ⟨outer, different⟩
  · rw [if_neg, sound other before]
    rintro rfl
    rw [apart] at before
    cases before
  · rw [if_neg different, inside other outer different]

theorem prefix_of_step {outer inner : Location} {name : String}
    (step : location.step name = .ok inner) (inside : outer <+: inner) :
    outer = inner ∨ outer <+: location := by
  rw [Location.step] at step
  split at step
  next =>
    cases step
    exact .inr inside
  split at step
  next =>
    cases step
    exact .inr (inside.trans (List.dropLast_prefix location))
  split at step
  next => cases step
  next =>
    cases step
    exact List.prefix_concat_iff.mp inside

private theorem isDirectory_walk {start : Location} {names : List String}
    (walked : machine.walk start names = .ok location)
    (directory : machine.isDirectory start = true) : machine.isDirectory location = true := by
  unfold walk at walked
  induction names generalizing start with
  | nil =>
    cases walked
    exact directory
  | cons name names ih =>
    rw [List.foldlM_cons, bind_ok] at walked
    obtain ⟨inner, entered, rest⟩ := walked
    obtain ⟨_, held⟩ := enter_ok.mp entered
    exact ih rest (entry?_directory.mp held).2

theorem isDirectory_around (found : machine.around path = .ok location) :
    machine.isDirectory location = true := by
  obtain ⟨_, _, _, walked⟩ := around_ok.mp found
  exact isDirectory_walk walked (machine.isDirectory_start path)

/-- What a path leads to is a directory, or lies in one under the last name of the path. -/
theorem locate_cases (found : machine.locate path = .ok location) :
    machine.isDirectory location = true ∨ ∃ around name, machine.around path = .ok around ∧
      Path.names path = (Path.names path).dropLast ++ [name] ∧ name ≠ "." ∧
        around.step name = .ok location := by
  obtain ⟨around, there, found⟩ := bind_ok.mp found
  have directory := isDirectory_around there
  cases last : (Path.names path).getLast? with
  | none =>
    rw [last] at found
    cases found
    exact .inl directory
  | some name =>
    rw [last] at found
    by_cases dot : name = "."
    · subst dot
      cases found
      exact .inl directory
    · exact .inr ⟨around, name, there, (List.dropLast_append_getLast? name last).symm, dot, found⟩

namespace Sound

variable (sound : machine.Sound)

include sound

private theorem makeDirectories {names : List String} {wasMissing : Bool}
    (directory : machine.isDirectory location = true)
    (built : machine.makeDirectories location wasMissing names = (.ok (), after)) : after.Sound := by
  induction names generalizing machine location wasMissing with
  | nil =>
    cases built
    exact sound
  | cons name names ih =>
    obtain ⟨inner, step, ⟨held, built⟩ | ⟨missing, built⟩⟩ := makeDirectories_cons.mp built
    · exact ih sound (entry?_directory.mp held).2 built
    · have empty : machine.content? inner = none := by
        cases held : machine.content? inner with
        | none => rfl
        | some text =>
          rw [entry?_file.mpr held] at missing
          cases missing
      refine ih (sound.makeDirectory ?_) (isDirectory_makeDirectory.mpr (.inl List.prefix_rfl)) built
      intro outer inside
      rcases prefix_of_step step inside with rfl | around
      · exact empty
      · exact sound outer (isDirectory_outer around directory)

/-- Writing puts no file in the place of a directory. -/
theorem writeFile (written : machine.writeFile path content = (.ok (), after)) : after.Sound := by
  obtain ⟨_, _, built, location, made, found, apart, rfl⟩ := writeFile_ok.mp written
  have sound := sound.makeDirectories (machine.isDirectory_start path) made
  apply sound.withFile apart
  intro outer inside different
  rcases locate_cases found with directory | ⟨around, name, there, _, _, step⟩
  · rw [apart] at directory
    cases directory
  · rcases prefix_of_step step inside with same | around
    · exact absurd same different
    · exact sound outer (isDirectory_outer around (isDirectory_around there))

end Sound

private theorem makeDirectories_of_walk {start : Location} {names : List String} (wasMissing : Bool)
    (walked : machine.walk start names = .ok location) :
    machine.makeDirectories start wasMissing (names.filter (· != ".")) = (.ok (), machine) := by
  unfold walk at walked
  induction names generalizing start with
  | nil => rfl
  | cons name names ih =>
    rw [List.foldlM_cons, bind_ok] at walked
    obtain ⟨inner, entered, rest⟩ := walked
    obtain ⟨step, held⟩ := enter_ok.mp entered
    by_cases dot : name = "."
    · subst dot
      cases step
      exact ih rest
    · rw [List.filter_cons_of_pos (by simpa using dot)]
      exact makeDirectories_cons.mpr ⟨inner, step, .inl ⟨held, ih rest⟩⟩

theorem holdsNull_iff {text : String} : holdsNull text = false ↔ '\x00' ∉ text.toList := by
  rw [holdsNull, List.contains_eq_mem, decide_eq_false_iff_not]

private theorem holdsNull_names (proper : holdsNull path = false) {name : String}
    (inside : name ∈ Path.names path) : holdsNull name = false := by
  obtain ⟨part, kept, rfl⟩ := List.mem_map.mp inside
  have within := mem_splitWhere (List.mem_filter.mp kept).1
  rw [holdsNull_iff, String.toList_ofList]
  exact fun null => holdsNull_iff.mp proper (within null)

theorem exists_writeFile {text : String} (sound : machine.Sound)
    (held : machine.readFile path = .ok text) (content : String) :
    ∃ after, machine.writeFile path content = (.ok (), after) := by
  obtain ⟨noSlash, location, found, there⟩ := readFile_ok.mp held
  have apart : machine.isDirectory location = false := by
    cases directory : machine.isDirectory location with
    | false => rfl
    | true =>
      rw [sound location directory] at there
      cases there
  rcases locate_cases found with directory | ⟨around, name, outside, names, noDot, _⟩
  · rw [apart] at directory
    cases directory
  · obtain ⟨proper, _, _, walked⟩ := around_ok.mp outside
    have parents : Path.parentNames path = (Path.names path).dropLast.filter (· != ".") := by
      rw [Path.parentNames, names]
      simp [noDot]
    refine ⟨machine.withFile location content,
      writeFile_ok.mpr ⟨?_, noSlash, machine, location, ?_, found, apart, rfl⟩⟩
    · rw [List.any_eq_false]
      intro parent inside
      rw [holdsNull_names proper (List.mem_filter.mp (List.dropLast_subset _ inside)).1]
      exact Bool.false_ne_true
    · rw [parents]
      exact makeDirectories_of_walk false walked

end InterfaceSync.Cli.Machine
