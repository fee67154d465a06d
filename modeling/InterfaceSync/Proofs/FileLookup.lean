import InterfaceSync.Proofs.MachineFiles
import InterfaceSync.Proofs.MachineRuns

/-! Looking for a file of settings. A relative path is looked for in the working directory before it
is looked for in those around, so a file that was written there is the one that is found. -/

namespace InterfaceSync

namespace Path

theorem endsWith_slash {path : String} :
    path.endsWith "/" = true ↔ ∃ before, path = before ++ "/" := by
  rw [← String.endsWith_toSlice, String.Slice.endsWith_string_iff, String.copy_toSlice]
  constructor
  · rintro ⟨before, same⟩
    refine ⟨.ofList before, String.toList_inj.mp ?_⟩
    simpa using same.symm
  · rintro ⟨before, rfl⟩
    exact ⟨before.toList, by simp⟩

theorem names_append (before behind : String) :
    names (before ++ "/" ++ behind) = names before ++ names behind := by
  have parts : (before ++ "/" ++ behind).toList = before.toList ++ '/' :: behind.toList := by
    simp
  rw [names, parts, splitWhere_append rfl, List.filter_append, List.map_append]
  rfl

private theorem names_join (directory : String) {path : String} (relative : isAbsolute path = false)
    : names (join directory path) = names directory ++ names path := by
  rw [join, relative]
  cases empty : directory.isEmpty with
  | true =>
    rw [String.isEmpty_iff.mp empty]
    rfl
  | false =>
    rw [if_neg (by simp)]
    split
    next slash =>
      obtain ⟨before, rfl⟩ := endsWith_slash.mp slash
      have whole : names (before ++ "/" ++ "") = names before ++ [] := names_append before ""
      rw [String.append_empty, List.append_nil] at whole
      rw [names_append, whole]
    next => exact names_append directory path

private theorem join_relative (directory : String) {path : String}
    (filled : directory.isEmpty = false) (relative : isAbsolute path = false) :
    ∃ between, (between = "" ∨ between = "/") ∧
      join directory path = directory ++ between ++ path := by
  rw [join, relative, filled, if_neg (by simp)]
  split
  · exact ⟨"", .inl rfl, by rw [String.append_empty]⟩
  · exact ⟨"/", .inr rfl, rfl⟩

theorem isAbsolute_root (text : String) : isAbsolute ("/" ++ text) = true := by
  rw [isAbsolute, String.startsWith_string_iff, String.toList_append]
  exact List.prefix_append _ _

theorem endsWith_append {before path : String} (filled : path.isEmpty = false) :
    (before ++ path).endsWith "/" = path.endsWith "/" := by
  have some : path.toList ≠ [] := by
    intro none
    rw [String.toList_eq_nil_iff.mp none] at filled
    cases filled
  rw [← String.endsWith_toSlice, ← String.endsWith_toSlice, Bool.eq_iff_iff,
    String.Slice.endsWith_string_iff, String.Slice.endsWith_string_iff, String.copy_toSlice,
    String.copy_toSlice, String.toList_append]
  change ['/'] <:+ _ ↔ ['/'] <:+ _
  rw [List.singleton_suffix_iff_getLast?_eq_some, List.singleton_suffix_iff_getLast?_eq_some,
    List.getLast?_append_of_ne_nil _ some]

private theorem names_whole {name : String} (filled : name ≠ "") (whole : '/' ∉ name.toList) :
    names name = [name] := by
  have apart : ∀ c ∈ name.toList, (c == '/') = false := by
    intro c inside
    exact beq_false_of_ne fun same => whole (same ▸ inside)
  rw [names, splitWhere_whole apart]
  simp [filled]

end Path

namespace Cli

/-- A directory can have the name. -/
structure Location.Named (name : String) : Prop where
  filled : name ≠ ""
  noDot : name ≠ "."
  noDots : name ≠ ".."
  whole : '/' ∉ name.toList
  proper : '\x00' ∉ name.toList
  short : name.utf8ByteSize ≤ nameLimit

namespace Location

theorem toPath_concat (outer : Location) (name : String) :
    ∃ before, toPath (outer ++ [name]) = before ++ name := by
  have ends : ∃ before, "/".intercalate (outer ++ [name]) = before ++ name := by
    induction outer with
    | nil => exact ⟨"", by rw [List.nil_append, String.intercalate_singleton, String.empty_append]⟩
    | cons first rest ih =>
      obtain ⟨before, same⟩ := ih
      obtain ⟨second, more, next⟩ := List.exists_cons_of_ne_nil (List.concat_ne_nil name rest)
      rw [List.cons_append, next, String.intercalate_cons_cons, ← next, same]
      exact ⟨first ++ "/" ++ before, String.append_assoc.symm⟩
  obtain ⟨before, same⟩ := ends
  exact ⟨"/" ++ before, by rw [toPath, same, String.append_assoc]⟩

theorem Named.step {name : String} (fine : Named name) (location : Location) :
    location.step name = .ok (location ++ [name]) := by
  have short : ¬ nameLimit < name.utf8ByteSize := Nat.not_lt.mpr fine.short
  simp [Location.step, fine.noDot, fine.noDots, short]

variable {location : Location} (named : ∀ name ∈ location, Named name)

include named

theorem names_toPath : Path.names location.toPath = location := by
  cases location with
  | nil => decide +kernel
  | cons first rest =>
    have whole (name : String) (inside : name ∈ first :: rest) : Path.names name = [name] :=
      Path.names_whole (named name inside).filled (named name inside).whole
    have rooted := Path.names_append "" ("/".intercalate (first :: rest))
    have outside : Path.names "" = [] := by decide +kernel
    rw [String.empty_append, outside, List.nil_append] at rooted
    rw [toPath, rooted]
    clear named rooted
    induction rest generalizing first with
    | nil => rw [String.intercalate_singleton, whole first List.mem_cons_self]
    | cons second rest ih =>
      rw [String.intercalate_cons_cons, Path.names_append, whole first List.mem_cons_self,
        ih second fun name inside => whole name (List.mem_cons_of_mem _ inside)]
      rfl

theorem null_toPath : '\x00' ∉ location.toPath.toList := by
  have proper (name : String) (inside : name ∈ location) : '\x00' ∉ name.toList :=
    (named name inside).proper
  rw [toPath, String.toList_append, List.mem_append]
  clear named
  rintro (slash | null)
  · revert slash
    decide
  · induction location with
    | nil => cases null
    | cons first rest ih =>
      cases rest with
      | nil =>
        rw [String.intercalate_singleton] at null
        exact proper first List.mem_cons_self null
      | cons second rest =>
        rw [String.intercalate_cons_cons] at null
        simp only [String.toList_append, List.mem_append] at null
        rcases null with (null | slash) | null
        · exact proper first List.mem_cons_self null
        · revert slash
          decide
        · exact ih (fun name inside => proper name (List.mem_cons_of_mem _ inside)) null

end Location

namespace Machine

variable {machine : Machine} {environment : List (String × String)} {path : String}

/-- Names lead to a location through the directories around it. -/
theorem walk_named {location : Location} (named : ∀ name ∈ location, Location.Named name)
    (held : ∀ outer, outer <+: location → machine.entry? outer = some .directory) :
    machine.walk [] location = .ok location := by
  suffices inwards : ∀ inner outer, outer ++ inner = location →
      machine.walk outer inner = .ok location from inwards location [] rfl
  intro inner
  induction inner with
  | nil =>
    rintro outer same
    rw [List.append_nil] at same
    rw [← same]
    rfl
  | cons name inner ih =>
    intro outer same
    have step : outer ++ [name] ++ inner = location := by simpa using same
    have fine : Location.Named name := named name (by simp [← same])
    rw [walk, List.foldlM_cons, bind_ok]
    exact ⟨outer ++ [name], enter_ok.mpr ⟨fine.step outer, held _ ⟨inner, step⟩⟩, ih _ step⟩

theorem walk_directory (sound : machine.Sound)
    (named : ∀ name ∈ machine.directory, Location.Named name) :
    machine.walk [] machine.directory = .ok machine.directory :=
  walk_named named fun _ inside => sound.entry?_eq.mpr (isDirectory_iff.mpr (.inl inside))

private theorem readFile_joined (sound : machine.Sound)
    (named : ∀ name ∈ machine.directory, Location.Named name)
    (relative : Path.isAbsolute path = false)
    (short : (Path.join machine.directory.toPath path).utf8ByteSize ≤ pathLimit) {text : String}
    (held : machine.readFile path = .ok text) :
    machine.readFile (Path.join machine.directory.toPath path) = .ok text := by
  obtain ⟨noSlash, location, located, content⟩ := readFile_ok.mp held
  rcases locate_cases located with directory | ⟨around, name, found, names, noDot, step⟩
  · rw [sound location directory] at content
    cases content
  obtain ⟨proper, filled, _, walked⟩ := around_ok.mp found
  rw [start, relative, if_neg Bool.false_ne_true] at walked
  let joined := Path.join machine.directory.toPath path
  have joinedNames : Path.names joined = machine.directory ++ Path.names path := by
    rw [Path.names_join _ relative, Location.names_toPath named]
  have rooted (text : String) : ("/" ++ text).isEmpty = false := by simp
  obtain ⟨between, within, same⟩ := Path.join_relative machine.directory.toPath (rooted _)
    relative
  have root : joined = "/" ++ ("/".intercalate machine.directory ++ between ++ path) := by
    simp only [joined, same, Location.toPath, String.append_assoc]
  have proper' : holdsNull joined = false := by
    rw [holdsNull_iff] at proper ⊢
    have noNull : '\x00' ∉ between.toList := by rcases within with rfl | rfl <;> decide
    simp [joined, same, Location.null_toPath named, noNull, proper]
  have around' : machine.around joined = .ok around := by
    rw [around_ok, start, root, Path.isAbsolute_root, ← root, if_pos rfl, joinedNames]
    refine ⟨proper', ?_, short, ?_⟩
    · rw [root, rooted]
    · rw [names, ← List.append_assoc, List.dropLast_concat, walk, List.foldlM_append]
      exact bind_ok.mpr ⟨_, walk_directory sound named, walked⟩
  refine readFile_ok.mpr ⟨?_, location, bind_ok.mpr ⟨around, around', ?_⟩, content⟩
  · rw [same, Path.endsWith_append filled]
    exact noSlash
  · have last : (Path.names joined).getLast? = some name := by
      rw [joinedNames, names, ← List.append_assoc, List.getLast?_concat]
    rw [last]
    exact step

/-- A file that a path leads to is found where the path is looked for first. -/
def LooksHere (origin machine : Machine) (environment : List (String × String)) (path : String) :
    Prop :=
  ∀ first ∈ ((origin.host environment).candidates path).head?, ∀ text,
    machine.readFile path = .ok text → machine.readFile first = .ok text

variable {origin : Machine}

theorem looksHere_absolute (absolute : Path.isAbsolute path = true) :
    LooksHere origin machine environment path := by
  intro first found text held
  rw [Host.candidates, absolute] at found
  cases found
  exact held

private theorem looksHere_relative (sound : machine.Sound)
    (same : origin.directory = machine.directory)
    (named : ∀ name ∈ machine.directory, Location.Named name)
    (relative : Path.isAbsolute path = false)
    (short : (Path.join machine.directory.toPath path).utf8ByteSize ≤ pathLimit) :
    LooksHere origin machine environment path := by
  intro first found text held
  have innermost : ((origin.host environment).candidates path).head? =
      some (Path.join machine.directory.toPath path) := by
    rw [Host.candidates, relative]
    simp [host, Location.outwards, List.range_succ, same]
  rw [innermost] at found
  cases found
  exact readFile_joined sound named relative short held

/-- A path leads to the place where it is looked for first. A relative one does if the names of the
working directory lead to that directory, and if it is not too long behind them. -/
def Reaches (machine : Machine) (path : String) : Prop :=
  Path.isAbsolute path = true ∨
    machine.Sound ∧ (∀ name ∈ machine.directory, Location.Named name) ∧
      (Path.join machine.directory.toPath path).utf8ByteSize ≤ pathLimit

theorem Reaches.looksHere {after : Machine} (reaches : machine.Reaches path)
    (sound : machine.Sound → after.Sound) (same : after.directory = machine.directory)
    (start : origin.directory = machine.directory) : LooksHere origin after environment path := by
  rcases reaches with absolute | ⟨whole, named, short⟩
  · exact looksHere_absolute absolute
  cases absolute : Path.isAbsolute path with
  | true => exact looksHere_absolute absolute
  | false =>
    rw [← same] at named short
    exact looksHere_relative (sound whole) (start.trans same.symm) named absolute short

theorem settingsText_of_readFile {text : String}
    (here : LooksHere origin machine environment path) (held : machine.readFile path = .ok text) :
    settingsText origin machine environment path = some text := by
  obtain ⟨first, rest, candidates⟩ :
      ∃ first rest, (origin.host environment).candidates path = first :: rest := by
    apply List.exists_cons_of_ne_nil
    rw [Host.candidates]
    split
    · exact List.cons_ne_nil _ _
    · simp [host, Location.outwards]
  have read := here first (by rw [candidates]; rfl) text held
  rw [settingsText, firstText, candidates, List.findSome?_cons, read]
  rfl

end Machine

end Cli

end InterfaceSync
