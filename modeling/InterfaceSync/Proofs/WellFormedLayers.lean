import InterfaceSync.Proofs.Layering
import InterfaceSync.Toml.Writer

/-! The layers that are read. Variables and files only yield tables whose keys stand in their order,
and a file holds no whole number that could not be written back. -/

namespace InterfaceSync

open Setting (WellFormed Tidy merge_table tidy_mergeEntries)

namespace Environment

def Anything (_ : Int) : Prop := True

private theorem wellFormed_scalar (text : List Char) : WellFormed Anything (scalar text) := by
  unfold scalar
  dsimp only
  split
  · exact .fraction
  split
  · exact .whole trivial
  · exact .text _

/-- An entry behind its key, and those that follow it. -/
def readBehindKey (fuel : Nat) (key behind : List Char) :
    Option (List (String × Setting) × List Char) :=
  match skipBlanks behind with
  | '=' :: rest => (readValue fuel rest).bind fun (value, rest) =>
    match rest with
    | ',' :: rest => (readEntries fuel rest).bind fun (entries, rest) =>
      pure ((String.ofList key, value) :: entries, rest)
    | '\x7d' :: rest => pure ([(String.ofList key, value)], rest)
    | _ => none
  | _ => none

/-- What the readers yield with some fuel. -/
structure Yields (fuel : Nat) : Prop where
  value : ∀ {text value rest}, readValue fuel text = some (value, rest) → WellFormed Anything value
  items : ∀ {text items rest}, readItems fuel text = some (items, rest) →
    ∀ item ∈ items, WellFormed Anything item
  entries : ∀ {text entries rest}, readEntries fuel text = some (entries, rest) →
    ∀ entry ∈ entries, WellFormed Anything entry.2

namespace Yields

variable {fuel : Nat} (yields : Yields fuel)

include yields

private theorem value_succ {text rest : List Char} {value : Setting}
    (read : readValue (fuel + 1) text = some (value, rest)) : WellFormed Anything value := by
  rw [readValue] at read
  simp only [Option.bind_eq_bind] at read
  split at read
  · cases read
    exact .truth true
  · cases read
    exact .truth false
  · simp only [Option.bind_eq_some_iff, Option.map_eq_some_iff] at read
    obtain ⟨_, ⟨_, _, rfl⟩, result⟩ := read
    cases result
    exact .text _
  · split at read
    · cases read
      exact .text _
    · cases read
  · cases read
  · simp only [Option.bind_eq_some_iff, Option.map_eq_some_iff] at read
    obtain ⟨_, ⟨_, inner, rfl⟩, result⟩ := read
    cases result
    exact .list (yields.items inner)
  · simp only [Option.bind_eq_some_iff, Option.map_eq_some_iff] at read
    obtain ⟨_, ⟨_, inner, rfl⟩, result⟩ := read
    cases result
    exact .table (ordered_sortEntries _) fun entry inside =>
      yields.entries inner entry (mem_sortEntries inside)
  · cases read
    exact wellFormed_scalar _

private theorem items_succ {text rest : List Char} {items : List Setting}
    (read : readItems (fuel + 1) text = some (items, rest)) :
    ∀ item ∈ items, WellFormed Anything item := by
  rw [readItems.eq_def] at read
  split at read
  · cases read
  · cases read
    exact nofun
  next same _ =>
    cases same
    obtain ⟨⟨item, behind⟩, first, read⟩ := Option.bind_eq_some_iff.mp read
    dsimp only at read
    split at read
    · obtain ⟨⟨more, behind⟩, others, result⟩ := Option.bind_eq_some_iff.mp read
      cases result
      exact List.forall_mem_cons.mpr ⟨yields.value first, yields.items others⟩
    · cases read
      exact List.forall_mem_singleton.mpr (yields.value first)
    · cases read

private theorem readEntry {key behind rest : List Char} {entries : List (String × Setting)}
    (read : readBehindKey fuel key behind = some (entries, rest)) :
    ∀ entry ∈ entries, WellFormed Anything entry.2 := by
  unfold readBehindKey at read
  split at read
  · obtain ⟨⟨value, behind⟩, first, read⟩ := Option.bind_eq_some_iff.mp read
    dsimp only at read
    split at read
    · obtain ⟨⟨more, behind⟩, others, result⟩ := Option.bind_eq_some_iff.mp read
      cases result
      exact List.forall_mem_cons.mpr ⟨yields.value first, yields.entries others⟩
    · cases read
      exact List.forall_mem_singleton.mpr (yields.value first)
    · cases read
  · cases read

private theorem entries_succ {text rest : List Char} {entries : List (String × Setting)}
    (read : readEntries (fuel + 1) text = some (entries, rest)) :
    ∀ entry ∈ entries, WellFormed Anything entry.2 := by
  rw [readEntries.eq_def] at read
  split at read
  · cases read
  · cases read
    exact nofun
  next same _ =>
    cases same
    simp only [Option.bind_eq_bind] at read
    split at read
    · obtain ⟨⟨key, behind⟩, _, read⟩ := Option.bind_eq_some_iff.mp read
      exact yields.readEntry read
    · split at read
      · cases read
      · exact yields.readEntry read

end Yields

private theorem yields (fuel : Nat) : Yields fuel := by
  induction fuel with
  | zero => exact ⟨nofun, nofun, nofun⟩
  | succ fuel ih => exact ⟨ih.value_succ, ih.items_succ, ih.entries_succ⟩

theorem wellFormed_value (text : String) : WellFormed Anything (value text) := by
  unfold value
  dsimp only
  split
  next read => exact (yields _).value read
  next => exact .text text

theorem wellFormed_nested (path : List String) {value : Setting}
    (formed : WellFormed Anything value) : WellFormed Anything (.nested path value) := by
  induction path with
  | nil => exact formed
  | cons key path ih =>
    exact .table (List.pairwise_singleton _ _) (List.forall_mem_singleton.mpr ih)

private theorem path?_ne_nil {name : String} {path : List String} (found : path? name = some path) :
    path ≠ [] := by
  unfold path? at found
  dsimp only at found
  split at found
  · split at found
    · cases found
    · rw [← Option.some.inj found]
      simpa using splitWhere_ne_nil _ _
  · cases found

/-- The variables are a table of their own. -/
theorem layer_table (environment : List (String × String)) :
    ∃ entries, layer environment = .table entries ∧ Tidy Anything entries := by
  have start : ∃ entries, Setting.table [] = .table entries ∧ Tidy Anything entries :=
    ⟨[], rfl, .empty⟩
  unfold layer
  generalize Setting.table [] = lowest at start ⊢
  induction environment generalizing lowest with
  | nil => exact start
  | cons head rest ih =>
    obtain ⟨entries, rfl, tidy⟩ := start
    obtain ⟨name, text⟩ := head
    rw [List.foldl_cons]
    apply ih
    dsimp only
    cases found : path? name with
    | none => exact ⟨entries, rfl, tidy⟩
    | some path =>
      obtain ⟨key, path, rfl⟩ := List.exists_cons_of_ne_nil (path?_ne_nil found)
      have formed := wellFormed_nested (key :: path) (wellFormed_value text)
      exact ⟨_, merge_table entries _, tidy_mergeEntries tidy formed⟩

/-- Variables that are for no settings say nothing. -/
theorem layer_unrelated {environment : List (String × String)}
    (unrelated : ∀ entry ∈ environment, path? entry.1 = none) :
    layer environment = .table [] := by
  unfold layer
  generalize Setting.table [] = start
  induction environment with
  | nil => rfl
  | cons head rest ih =>
    obtain ⟨name, text⟩ := head
    have absent : path? name = none := unrelated (name, text) List.mem_cons_self
    rw [List.foldl_cons]
    simp only [absent]
    exact ih fun other inside => unrelated other (List.mem_cons_of_mem _ inside)

end Environment

namespace Toml

/-- A file can hold the number. -/
def InFile (value : Int) : Prop := value ≤ maxWhole

theorem inFile_of_bounded {value result : Int} (bounded : bounded? value = some result) :
    InFile result := by
  unfold bounded? at bounded
  split at bounded
  next inside =>
    cases bounded
    exact inside.2
  next => cases bounded

private theorem inFile_of_readDecimal {text rest : List Char} {value : Int}
    (read : readDecimal text = some (.whole value, rest)) : InFile value := by
  simp only [readDecimal, Option.bind_eq_bind, Option.bind_eq_some_iff] at read
  obtain ⟨⟨digits, _⟩, _, ⟨places, _⟩, _, ⟨power, _⟩, _, read⟩ := read
  dsimp only at read
  split at read
  · obtain ⟨number, bounded, result⟩ := Option.bind_eq_some_iff.mp read
    cases result
    exact inFile_of_bounded bounded
  · split at read <;> cases read

private theorem inFile_of_readBased {base : Nat} {isDigit : Char → Bool} {text rest : List Char}
    {value : Int} (read : readBased base isDigit text = some (.whole value, rest)) :
    InFile value := by
  simp only [readBased, Option.bind_eq_bind, Option.bind_eq_some_iff] at read
  obtain ⟨_, _, number, bounded, result⟩ := read
  cases result
  exact inFile_of_bounded bounded

private theorem inFile_of_readNumber {text rest : List Char} {value : Int}
    (read : readNumber text = some (.whole value, rest)) : InFile value := by
  unfold readNumber at read
  split at read
  · exact inFile_of_readBased read
  · exact inFile_of_readBased read
  · exact inFile_of_readBased read
  · split at read
    · cases read
    · cases read
    · exact inFile_of_readDecimal read

private theorem wellFormed_readScalar {text rest : List Char} {value : Setting}
    (read : readScalar text = some (value, rest)) : WellFormed InFile value := by
  unfold readScalar at read
  split at read
  · obtain ⟨_, _, result⟩ := Option.map_eq_some_iff.mp read
    cases result
    exact .text _
  · obtain ⟨_, _, result⟩ := Option.map_eq_some_iff.mp read
    cases result
    exact .text _
  · cases read
    exact .truth true
  · cases read
    exact .truth false
  · split at read
    · obtain ⟨_, _, result⟩ := Option.map_eq_some_iff.mp read
      cases result
      exact .table (List.pairwise_singleton _ _) (List.forall_mem_singleton.mpr (.text _))
    · obtain ⟨⟨numeral, _⟩, number, result⟩ := Option.map_eq_some_iff.mp read
      cases result
      cases numeral with
      | whole value => exact .whole (inFile_of_readNumber number)
      | fraction => exact .fraction

inductive Node.Formed : Node → Prop
  | value {setting : Setting} : WellFormed InFile setting → Formed (.value setting)
  | table {origin : Origin} {entries : Entries} : Ordered entries →
      (∀ entry ∈ entries, Formed entry.2) → Formed (.table origin entries)
  | tables {closed : List Entries} {newest : Entries} :
      (∀ entries ∈ closed, Ordered entries) →
      (∀ entries ∈ closed, ∀ entry ∈ entries, Formed entry.2) →
      Ordered newest → (∀ entry ∈ newest, Formed entry.2) → Formed (.tables closed newest)

structure Entries.Formed (entries : Entries) : Prop where
  ordered : Ordered entries
  each : ∀ entry ∈ entries, Node.Formed entry.2

theorem Entries.Formed.empty : Entries.Formed [] :=
  ⟨.nil, nofun⟩

theorem Entries.Formed.insert {entries : Entries} (formed : entries.Formed) (key : String)
    {node : Node} (formed' : node.Formed) : Entries.Formed (insertEntry key node entries) := by
  refine ⟨ordered_insertEntry key node formed.ordered, ?_⟩
  intro entry inside
  rcases mem_insertEntry inside with rfl | before
  · exact formed'
  · exact formed.each entry before

theorem Entries.Formed.lookup {entries : Entries} (formed : entries.Formed) {key : String}
    {node : Node} (found : entries.lookup key = some node) : node.Formed :=
  formed.each _ (lookup_mem found)

private theorem closeEntries_eq (entries : Entries) :
    Node.closeEntries entries = entries.map fun entry => (entry.1, entry.2.close) := by
  induction entries with
  | nil => rfl
  | cons head rest ih =>
    rw [List.map_cons, ← ih]
    rfl

private theorem closeAll_eq (closed : List Entries) :
    Node.closeAll closed = closed.map fun entries => .table (Node.closeEntries entries) := by
  induction closed with
  | nil => rfl
  | cons head rest ih =>
    rw [List.map_cons, ← ih]
    rfl

theorem tidy_close {entries : Entries} (ordered : Ordered entries)
    (each : ∀ entry ∈ entries, WellFormed InFile entry.2.close) :
    Tidy InFile (Node.closeEntries entries) := by
  rw [closeEntries_eq]
  refine .table (List.pairwise_map.mpr ordered) ?_
  intro entry inside
  obtain ⟨source, member, rfl⟩ := List.mem_map.mp inside
  exact each source member

theorem Node.Formed.close {node : Node} (formed : node.Formed) : WellFormed InFile node.close := by
  induction formed with
  | value formed => exact formed
  | table ordered _ each => exact tidy_close ordered each
  | @tables closed newest ordered _ ordered' _ each each' =>
    rw [Node.close]
    refine .list ?_
    intro item inside
    rcases List.mem_append.mp inside with before | last
    · rw [closeAll_eq] at before
      obtain ⟨entries, member, rfl⟩ := List.mem_map.mp before
      exact tidy_close (ordered entries member) (each entries member)
    · rw [List.mem_singleton.mp last]
      exact tidy_close ordered' each'

theorem Node.Formed.changeOpen {change : Entries → Option Entries}
    (keeps : ∀ {entries result}, Entries.Formed entries → change entries = some result →
      Entries.Formed result) {node result : Node} (formed : node.Formed)
    (changed : node.changeOpen change = some result) : result.Formed := by
  cases formed with
  | value => cases changed
  | table ordered each =>
    obtain ⟨entries, inner, rfl⟩ := Option.map_eq_some_iff.mp changed
    obtain ⟨ordered, each⟩ := keeps ⟨ordered, each⟩ inner
    exact .table ordered each
  | tables ordered each ordered' each' =>
    obtain ⟨entries, inner, rfl⟩ := Option.map_eq_some_iff.mp changed
    obtain ⟨ordered', each'⟩ := keeps ⟨ordered', each'⟩ inner
    exact .tables ordered each ordered' each'

theorem Entries.Formed.changeAt {change : Option Node → Option Node}
    (keeps : ∀ {node result}, (∀ held ∈ node, Node.Formed held) → change node = some result →
      Node.Formed result) {path : List String} {entries result : Entries}
    (formed : entries.Formed) (changed : changeAt change path entries = some result) :
    result.Formed := by
  induction path generalizing entries result with
  | nil => cases changed
  | cons key path ih =>
    match path with
    | [] =>
      simp only [Toml.changeAt, Option.bind_eq_bind, Option.bind_eq_some_iff] at changed
      obtain ⟨node, changed, result⟩ := changed
      cases result
      exact formed.insert key (keeps (fun held found => formed.lookup found) changed)
    | next :: path =>
      simp only [Toml.changeAt, Option.bind_eq_bind, Option.bind_eq_some_iff] at changed
      obtain ⟨node, changed, result⟩ := changed
      cases result
      apply formed.insert key
      apply Node.Formed.changeOpen (fun formed changed => ih formed changed) _ changed
      cases found : entries.lookup key with
      | none => exact .table .nil nofun
      | some node => exact formed.lookup found

theorem Entries.Formed.assign {value : Setting} (wellFormed : WellFormed InFile value)
    {path : List String} {entries result : Entries} (formed : entries.Formed)
    (assigned : assign value path entries = some result) : result.Formed := by
  induction path generalizing entries result with
  | nil => cases assigned
  | cons key path ih =>
    match path with
    | [] =>
      rw [Toml.assign] at assigned
      split at assigned
      · cases assigned
      · cases assigned
        exact formed.insert key (.value wellFormed)
    | next :: path =>
      rw [Toml.assign] at assigned
      · split at assigned
        · obtain ⟨node, changed, result⟩ := Option.bind_eq_some_iff.mp assigned
          cases result
          apply formed.insert key
          apply Node.Formed.changeOpen (fun formed changed => ih formed changed) _ changed
          cases found : entries.lookup key with
          | none => exact .table .nil nofun
          | some node => exact formed.lookup found
        · cases assigned
      · exact nofun

private theorem Entries.Formed.openTable {path : List String} {root result : Entries}
    (formed : root.Formed) (opened : openTable path root = some result) : result.Formed := by
  refine formed.changeAt ?_ opened
  intro node result held changed
  split at changed
  · cases changed
    exact .table .nil nofun
  · cases changed
    cases held _ rfl with
    | table ordered each => exact .table ordered each
  · cases changed

private theorem Entries.Formed.openItem {path : List String} {root result : Entries}
    (formed : root.Formed) (opened : openItem path root = some result) : result.Formed := by
  refine formed.changeAt ?_ opened
  intro node result held changed
  split at changed
  · cases changed
    exact .tables nofun nofun .nil nofun
  · cases changed
    cases held _ rfl with
    | tables ordered each ordered' each' =>
      refine .tables ?_ ?_ .nil nofun
      · exact List.forall_mem_append.mpr ⟨ordered, List.forall_mem_singleton.mpr ordered'⟩
      · exact List.forall_mem_append.mpr ⟨each, List.forall_mem_singleton.mpr each'⟩
  · cases changed

private theorem Entries.Formed.changeTable {change : Entries → Option Entries}
    (keeps : ∀ {entries result}, Entries.Formed entries → change entries = some result →
      Entries.Formed result) {header : List String} {root result : Entries} (formed : root.Formed)
    (changed : changeTable header change root = some result) : result.Formed := by
  rw [Toml.changeTable] at changed
  split at changed
  · exact keeps formed changed
  · refine formed.changeAt ?_ changed
    intro node result held changed
    obtain ⟨found, present, changed⟩ := Option.bind_eq_some_iff.mp changed
    exact (held found present).changeOpen keeps changed

/-- What the readers yield with some fuel. -/
structure Yields (fuel : Nat) : Prop where
  value : ∀ {depth text value rest}, readValue depth fuel text = some (value, rest) →
    WellFormed InFile value
  items : ∀ {depth text items rest}, readItems depth fuel text = some (items, rest) →
    ∀ item ∈ items, WellFormed InFile item
  entries : ∀ {depth entries text result rest}, Entries.Formed entries →
    readEntries depth fuel entries text = some (result, rest) → Entries.Formed result

namespace Yields

variable {fuel : Nat} (yields : Yields fuel)

include yields

private theorem value_succ {depth : Nat} {text rest : List Char} {value : Setting}
    (read : readValue depth (fuel + 1) text = some (value, rest)) : WellFormed InFile value := by
  rw [readValue.eq_def] at read
  dsimp only at read
  split at read
  · split at read
    · cases read
    · obtain ⟨_, inner, result⟩ := Option.map_eq_some_iff.mp read
      cases result
      exact .list (yields.items inner)
  · split at read
    · cases read
    · split at read
      · cases read
        exact .table .nil nofun
      · obtain ⟨⟨entries, _⟩, inner, result⟩ := Option.bind_eq_some_iff.mp read
        cases result
        obtain ⟨ordered, each⟩ := yields.entries .empty inner
        exact tidy_close ordered fun entry inside => (each entry inside).close
  · exact wellFormed_readScalar read

private theorem items_succ {depth : Nat} {text rest : List Char} {items : List Setting}
    (read : readItems depth (fuel + 1) text = some (items, rest)) :
    ∀ item ∈ items, WellFormed InFile item := by
  rw [readItems] at read
  split at read
  · cases read
    exact nofun
  · obtain ⟨⟨item, behind⟩, first, read⟩ := Option.bind_eq_some_iff.mp read
    dsimp only at read
    split at read
    · obtain ⟨⟨more, behind⟩, others, result⟩ := Option.bind_eq_some_iff.mp read
      cases result
      exact List.forall_mem_cons.mpr ⟨yields.value first, yields.items others⟩
    · cases read
      exact List.forall_mem_singleton.mpr (yields.value first)
    · cases read

private theorem entries_succ {depth : Nat} {entries result : Entries} {text rest : List Char}
    (formed : entries.Formed)
    (read : readEntries depth (fuel + 1) entries text = some (result, rest)) : result.Formed := by
  simp only [readEntries, Option.bind_eq_bind, Option.bind_eq_some_iff] at read
  obtain ⟨⟨path, behind⟩, _, equals, _, ⟨value, more⟩, first, assigned, assigns, read⟩ := read
  have formed' := formed.assign (yields.value first) assigns
  dsimp only at read
  split at read
  · exact yields.entries formed' read
  · cases read
    exact formed'
  · cases read

end Yields

private theorem yields (fuel : Nat) : Yields fuel := by
  induction fuel with
  | zero => exact ⟨nofun, nofun, nofun⟩
  | succ fuel ih => exact ⟨ih.value_succ, ih.items_succ, ih.entries_succ⟩

private theorem formed_readHeader {progress next : Progress} {text rest : List Char}
    (formed : progress.root.Formed) (read : readHeader progress text = some (next, rest)) :
    next.root.Formed := by
  unfold readHeader at read
  split at read
  · simp only [Option.bind_eq_bind, Option.bind_eq_some_iff] at read
    obtain ⟨⟨path, behind⟩, _, first, _, second, _, root, opened, result⟩ := read
    cases result
    exact formed.openItem opened
  · simp only [Option.bind_eq_bind, Option.bind_eq_some_iff] at read
    obtain ⟨⟨path, behind⟩, _, first, _, root, opened, result⟩ := read
    cases result
    exact formed.openTable opened

private theorem formed_readAssignment {progress next : Progress} {text rest : List Char}
    (formed : progress.root.Formed) (read : readAssignment progress text = some (next, rest)) :
    next.root.Formed := by
  simp only [readAssignment, Option.bind_eq_bind, Option.bind_eq_some_iff] at read
  obtain ⟨⟨path, behind⟩, _, equals, _, ⟨value, more⟩, first, root, assigned, result⟩ := read
  cases result
  exact formed.changeTable (fun formed => formed.assign ((yields _).value first)) assigned

private theorem formed_readLine {progress next : Progress} {text rest : List Char}
    (formed : progress.root.Formed) (read : readLine progress text = some (next, rest)) :
    next.root.Formed := by
  unfold readLine at read
  split at read
  · cases read
    exact formed
  · cases read
    exact formed
  · cases read
    exact formed
  · cases read
    exact formed
  · exact formed_readHeader formed read
  · exact formed_readAssignment formed read

private theorem formed_readFile {fuel : Nat} {progress last : Progress} {text : List Char}
    (formed : progress.root.Formed) (read : readFile fuel progress text = some last) :
    last.root.Formed := by
  induction fuel generalizing progress text with
  | zero =>
    cases text with
    | nil =>
      cases read
      exact formed
    | cons c text => cases read
  | succ fuel ih =>
    cases text with
    | nil =>
      cases read
      exact formed
    | cons c text =>
      simp only [readFile, Option.bind_eq_bind, Option.bind_eq_some_iff] at read
      obtain ⟨⟨next, rest⟩, line, behind, _, read⟩ := read
      exact ih (formed_readLine formed line) read

/-- A file is a table. -/
theorem parse?_table {text : String} {layer : Setting} (parsed : parse? text = some layer) :
    ∃ entries, layer = .table entries ∧ Tidy InFile entries := by
  obtain ⟨progress, read, rfl⟩ := Option.map_eq_some_iff.mp parsed
  obtain ⟨ordered, each⟩ := formed_readFile .empty read
  exact ⟨_, rfl, tidy_close ordered fun entry inside => (each entry inside).close⟩

end Toml

end InterfaceSync
