import InterfaceSync.Proofs.TomlText

/-! Files of settings read back. A file is followed line by line, with the table that each header
opens filled by the lines below it, so what is written for settings is read as the layer of those
settings. -/

namespace InterfaceSync

theorem insertEntry_insertEntry {α : Type} (name : String) (first second : α)
    (entries : List (String × α)) :
    insertEntry name second (insertEntry name first entries) = insertEntry name second entries := by
  induction entries with
  | nil => simp [insertEntry]
  | cons head rest ih =>
    obtain ⟨other, old⟩ := head
    by_cases less : name < other
    · simp [insertEntry, less]
    · by_cases same : name = other
      · simp [insertEntry, same]
      · simp [insertEntry, less, same, ih]

namespace Toml

theorem closeEntries_insertEntry (key : String) (node : Node) (entries : Entries) :
    Node.closeEntries (insertEntry key node entries) =
      insertEntry key node.close (Node.closeEntries entries) := by
  induction entries with
  | nil => rfl
  | cons head rest ih =>
    obtain ⟨other, old⟩ := head
    simp only [insertEntry, Node.closeEntries]
    split
    · rfl
    split
    · rfl
    · rw [← ih]
      rfl

private theorem writeKey_head (key : List Char) :
    ∃ c more, writeKey key = c :: more ∧ (isBare c = true ∨ c = '"' ∨ c = '\'') := by
  unfold writeKey
  split
  next bare =>
    simp only [Bool.and_eq_true, Bool.not_eq_true', List.isEmpty_eq_false_iff,
      List.all_eq_true] at bare
    match key with
    | [] => exact absurd rfl bare.1
    | c :: key => exact ⟨c, key, rfl, .inl (bare.2 c List.mem_cons_self)⟩
  repeat' split
  all_goals first
    | exact ⟨'"', _, rfl, .inr (.inl rfl)⟩
    | exact ⟨'\'', _, rfl, .inr (.inr rfl)⟩

theorem writeKey_starts (key : List Char) :
    ∃ c more, writeKey key = c :: more ∧ isSpace c = false ∧ c ≠ '[' ∧ c ≠ '#' ∧ c ≠ '\n' ∧
      c ≠ '\r' := by
  obtain ⟨c, more, starts, bare | rfl | rfl⟩ := writeKey_head key
  · refine ⟨c, more, starts, ?_, ?_, ?_, ?_, ?_⟩
    · cases space : isSpace c with
      | false => rfl
      | true =>
        simp only [isSpace, Bool.or_eq_true, beq_iff_eq] at space
        rcases space with rfl | rfl <;> cases bare
    all_goals
      rintro rfl
      cases bare
  · exact ⟨_, more, starts, by decide⟩
  · exact ⟨_, more, starts, by decide⟩

theorem skipSpaces_cons {c : Char} (printed : isSpace c = false) (text : List Char) :
    skipSpaces (c :: text) = c :: text := by
  simp [skipSpaces, printed]

private theorem skipSpaces_writeKey (key rest : List Char) :
    skipSpaces (writeKey key ++ rest) = writeKey key ++ rest := by
  obtain ⟨c, more, starts, printed, _⟩ := writeKey_starts key
  rw [starts]
  exact skipSpaces_cons printed _

def pathText (path : List String) : List Char :=
  ['.'].intercalate (path.map fun key => writeKey key.toList)

theorem pathText_cons (key next : String) (path : List String) :
    pathText (key :: next :: path) = writeKey key.toList ++ '.' :: pathText (next :: path) := by
  simp [pathText, List.intercalate]

private theorem pathText_starts {path : List String} (filled : path ≠ []) :
    ∃ c more, pathText path = c :: more ∧ isSpace c = false ∧ c ≠ '[' ∧ c ≠ '#' ∧ c ≠ '\n' ∧
      c ≠ '\r' := by
  match path with
  | [] => exact absurd rfl filled
  | [key] =>
    have single : pathText [key] = writeKey key.toList := by simp [pathText]
    rw [single]
    exact writeKey_starts key.toList
  | key :: next :: path =>
    obtain ⟨c, more, starts, other⟩ := writeKey_starts key.toList
    exact ⟨c, _, by rw [pathText_cons, starts]; rfl, other⟩

theorem readPath_pathText {path : List String} (filled : path ≠ []) {fuel : Nat}
    (short : path.length ≤ fuel) {rest : List Char} (ends : ∀ c ∈ rest.head?, isBare c = false)
    (stops : ∀ more, skipSpaces rest ≠ '.' :: more) :
    readPath fuel (pathText path ++ rest) = some (path, skipSpaces rest) := by
  induction path generalizing fuel with
  | nil => exact absurd rfl filled
  | cons key path ih =>
    obtain ⟨fuel, rfl⟩ : ∃ more, fuel = more + 1 := ⟨fuel - 1, by simp at short; omega⟩
    match path with
    | [] =>
      have single : pathText [key] = writeKey key.toList := by simp [pathText]
      rw [single, readPath, skipSpaces_writeKey, readKey_writeKey _ ends]
      simp only [Option.bind_eq_bind, Option.bind_some, String.ofList_toList]
      rfl
    | next :: path =>
      have inner := ih (List.cons_ne_nil _ _) (Nat.le_of_succ_le_succ short)
      have dot : skipSpaces ('.' :: (pathText (next :: path) ++ rest)) =
          '.' :: (pathText (next :: path) ++ rest) := skipSpaces_cons rfl _
      rw [pathText_cons, List.append_assoc, List.cons_append, readPath, skipSpaces_writeKey,
        readKey_writeKey]
      · simp only [Option.bind_eq_bind, Option.bind_some, String.ofList_toList, dot, inner]
        rfl
      · rintro _ ⟨⟩
        rfl

/-- The text of an assignment, up to the end of its line. -/
theorem assignmentLine_append (key : String) (value rest : List Char) :
    assignmentLine key value ++ rest =
      pathText [key] ++ ' ' :: '=' :: ' ' :: (value ++ '\n' :: rest) := by
  simp [assignmentLine, pathText]

private theorem headerLine_append (path : List String) (rest : List Char) :
    headerLine path ++ rest = '[' :: (pathText path ++ ']' :: '\n' :: rest) := by
  simp [headerLine, pathText]

private theorem readValue_writes {text : List Char} {value : Setting} (writes : Writes text value)
    (depth fuel : Nat) (rest : List Char) :
    readValue depth (fuel + 1) (text ++ '\n' :: rest) = some (value, '\n' :: rest) := by
  obtain ⟨c, more, starts, _, list, table⟩ := writes.starts
  rw [← writes.reads, starts, List.cons_append, readValue]
  · exact fun behind same => list (List.cons.inj same).1
  · exact fun behind same => table (List.cons.inj same).1

private theorem readAssignment_append {key : String} {text : List Char} {value : Setting}
    (writes : Writes text value) (progress : Progress) (rest : List Char) :
    readAssignment progress (assignmentLine key text ++ rest) =
      (changeTable progress.header (assign value [key]) progress.root).map fun root =>
        ({ progress with root := root }, '\n' :: rest) := by
  have path : readPath maxDepth (assignmentLine key text ++ rest) =
      some ([key], '=' :: ' ' :: (text ++ '\n' :: rest)) := by
    rw [assignmentLine_append, readPath_pathText (List.cons_ne_nil _ _) (show 1 ≤ 79 by decide)]
    · rfl
    · rintro _ ⟨⟩
      rfl
    · exact nofun
  obtain ⟨c, more, starts, printed, _⟩ := writes.starts
  have behind : skipSpaces (' ' :: (text ++ '\n' :: rest)) = text ++ '\n' :: rest := by
    rw [starts]
    exact skipSpaces_cons printed _
  have equals : expect '=' ('=' :: ' ' :: (text ++ '\n' :: rest)) =
    some (' ' :: (text ++ '\n' :: rest)) := rfl
  simp only [readAssignment, path, equals, behind, readValue_writes writes, Option.bind_eq_bind,
    Option.bind_some]
  cases changeTable progress.header (assign value [key]) progress.root <;> rfl

private theorem readLine_assignment {key : String} {text : List Char} {value : Setting}
    (writes : Writes text value) (progress : Progress) (rest : List Char) :
    readLine progress (assignmentLine key text ++ rest) =
      (changeTable progress.header (assign value [key]) progress.root).map fun root =>
        ({ progress with root := root }, '\n' :: rest) := by
  rw [← readAssignment_append writes]
  obtain ⟨c, more, starts, printed, list, comment, line, return_⟩ := writeKey_starts key.toList
  rw [assignmentLine, starts]
  simp only [List.cons_append, readLine, skipSpaces_cons printed]
  split
  next same => cases same
  next same => exact absurd (List.cons.inj same).1 comment
  next same => exact absurd (List.cons.inj same).1 line
  next same => exact absurd (List.cons.inj same).1 return_
  next same => exact absurd (List.cons.inj same).1 list
  next => rfl

theorem readLine_header {path : List String} (filled : path ≠ []) (short : path.length ≤ maxDepth)
    (progress : Progress) (rest : List Char) :
    readLine progress (headerLine path ++ rest) =
      (openTable path progress.root).map fun root => (⟨root, path⟩, '\n' :: rest) := by
  have read : readPath maxDepth (pathText path ++ ']' :: '\n' :: rest) =
      some (path, ']' :: '\n' :: rest) := by
    rw [readPath_pathText filled short]
    · rfl
    · rintro _ ⟨⟩
      rfl
    · exact nofun
  have single : ∀ more, pathText path ++ ']' :: '\n' :: rest ≠ '[' :: more := by
    intro more same
    obtain ⟨c, behind, starts, _, list, _⟩ := pathText_starts filled
    rw [starts] at same
    exact list (List.cons.inj same).1
  have bracket : expect ']' (']' :: '\n' :: rest) = some ('\n' :: rest) := rfl
  rw [headerLine_append]
  change readHeader progress (pathText path ++ ']' :: '\n' :: rest) = _
  rw [readHeader]
  · simp only [read, bracket, Option.bind_eq_bind, Option.bind_some]
    cases openTable path progress.root <;> rfl
  · exact single

/-- Whatever is left to read after some lines, it is read from another progress. -/
def Leads (progress : Progress) (text : List Char) (next : Progress) : Prop :=
  ∀ rest result, (∀ fuel, rest.length ≤ fuel → readFile fuel next rest = some result) →
    ∀ fuel, (text ++ rest).length ≤ fuel → readFile fuel progress (text ++ rest) = some result

theorem Leads.refl (progress : Progress) : Leads progress [] progress :=
  fun _ _ read => read

theorem Leads.trans {first second third : Progress} {text more : List Char}
    (leads : Leads first text second) (leads' : Leads second more third) :
    Leads first (text ++ more) third := by
  intro rest result read
  rw [List.append_assoc]
  exact leads _ _ (leads' _ _ read)

theorem Leads.line {progress next : Progress} {text : List Char} (filled : text ≠ [])
    (read : ∀ rest, readLine progress (text ++ rest) = some (next, '\n' :: rest)) :
    Leads progress text next := by
  intro rest result reads fuel enough
  obtain ⟨c, more, rfl⟩ := List.exists_cons_of_ne_nil filled
  obtain ⟨fuel, rfl⟩ : ∃ less, fuel = less + 1 := ⟨fuel - 1, by simp at enough; omega⟩
  have line := read rest
  rw [List.cons_append] at line ⊢
  have ended : endLine? ('\n' :: rest) = some rest := rfl
  simp only [readFile, line, ended, Option.bind_eq_bind, Option.bind_some]
  exact reads fuel (by simp at enough; omega)

theorem Leads.blank (progress : Progress) : Leads progress ['\n'] progress :=
  Leads.line (List.cons_ne_nil _ _) fun _ => rfl

private theorem Leads.file {progress : Progress} {text : List Char}
    (leads : Leads .start text progress) : readFile text.length .start text = some progress := by
  have read := leads [] progress (fun fuel _ => by cases fuel <;> rfl) text.length
  rw [List.append_nil] at read
  exact read (Nat.le_refl _)

/-- A way to change the entries of the table that a header opens. -/
def Opens (header : List String) (root : Entries → Entries) : Prop :=
  ∀ change entries, changeTable header change (root entries) = (change entries).map root

/-- A field with its text, if it is present. -/
abbrev Field := String × Option (List Char × Setting)

def Field.lines (field : Field) : List Char :=
  optionalLine field.1 (·.1) field.2

def Field.addTo (entries : Entries) (field : Field) : Entries :=
  match field.2 with
  | some (_, value) => insertEntry field.1 (.value value) entries
  | none => entries

def Field.Written (field : Field) : Prop :=
  ∀ text value, field.2 = some (text, value) → Writes text value

theorem Field.leads {header : List String} {root : Entries → Entries} (opens : Opens header root)
    {field : Field} (written : field.Written) {entries : Entries}
    (fresh : entries.lookup field.1 = none) :
    Leads ⟨root entries, header⟩ field.lines ⟨root (field.addTo entries), header⟩ := by
  obtain ⟨key, present⟩ := field
  cases present with
  | none => exact .refl _
  | some held =>
    obtain ⟨text, value⟩ := held
    apply Leads.line
    · intro empty
      have filled := congrArg List.length empty
      simp [lines, optionalLine, assignmentLine] at filled
    · intro rest
      rw [lines, optionalLine, readLine_assignment (written text value rfl)]
      have assigned :
          assign value [key] entries = some (insertEntry key (.value value) entries) := by
        simp [assign, fresh]
      rw [opens, assigned]
      rfl

theorem Field.lookup_addTo {entries : Entries} {field : Field} {key : String}
    (different : key ≠ field.1) : (field.addTo entries).lookup key = entries.lookup key := by
  unfold addTo
  split
  · rw [lookup_insertEntry, if_neg different]
  · rfl

private theorem leads_fields {header : List String} {root : Entries → Entries}
    (opens : Opens header root) {fields : List Field} (written : ∀ field ∈ fields, field.Written)
    (distinct : (fields.map (·.1)).Nodup) {entries : Entries}
    (fresh : ∀ field ∈ fields, entries.lookup field.1 = none) :
    Leads ⟨root entries, header⟩ (fields.flatMap Field.lines)
      ⟨root (fields.foldl Field.addTo entries), header⟩ := by
  induction fields generalizing entries with
  | nil => exact .refl _
  | cons field fields ih =>
    obtain ⟨absent, distinct⟩ := List.nodup_cons.mp distinct
    have head := Field.leads opens (written field List.mem_cons_self)
      (fresh field List.mem_cons_self)
    apply head.trans
    apply ih (fun other inside => written other (List.mem_cons_of_mem _ inside)) distinct
    intro other inside
    have different : other.1 ≠ field.1 := by
      intro same
      apply absent
      exact List.mem_map.mpr ⟨other, inside, same⟩
    rw [Field.lookup_addTo different]
    exact fresh other (List.mem_cons_of_mem _ inside)

def Field.value (field : Field) : String × Option Setting :=
  (field.1, field.2.map (·.2))

/-- Fields added one by one are the entries of those that are present. -/
theorem closeEntries_fields (fields : List Field) :
    Node.closeEntries (fields.foldl Field.addTo []) = presentEntries (fields.map Field.value) := by
  suffices grown : ∀ entries, Node.closeEntries (fields.foldl Field.addTo entries) =
      ((fields.map Field.value).filterMap fun field => field.2.map (field.1, ·)).foldl
        (fun sorted entry => insertEntry entry.1 entry.2 sorted) (Node.closeEntries entries) from
    grown []
  induction fields with
  | nil => exact fun _ => rfl
  | cons field fields ih =>
    intro entries
    obtain ⟨key, _ | ⟨text, value⟩⟩ := field
    · exact ih entries
    · rw [List.foldl_cons, ih]
      simp only [Field.addTo, closeEntries_insertEntry]
      rfl

private theorem opens_table (key : String) (base : Entries) :
    Opens [key] fun entries => insertEntry key (.table .header entries) base := by
  intro change entries
  simp only [changeTable, List.isEmpty_cons, changeAt, lookup_insertEntry, if_true,
    Option.bind_some, Node.changeOpen, insertEntry_insertEntry]
  cases change entries <;> rfl

private theorem opens_nested (key name : String) (inner base : Entries) :
    Opens [key, name] fun entries =>
      insertEntry key (.table .parent (insertEntry name (.table .header entries) inner)) base := by
  intro change entries
  simp only [changeTable, List.isEmpty_cons, changeAt, lookup_insertEntry, if_true,
    Option.bind_some, Option.getD_some, Node.changeOpen, insertEntry_insertEntry]
  cases change entries <;> rfl

theorem openTable_table {key : String} {base : Entries} (fresh : base.lookup key = none) :
    openTable [key] base = some (insertEntry key (.table .header []) base) := by
  simp [openTable, changeAt, fresh]

private theorem openTable_nested {key name : String} {inner base : Entries}
    (parent : (base.lookup key).getD (.table .parent []) = .table .parent inner)
    (fresh : inner.lookup name = none) :
    openTable [key, name] base =
      some (insertEntry key (.table .parent (insertEntry name (.table .header []) inner)) base) := by
  simp [openTable, changeAt, parent, fresh, Node.changeOpen]

theorem headerLine_filled (path : List String) : headerLine path ≠ [] := List.cons_ne_nil _ _

section
variable {fields : List Field} (written : ∀ field ∈ fields, field.Written)
  (distinct : (fields.map (·.1)).Nodup)

include written distinct

theorem leads_header {path : List String} (filled : path ≠ []) (short : path.length ≤ maxDepth)
    {root : Entries → Entries} (opens : Opens path root) {base : Entries}
    (opened : openTable path base = some (root [])) (before : List String) :
    Leads ⟨base, before⟩ (headerLine path ++ fields.flatMap Field.lines)
      ⟨root (fields.foldl Field.addTo []), path⟩ := by
  have head : Leads ⟨base, before⟩ (headerLine path) ⟨root [], path⟩ := by
    apply Leads.line (headerLine_filled path)
    intro rest
    rw [readLine_header filled short, opened]
    rfl
  exact head.trans (leads_fields opens written distinct fun _ _ => rfl)

end

def defaultsFields (defaults : Defaults) : List Field := [
  ("timeout", some (writeNat defaults.timeout, .whole defaults.timeout)),
  ("insecure", some (writeBool defaults.insecure, .truth defaults.insecure))]

def profileFields (profile : Profile) : List Field := [
  ("api_base", some (writeString profile.apiBase, .text profile.apiBase)),
  ("timeout", profile.timeout.map fun value => (writeNat value, .whole value)),
  ("ca_cert", profile.caCert.map fun value => (writeString value, .text value)),
  ("insecure", profile.insecure.map fun value => (writeBool value, .truth value))]

theorem optionalLine_eq {α : Type} (key : String) (write : α → List Char) (say : α → Setting)
    (value : Option α) :
    optionalLine key write value =
      Field.lines (key, value.map fun value => (write value, say value)) := by
  cases value <;> rfl

private theorem writeDefaults_eq (defaults : Defaults) :
    writeDefaults defaults =
      headerLine ["defaults"] ++ (defaultsFields defaults).flatMap Field.lines := by
  simp [writeDefaults, defaultsFields, Field.lines, optionalLine]

private theorem writeProfile_eq (name : String) (profile : Profile) :
    writeProfile name profile =
      headerLine ["profiles", name] ++ (profileFields profile).flatMap Field.lines := by
  rw [writeProfile, optionalLine_eq "timeout" writeNat fun value => .whole value,
    optionalLine_eq "ca_cert" writeString .text, optionalLine_eq "insecure" writeBool .truth]
  simp [profileFields, Field.lines, optionalLine]

private theorem closeEntries_defaults (defaults : Defaults) :
    .table (Node.closeEntries ((defaultsFields defaults).foldl Field.addTo [])) =
      defaults.toSetting := by
  rw [closeEntries_fields]
  rfl

private theorem closeEntries_profile (profile : Profile) :
    .table (Node.closeEntries ((profileFields profile).foldl Field.addTo [])) =
      profile.toSetting := by
  rw [closeEntries_fields]
  obtain ⟨_, timeout, caCert, insecure⟩ := profile
  cases timeout <;> cases caCert <;> cases insecure <;> rfl

theorem Field.written_map {α : Type} {key : String} {write : α → List Char} {say : α → Setting}
    {value : Option α} (writes : ∀ held ∈ value, Writes (write held) (say held)) :
    Field.Written (key, value.map fun value => (write value, say value)) := by
  intro text setting same
  obtain ⟨held, present, pair⟩ := Option.map_eq_some_iff.mp same
  cases pair
  exact writes held present

theorem Field.written_some {key : String} {text : List Char} {value : Setting}
    (writes : Writes text value) : Field.Written (key, some (text, value)) := by
  rintro _ _ ⟨⟩
  exact writes

private theorem written_defaults {defaults : Defaults} (small : defaults.timeout ≤ maxWhole) :
    ∀ field ∈ defaultsFields defaults, field.Written := by
  intro field inside
  simp only [defaultsFields, List.mem_cons, List.not_mem_nil, or_false] at inside
  rcases inside with rfl | rfl
  · exact Field.written_some (writes_nat small)
  · exact Field.written_some (writes_bool _)

private theorem written_profile {profile : Profile}
    (small : ∀ timeout ∈ profile.timeout, timeout ≤ maxWhole) :
    ∀ field ∈ profileFields profile, field.Written := by
  intro field inside
  simp only [profileFields, List.mem_cons, List.not_mem_nil, or_false] at inside
  rcases inside with rfl | rfl | rfl | rfl
  · exact Field.written_some (writes_string _)
  · exact Field.written_map fun timeout held => writes_nat (small timeout held)
  · exact Field.written_map fun path _ => writes_string path
  · exact Field.written_map fun value _ => writes_bool value

def profileNode (profile : Profile) : Node :=
  .table .header ((profileFields profile).foldl Field.addTo [])

def profileNodes (profiles : List (String × Profile)) : Entries :=
  profiles.map fun (name, profile) => (name, profileNode profile)

def profilesText (profiles : List (String × Profile)) : List Char :=
  profiles.flatMap fun (name, profile) => '\n' :: writeProfile name profile

private theorem closeEntries_profileNodes (profiles : List (String × Profile)) :
    Node.closeEntries (profileNodes profiles) =
      profiles.map fun (name, profile) => (name, profile.toSetting) := by
  induction profiles with
  | nil => rfl
  | cons head rest ih =>
    obtain ⟨name, profile⟩ := head
    rw [List.map_cons, ← ih]
    dsimp only
    rw [← closeEntries_profile]
    rfl

theorem leads_profile {base inner : Entries} {name : String} {profile : Profile}
    (parent : (base.lookup "profiles").getD (.table .parent []) = .table .parent inner)
    (fresh : inner.lookup name = none) (small : ∀ timeout ∈ profile.timeout, timeout ≤ maxWhole)
    (before : List String) :
    Leads ⟨base, before⟩ ('\n' :: writeProfile name profile)
      ⟨insertEntry "profiles" (.table .parent (insertEntry name (profileNode profile) inner)) base,
        ["profiles", name]⟩ := by
  have table := leads_header (written_profile small) (by simp [profileFields])
    (List.cons_ne_nil _ _) (show ["profiles", name].length ≤ maxDepth by simp [maxDepth])
    (opens_nested "profiles" name inner base)
    (openTable_nested parent fresh) before
  rw [writeProfile_eq]
  exact (Leads.blank _).trans table

/-- Profiles behind others, which come before them in the order of names. -/
theorem leads_profiles (base inner : Entries) {profiles : List (String × Profile)}
    (ordered : Ordered profiles)
    (below : ∀ entry ∈ inner, ∀ profile ∈ profiles, entry.1 < profile.1)
    (small : ∀ profile ∈ profiles, ∀ timeout ∈ profile.2.timeout, timeout ≤ maxWhole)
    (before : List String) :
    ∃ header, Leads ⟨insertEntry "profiles" (.table .parent inner) base, before⟩
      (profilesText profiles)
      ⟨insertEntry "profiles" (.table .parent (inner ++ profileNodes profiles)) base, header⟩ := by
  induction profiles generalizing inner before with
  | nil =>
    refine ⟨before, ?_⟩
    rw [profileNodes, List.map_nil, List.append_nil]
    exact .refl _
  | cons head rest ih =>
    obtain ⟨name, profile⟩ := head
    obtain ⟨above, tail⟩ := List.pairwise_cons.mp ordered
    have least : ∀ entry ∈ inner, entry.1 < name := fun entry inside =>
      below entry inside _ List.mem_cons_self
    have fresh : inner.lookup name = none := by
      cases held : inner.lookup name with
      | none => rfl
      | some node => exact absurd (least _ (lookup_mem held)) (String.lt_irrefl name)
    have parent : ((insertEntry "profiles" (.table .parent inner) base).lookup "profiles").getD
        (.table .parent []) = .table .parent inner := by
      rw [lookup_insertEntry, if_pos rfl]
      rfl
    have first := leads_profile parent fresh (small _ List.mem_cons_self) before
    rw [insertEntry_insertEntry, insertEntry_last least] at first
    obtain ⟨header, others⟩ := ih (inner ++ [(name, profileNode profile)]) tail
      (by
        intro entry inside other behind
        rcases List.mem_append.mp inside with inside | same
        · exact below entry inside other (List.mem_cons_of_mem _ behind)
        · rw [List.mem_singleton.mp same]
          exact above other behind)
      (fun other behind => small other (List.mem_cons_of_mem _ behind)) ["profiles", name]
    refine ⟨header, ?_⟩
    have both := first.trans others
    rwa [List.append_assoc] at both

/-- The node of all profiles: one that only they made, or one with a header of its own. -/
theorem leads_writeProfiles (base : Entries) (unread : base.lookup "profiles" = none)
    {profiles : NameMap Profile}
    (small : ∀ profile ∈ profiles.entries, ∀ timeout ∈ profile.2.timeout, timeout ≤ maxWhole)
    (before : List String) :
    ∃ node header, node.close =
        .table (profiles.entries.map fun (name, profile) => (name, profile.toSetting)) ∧
      Leads ⟨base, before⟩ (writeProfiles profiles) ⟨insertEntry "profiles" node base, header⟩ := by
  obtain ⟨entries, ordered⟩ := profiles
  cases entries with
  | nil =>
    refine ⟨.table .header [], ["profiles"], rfl, ?_⟩
    have header : Leads ⟨base, before⟩ (headerLine ["profiles"])
        ⟨insertEntry "profiles" (.table .header []) base, ["profiles"]⟩ := by
      apply Leads.line (headerLine_filled _)
      intro rest
      rw [readLine_header (List.cons_ne_nil _ _)
        (show ["profiles"].length ≤ maxDepth by simp [maxDepth]), openTable_table unread]
      rfl
    exact (Leads.blank _).trans header
  | cons head rest =>
    obtain ⟨name, profile⟩ := head
    obtain ⟨above, tail⟩ := List.pairwise_cons.mp ordered
    have parent : (base.lookup "profiles").getD (.table .parent []) = .table .parent [] := by
      rw [unread]
      rfl
    have fresh : List.lookup name ([] : Entries) = none := rfl
    have first := leads_profile parent fresh (small _ List.mem_cons_self) before
    obtain ⟨header, others⟩ := leads_profiles base (insertEntry name (profileNode profile) []) tail
      (by
        intro entry inside other behind
        rw [List.mem_singleton.mp inside]
        exact above other behind)
      (fun other behind => small other (List.mem_cons_of_mem _ behind)) ["profiles", name]
    refine ⟨_, header, ?_, first.trans others⟩
    rw [← closeEntries_profileNodes]
    rfl

/-- The entries of the whole file, with the node of all profiles. -/
def settingsNodes (settings : Settings) (profiles : Node) : Entries :=
  let field : Field :=
    ("default_profile", settings.defaultProfile.map fun value => (writeString value, .text value))
  let defaults : Node := .table .header ((defaultsFields settings.defaults).foldl Field.addTo [])
  insertEntry "profiles" profiles (insertEntry "defaults" defaults (field.addTo []))

private theorem close_settingsNodes {settings : Settings} {profiles : Node}
    (closes : profiles.close = .table
      (settings.profiles.entries.map fun (name, profile) => (name, profile.toSetting))) :
    .table (Node.closeEntries (settingsNodes settings profiles)) = settings.toSetting := by
  obtain ⟨defaultProfile, defaults, _⟩ := settings
  have table : Node.close (.table .header ((defaultsFields defaults).foldl Field.addTo [])) =
      defaults.toSetting := closeEntries_defaults defaults
  simp only [settingsNodes, closeEntries_insertEntry, closes, table]
  cases defaultProfile <;>
    simp [Settings.toSetting, presentEntries, sortEntries, Field.addTo, Node.closeEntries,
      Node.close, insertEntry]

private theorem leads_writeSettings {settings : Settings} (writable : isWritable settings = true) :
    ∃ progress, Leads .start (writeSettings settings) progress ∧
      .table (Node.closeEntries progress.root) = settings.toSetting := by
  simp only [isWritable, Bool.and_eq_true, decide_eq_true_eq, List.all_eq_true] at writable
  let field : Field :=
    ("default_profile", settings.defaultProfile.map fun value => (writeString value, .text value))
  have unread {key : String} (different : key ≠ "default_profile") :
      (field.addTo []).lookup key = none := Field.lookup_addTo different
  have opens : Opens [] id := fun change entries => by
    cases changed : change entries <;> simp [changeTable, changed]
  have first : Leads .start field.lines ⟨field.addTo [], []⟩ :=
    Field.leads opens (Field.written_map fun value _ => writes_string value)
      (show List.lookup "default_profile" ([] : Entries) = none from rfl)
  have separated : Leads ⟨field.addTo [], []⟩ (if field.lines.isEmpty then [] else ['\n'])
      ⟨field.addTo [], []⟩ := by
    split
    · exact .refl _
    · exact .blank _
  have second := leads_header (written_defaults writable.1) (by simp [defaultsFields])
    (List.cons_ne_nil _ _) (show ["defaults"].length ≤ maxDepth by simp [maxDepth])
    (opens_table "defaults" (field.addTo [])) (openTable_table (unread (by decide))) []
  have absent : (insertEntry "defaults" (.table .header
      ((defaultsFields settings.defaults).foldl Field.addTo [])) (field.addTo [])).lookup
        "profiles" = none := by
    rw [lookup_insertEntry, if_neg (by decide), unread (by decide)]
  obtain ⟨node, header, closes, third⟩ := leads_writeProfiles _ absent
    (fun profile inside timeout held => by
      have bounded := writable.2 profile inside
      rw [held] at bounded
      simpa using bounded) ["defaults"]
  refine ⟨⟨settingsNodes settings node, header⟩, ?_, close_settingsNodes closes⟩
  rw [writeSettings, optionalLine_eq "default_profile" writeString .text, writeDefaults_eq]
  exact ((first.trans separated).trans second).trans third

private theorem writeSettings_head (settings : Settings) :
    ∃ c more, writeSettings settings = c :: more ∧ (c = 'd' ∨ c = '[') := by
  obtain ⟨_ | value, defaults, profiles⟩ := settings
  · exact ⟨'[', _, rfl, .inr rfl⟩
  · exact ⟨'d', _, rfl, .inl rfl⟩

/-- What is written for settings is read as their layer. -/
theorem parse?_writeSettings {settings : Settings} (writable : isWritable settings = true) :
    parse? (.ofList (writeSettings settings)) = some settings.toSetting := by
  obtain ⟨progress, leads, closes⟩ := leads_writeSettings writable
  obtain ⟨c, more, starts, first⟩ := writeSettings_head settings
  have read := leads.file
  rw [parse?, String.toList_ofList]
  rw [starts] at read ⊢
  rcases first with rfl | rfl
  · change (readFile ('d' :: more).length .start ('d' :: more)).map _ = _
    rw [read, Option.map_some, closes]
  · change (readFile ('[' :: more).length .start ('[' :: more)).map _ = _
    rw [read, Option.map_some, closes]

end Toml

end InterfaceSync
