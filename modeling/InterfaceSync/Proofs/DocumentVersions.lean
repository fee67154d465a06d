import InterfaceSync.Proofs.BareDocuments
import InterfaceSync.Proofs.NameOrder
import Mathlib.Data.List.Induction
import Mathlib.Data.List.Perm.Basic

/-! Versions of a document. Every change is made to some version and gives a new one, so versions
grow into a tree, and none is ever changed itself. A version is told by the values that were given
last on its way, in whatever order they were given. -/

namespace InterfaceSync

theorem InterfaceConfig.same_iff {first second : InterfaceConfig} :
    first.same second = true ↔ first.value.unsigned = second.value.unsigned :=
  Json.same_iff first.value second.value

private theorem optionRel_map {α β : Type} (f : α → β) (first second : Option α) :
    Option.Rel (fun a b => f a = f b) first second ↔ first.map f = second.map f := by
  cases first <;> cases second <;> simp

/-- Two optional configurations are both missing or equal as JSON values. -/
def InterfaceConfig.Agree (first second : Option InterfaceConfig) : Prop :=
  Option.Rel (fun a b => a.same b = true) first second

theorem InterfaceConfig.agree_iff {first second : Option InterfaceConfig} :
    Agree first second ↔ first.map (·.value.unsigned) = second.map (·.value.unsigned) := by
  simp only [Agree, InterfaceConfig.same_iff]
  exact optionRel_map _ first second

private theorem InterfaceConfig.Agree.or {first second : Option InterfaceConfig}
    (agree : Agree first second) (otherwise : Option InterfaceConfig) :
    Agree (first.or otherwise) (second.or otherwise) := by
  cases agree with
  | some equal => exact .some equal
  | none => exact agree_iff.mpr rfl

namespace Document

private theorem sameEntries_iff {first second : List (Ifname × InterfaceConfig)} :
    sameEntries first second = true ↔
      (first.map fun entry => (entry.1, entry.2.value.unsigned)) =
        second.map fun entry => (entry.1, entry.2.value.unsigned) := by
  induction first generalizing second with
  | nil => cases second <;> simp [sameEntries]
  | cons entry rest ih =>
    cases second with
    | nil => simp [sameEntries]
    | cons entry' rest' => simp [sameEntries, InterfaceConfig.same_iff, ih]

theorem same_iff {first second : Document} : first.same second = true ↔
    ∀ ifname, InterfaceConfig.Agree (first.get? ifname) (second.get? ifname) := by
  constructor
  · exact same_get?
  · intro agree
    -- Without the signs of zeros equal entries are identical, and order leaves them no choice.
    refine sameEntries_iff.mpr (ordered_ext ?_ ?_ fun ifname => ?_)
    · exact List.pairwise_map.mpr first.nics.ordered
    · exact List.pairwise_map.mpr second.nics.ordered
    · have found := InterfaceConfig.agree_iff.mp (agree ifname)
      exact (lookup_mapValues (·.value.unsigned) first.entries ifname).trans
        (found.trans (lookup_mapValues (·.value.unsigned) second.entries ifname).symm)

private theorem ext_get? {first second : Document}
    (same : ∀ ifname, first.get? ifname = second.get? ifname) : first = second := by
  cases first
  cases second
  exact congrArg mk (NameMap.ext_get? same)

/-- All ways to look at a document agree with looking up each name. -/
structure Views (document : Document) : Prop where
  ascend : document.ifnames.Pairwise fun first second => utf8 first < utf8 second
  names : ∀ ifname, ifname ∈ document.ifnames ↔ ∃ config, document.get? ifname = some config
  entries : ∀ ifname config,
    (ifname, config) ∈ document.entries ↔ document.get? ifname = some config
  order : document.entries.map (·.1) = document.ifnames
  contains : ∀ ifname,
    document.contains ifname = true ↔ ∃ config, document.get? ifname = some config
  size : ∀ listed : List Ifname, listed.Nodup →
    (∀ ifname, ifname ∈ listed ↔ ∃ config, document.get? ifname = some config) →
    listed.length = document.size
  isEmpty : document.isEmpty = true ↔ ∀ ifname, document.get? ifname = none

private theorem ifnames_nodup (document : Document) : document.ifnames.Nodup :=
  document.nics.names_ascend.imp fun {first second} less (same : first = second) =>
    List.lt_irrefl _ (same ▸ less)

private theorem views (document : Document) : document.Views where
  ascend := document.nics.names_ascend
  names _ := document.nics.mem_names
  entries ifname config :=
    ⟨fun inside => lookup_of_mem document.nics.ordered inside, fun found => lookup_mem found⟩
  order := rfl
  contains ifname := Option.isSome_iff_exists
  size listed distinct all := by
    have permuted : listed.Perm document.ifnames :=
      (List.perm_ext_iff_of_nodup distinct document.ifnames_nodup).mpr fun ifname =>
        (all ifname).trans document.nics.mem_names.symm
    exact permuted.length_eq.trans (List.length_map _)
  isEmpty := by
    constructor
    · intro empty ifname
      have none : document.entries = [] := List.isEmpty_iff.mp empty
      exact congrArg (List.lookup ifname) none
    · intro missing
      refine List.isEmpty_iff.mpr (List.eq_nil_iff_forall_not_mem.mpr ?_)
      rintro ⟨ifname, config⟩ inside
      have found := lookup_of_mem document.nics.ordered inside
      cases (missing ifname).symm.trans found

def withConfigs (document : Document) (given : List (Ifname × InterfaceConfig)) : Document :=
  given.foldl (fun document entry => document.withConfig entry.1 entry.2) document

/-- The value that a name is given last. -/
def lastGiven? (given : List (Ifname × InterfaceConfig)) (ifname : Ifname) :
    Option InterfaceConfig :=
  given.reverse.lookup ifname

private theorem lastGiven?_concat (given : List (Ifname × InterfaceConfig)) (name ifname : Ifname)
    (config : InterfaceConfig) :
    lastGiven? (given ++ [(name, config)]) ifname =
      if ifname = name then some config else lastGiven? given ifname := by
  rw [lastGiven?, List.reverse_concat, lookup_entry, lastGiven?]

theorem withConfigs_concat (document : Document) (given : List (Ifname × InterfaceConfig))
    (ifname : Ifname) (config : InterfaceConfig) :
    document.withConfigs (given ++ [(ifname, config)]) =
      (document.withConfigs given).withConfig ifname config :=
  List.foldl_concat ..

theorem get?_withConfigs (document : Document) (given : List (Ifname × InterfaceConfig))
    (ifname : Ifname) :
    (document.withConfigs given).get? ifname =
      (lastGiven? given ifname).or (document.get? ifname) := by
  induction given using List.reverseRecOn with
  | nil => rfl
  | append_singleton earlier entry ih =>
    obtain ⟨name, config⟩ := entry
    rw [withConfigs_concat, get?_withConfig, ih, lastGiven?_concat]
    split <;> rfl

theorem withConfigs_congr (document : Document) {given given' : List (Ifname × InterfaceConfig)}
    (last : ∀ ifname, lastGiven? given ifname = lastGiven? given' ifname) :
    document.withConfigs given = document.withConfigs given' := by
  refine ext_get? fun ifname => ?_
  rw [get?_withConfigs, get?_withConfigs, last]

private theorem withConfigs_same (document : Document)
    {given given' : List (Ifname × InterfaceConfig)} (last : ∀ ifname,
      InterfaceConfig.Agree (lastGiven? given ifname) (lastGiven? given' ifname)) :
    (document.withConfigs given).same (document.withConfigs given') = true := by
  refine same_iff.mpr fun ifname => ?_
  rw [get?_withConfigs, get?_withConfigs]
  exact (last ifname).or (document.get? ifname)

/-- A change to one of the versions that there are, which is told by its place. -/
structure Change where
  parent : Nat
  ifname : Ifname
  config : InterfaceConfig

def grow (versions : List Document) (change : Change) : List Document :=
  match versions[change.parent]? with
  | none => versions
  | some parent => versions ++ [parent.withConfig change.ifname change.config]

/-- All versions in the order in which they came about. -/
def versions (root : Document) (changes : List Change) : List Document :=
  changes.foldl grow [root]

theorem versions_concat (root : Document) (changes : List Change) (change : Change) :
    versions root (changes ++ [change]) = grow (versions root changes) change :=
  List.foldl_concat ..

private theorem prefix_grow (versions : List Document) (change : Change) :
    versions <+: grow versions change := by
  unfold grow
  split
  · exact List.prefix_rfl
  · exact List.prefix_append _ _

theorem versions_prefix (root : Document) (earlier later : List Change) :
    versions root earlier <+: versions root (earlier ++ later) := by
  induction later using List.reverseRecOn with
  | nil => rw [List.append_nil]
  | append_singleton later change ih =>
    rw [← List.append_assoc, versions_concat]
    exact ih.trans (prefix_grow _ change)

private theorem versions_kept {root document : Document} {earlier : List Change} {place : Nat}
    (later : List Change) (held : (versions root earlier)[place]? = some document) :
    (versions root (earlier ++ later))[place]? = some document := by
  obtain ⟨rest, grown⟩ := versions_prefix root earlier later
  rw [← grown, List.getElem?_append_left (List.getElem?_eq_some_iff.mp held).1, held]

theorem version_reached {root version : Document} {changes : List Change}
    (inside : version ∈ versions root changes) :
    ∃ given : List (Ifname × InterfaceConfig),
      given.Sublist (changes.map fun change => (change.ifname, change.config)) ∧
        version = root.withConfigs given := by
  induction changes using List.reverseRecOn generalizing version with
  | nil => exact ⟨[], .refl _, List.mem_singleton.mp inside⟩
  | append_singleton earlier change ih =>
    have before : ∀ {version}, version ∈ versions root earlier →
        ∃ given : List (Ifname × InterfaceConfig),
          given.Sublist ((earlier ++ [change]).map fun change => (change.ifname, change.config)) ∧
            version = root.withConfigs given := by
      intro version inside
      obtain ⟨given, among, reached⟩ := ih inside
      exact ⟨given, among.trans ((List.sublist_append_left _ _).map _), reached⟩
    rw [versions_concat, grow] at inside
    split at inside
    next => exact before inside
    next parent held =>
      rcases List.mem_append.mp inside with old | made
      · exact before old
      · obtain ⟨given, among, rfl⟩ := ih (List.mem_of_getElem? held)
        refine ⟨given ++ [(change.ifname, change.config)], ?_, ?_⟩
        · rw [List.map_append]
          exact among.append (.refl _)
        · rw [List.mem_singleton.mp made, withConfigs_concat]

/-- A new version is its parent with one configuration, for good; and every version stays. -/
structure Branches (root : Document) (earlier : List Change) (change : Change)
    (later : List Change) (parent version : Document) : Prop where
  made : (versions root (earlier ++ change :: later))[(versions root earlier).length]? =
    some version
  given : version.get? change.ifname = some change.config
  inherited : ∀ other, other ≠ change.ifname → version.get? other = parent.get? other
  kept : ∀ (place : Nat) (document : Document), (versions root earlier)[place]? = some document →
    (versions root (earlier ++ change :: later))[place]? = some document

private theorem branches {root parent : Document} {earlier : List Change} {change : Change}
    (held : (versions root earlier)[change.parent]? = some parent) (later : List Change) :
    Branches root earlier change later parent (parent.withConfig change.ifname change.config) where
  made := by
    have grown : versions root (earlier ++ [change]) =
        versions root earlier ++ [parent.withConfig change.ifname change.config] := by
      rw [versions_concat, grow, held]
    have here : (versions root (earlier ++ [change]))[(versions root earlier).length]? =
        some (parent.withConfig change.ifname change.config) := by
      rw [grown, List.getElem?_concat_length]
    simpa using versions_kept later here
  given := by rw [get?_withConfig, if_pos rfl]
  inherited other different := by rw [get?_withConfig, if_neg different]
  kept _ _ held := versions_kept (change :: later) held

/-- Changes to any versions, in any order, make a tree of documents: a new one has the given
configuration and is its parent otherwise, none is changed afterwards, and all views of each agree.
Documents are equal when every name is; and the last values of the names decide about the document,
so they decide about its text. -/
theorem versions_persist (root : Document) :
    (∀ (earlier : List Change) (change : Change) (later : List Change) (parent : Document),
      (versions root earlier)[change.parent]? = some parent →
      ∃ version, Branches root earlier change later parent version) ∧
    (∀ changes, ∀ version ∈ versions root changes, version.Views ∧
      ∃ given : List (Ifname × InterfaceConfig),
        given.Sublist (changes.map fun change => (change.ifname, change.config)) ∧
          version = root.withConfigs given) ∧
    (∀ first second : Document, first.same second = true ↔
      ∀ ifname, InterfaceConfig.Agree (first.get? ifname) (second.get? ifname)) ∧
    ∀ given given',
      ((∀ ifname, lastGiven? given ifname = lastGiven? given' ifname) →
        (root.withConfigs given).same (root.withConfigs given') = true ∧
          ∀ spacing, Json.writeWith spacing 0 (root.withConfigs given).toJson =
            Json.writeWith spacing 0 (root.withConfigs given').toJson) ∧
      ((∀ ifname, InterfaceConfig.Agree (lastGiven? given ifname) (lastGiven? given' ifname)) →
        (root.withConfigs given).same (root.withConfigs given') = true) := by
  refine ⟨?_, ?_, fun _ _ => same_iff, fun given given' => ⟨fun last => ?_, ?_⟩⟩
  · exact fun earlier change later parent held => ⟨_, branches held later⟩
  · exact fun changes version inside => ⟨version.views, version_reached inside⟩
  · have identical := root.withConfigs_congr last
    exact ⟨by rw [identical, same_refl], fun spacing => by rw [identical]⟩
  · exact root.withConfigs_same

def enabled : InterfaceConfig := ⟨.bool true, rfl⟩

def branching : List Change :=
  [⟨0, "eth1", enabled⟩, ⟨0, "eth0", enabled⟩, ⟨1, "eth1", .empty⟩]

theorem branching_persist :
    (∃ version, Branches .empty [⟨0, "eth1", enabled⟩] ⟨0, "eth0", enabled⟩
      [⟨1, "eth1", .empty⟩] .empty version) ∧
    ((versions .empty branching).map ifnames = [[], ["eth1"], ["eth0"], ["eth1"]]) ∧
    (∀ version ∈ versions .empty branching, version.Views) ∧
    (empty.withConfigs [("lo", .empty), ("eth0", enabled), ("lo", enabled)]).same
      (empty.withConfigs [("lo", enabled), ("eth0", enabled)]) = true := by
  obtain ⟨branch, viewed, _, last⟩ := versions_persist .empty
  refine ⟨branch _ _ _ _ rfl, by decide, fun version inside => (viewed _ version inside).1, ?_⟩
  refine ((last _ _).1 fun ifname => ?_).1
  by_cases first : ifname = "lo" <;> by_cases second : ifname = "eth0" <;>
    simp_all [lastGiven?, lookup_entry]

end Document

end InterfaceSync
