import InterfaceSync.Proofs.PayloadMembers
import InterfaceSync.Proofs.PayloadShapes

/-! Two ways to take a bare object for a document. A payload drops the entries that are null; a
document of its own keeps them, as empty configurations. So both show the same for every interface,
and they are one document unless an entry is null. A document of its own comes back from every text
that it is displayed as. -/

namespace InterfaceSync

namespace Json

private theorem depthItems_le {items : List Json} {bound : Nat} :
    depthItems items ≤ bound ↔ ∀ item ∈ items, item.depth ≤ bound := by
  induction items with
  | nil => simp [depthItems]
  | cons item items ih => simp [depthItems, ih]

theorem depthMembers_le {members : List (String × Json)} {bound : Nat} :
    depthMembers members ≤ bound ↔ ∀ member ∈ members, member.2.depth ≤ bound := by
  induction members with
  | nil => simp [depthMembers]
  | cons member members ih => simp [depthMembers, ih]

/-- Merging equal keys leaves out whole members, so nothing gets deeper. -/
theorem depth_canonical (value : Json) : value.canonical.depth ≤ value.depth := by
  induction value using Json.induction with
  | null | bool | number | string => exact le_rfl
  | array items each =>
    refine Nat.succ_le_succ (depthItems_le.mpr fun item inside => ?_)
    rw [canonicalItems_eq] at inside
    obtain ⟨raw, stands, rfl⟩ := List.mem_map.mp inside
    exact (each raw stands).trans (depthItems_le.mp le_rfl raw stands)
  | object members each =>
    refine Nat.succ_le_succ (depthMembers_le.mpr fun member inside => ?_)
    have unsorted := mem_sortEntries inside
    rw [canonicalMembers_eq] at unsorted
    obtain ⟨raw, stands, rfl⟩ := List.mem_map.mp unsorted
    exact (each raw stands).trans (depthMembers_le.mp le_rfl raw stands)

private theorem isNull_iff {value : Json} : value.isNull = true ↔ value = .null := by
  cases value <;> simp [isNull]

private theorem canonical_isNull (value : Json) : value.canonical.isNull = value.isNull := by
  cases value <;> rfl

end Json

namespace Document

def parse? (text : String) : Option Document :=
  (Json.parse? text).bind ofJson?

theorem parse?_object {text : String} {members : List (String × Json)}
    (read : Json.read? text = some (.object members)) :
    parse? text = some (ofMembers (sortEntries (Json.canonicalMembers members))) := by
  simp only [parse?, Json.parse?, read, Option.map_some, Option.bind_some, Json.canonical]
  rfl

theorem parse?_displayed {spacing : Json.Spacing} (blank : spacing.Blank) {document : Document}
    (canonical : document.values.Canonical) (lasts : document.toJson.Lasts)
    (shallow : document.toJson.depth ≤ Json.maxDepth) :
    parse? (.ofList (Json.writeWith spacing 0 document.toJson)) = some document := by
  have read : Json.read? (.ofList (Json.writeWith spacing 0 document.toJson)) =
      some (.object document.values.entries) := Json.read?_writeWith blank lasts shallow
  rw [parse?_object read]
  have kept : sortEntries (Json.canonicalMembers document.values.entries) =
      document.values.entries := congrArg NameMap.entries (NameMap.ofList_canonical canonical)
  exact congrArg some ((congrArg ofMembers kept).trans document.ofMembers_values)

theorem values_ofMembers (holds : Json → Prop) {members : List (String × Json)}
    (each : ∀ member ∈ members, holds member.2) (empty : holds (.object [])) :
    ∀ entry ∈ (ofMembers members).values.entries, holds entry.2 := by
  intro entry inside
  obtain ⟨⟨ifname, config⟩, stored, rfl⟩ := List.mem_map.mp inside
  obtain ⟨member, given, same⟩ := List.mem_map.mp (mem_sortEntries stored)
  cases same
  simp only [InterfaceConfig.ofJson_value]
  split
  · exact empty
  · exact each member given

end Document

namespace Payload

private theorem nics_bare {members : List (String × Json)} {nics : NameMap Json}
    (shape : ofJson? (.object members) = some (.bare nics)) :
    nics = .ofList (Json.canonicalMembers members) := by
  simp only [ofJson?] at shape
  split at shape
  · cases shape
  · cases shape
    rfl

end Payload

/-- Two documents that came of the same members. A name whose value is null has no entry in the one,
and an empty one in the other; every other name has the same. -/
structure Document.BesideNulls (loaded own : Document) (members : List (Ifname × Json)) : Prop where
  null : ∀ ifname, members.reverse.lookup ifname = some .null →
    loaded.get? ifname = none ∧ own.get? ifname = some .empty
  other : ∀ ifname, members.reverse.lookup ifname ≠ some .null →
    loaded.get? ifname = own.get? ifname

namespace Document.BesideNulls

variable {loaded own : Document} {members : List (Ifname × Json)}

private theorem shown (beside : BesideNulls loaded own members) (ifname : Ifname) :
    (loaded.get? ifname).getD .empty = (own.get? ifname).getD .empty := by
  by_cases null : members.reverse.lookup ifname = some .null
  · obtain ⟨absent, empty⟩ := beside.null ifname null
    rw [absent, empty]
    rfl
  · rw [beside.other ifname null]

theorem eq_iff (beside : BesideNulls loaded own members) :
    loaded = own ↔ ∀ ifname, members.reverse.lookup ifname ≠ some .null := by
  constructor
  · rintro rfl ifname null
    obtain ⟨absent, empty⟩ := beside.null ifname null
    cases absent.symm.trans empty
  · intro notNull
    have same : ∀ ifname, loaded.nics.get? ifname = own.nics.get? ifname :=
      fun ifname => beside.other ifname (notNull ifname)
    cases loaded
    cases own
    exact congrArg Document.mk (NameMap.ext_get? same)

private theorem same_iff (beside : BesideNulls loaded own members) :
    loaded.same own = true ↔ ∀ ifname, members.reverse.lookup ifname ≠ some .null := by
  constructor
  · intro same ifname null
    obtain ⟨absent, empty⟩ := beside.null ifname null
    have related := Document.same_get? same ifname
    rw [absent, empty] at related
    cases related
  · intro notNull
    rw [beside.eq_iff.mpr notNull]
    exact own.same_refl

end Document.BesideNulls

theorem Json.notNull_distinct {members : List (String × Json)}
    (distinct : (members.map (·.1)).Nodup) :
    (∀ name, members.reverse.lookup name ≠ some .null) ↔ ∀ member ∈ members, member.2 ≠ .null := by
  have distinct' : (members.reverse.map (·.1)).Nodup := by
    rwa [List.map_reverse, List.nodup_reverse]
  constructor
  · intro last member inside null
    refine last member.1 ?_
    rw [lookup_distinct distinct' (List.mem_reverse.mpr inside), null]
  · intro each name null
    exact each (name, .null) (List.mem_reverse.mp (lookup_mem null)) rfl

private theorem Document.get?_own (members : List (Ifname × Json)) (ifname : Ifname) :
    (ofMembers (sortEntries (Json.canonicalMembers members))).get? ifname =
      (members.reverse.lookup ifname).map fun value => .ofJson value.canonical := by
  rw [get?_ofMembers, ← lookup_sortEntries, sortEntries_ordered (ordered_sortEntries _),
    Json.lookup_canonicalMembers, Option.map_map]
  rfl

private theorem Payload.besideNulls (members : List (Ifname × Json)) :
    Document.BesideNulls (Payload.bare (.ofList (Json.canonicalMembers members))).document
      (.ofMembers (sortEntries (Json.canonicalMembers members))) members := by
  have loaded (ifname : Ifname) :
      ((bare (.ofList (Json.canonicalMembers members))).document.get? ifname).map (·.value) =
        ((members.reverse.lookup ifname).map Json.canonical).filter (!·.isNull) :=
    (document_holds _ ifname).trans
      (congrArg (Option.filter _) (Json.lookup_canonicalMembers members ifname))
  constructor
  · intro ifname null
    have absent := loaded ifname
    rw [null] at absent
    rw [Document.get?_own, null]
    exact ⟨Option.map_eq_none_iff.mp absent, rfl⟩
  · intro ifname notNull
    have held := loaded ifname
    rw [Document.get?_own]
    cases last : members.reverse.lookup ifname with
    | none =>
      rw [last] at held
      exact Option.map_eq_none_iff.mp held
    | some value =>
      have kept : value.canonical.isNull = false := by
        rw [Json.canonical_isNull]
        exact Bool.eq_false_iff.mpr fun null => notNull (last.trans (by rw [Json.isNull_iff.mp null]))
      rw [last, Option.map_some, Option.filter_some_pos (by simp [kept])] at held
      obtain ⟨config, stored, same⟩ := Option.map_eq_some_iff.mp held
      rw [stored, Option.map_some, ← same, config.ofJson_self]

theorem Document.own_displayed {members : List (Ifname × Json)}
    (shallow : (Json.object members).depth ≤ Json.maxDepth) :
    let document := ofMembers (sortEntries (Json.canonicalMembers members))
    document.values.Canonical ∧ document.toJson.depth ≤ Json.maxDepth := by
  intro document
  have each : ∀ member ∈ sortEntries (Json.canonicalMembers members),
      member.2.Canonical ∧ member.2.depth + 1 ≤ Json.maxDepth := by
    intro member inside
    have unsorted := mem_sortEntries inside
    rw [Json.canonicalMembers_eq] at unsorted
    obtain ⟨raw, given, rfl⟩ := List.mem_map.mp unsorted
    have level : raw.2.depth ≤ Json.depthMembers members := Json.depthMembers_le.mp le_rfl raw given
    exact ⟨NameMap.canonical_ofList members _ inside,
      (Nat.succ_le_succ ((Json.depth_canonical raw.2).trans level)).trans shallow⟩
  have values := values_ofMembers (fun value => value.Canonical ∧ value.depth + 1 ≤ Json.maxDepth)
    each ⟨rfl, by decide⟩
  refine ⟨fun entry inside => (values entry inside).1, ?_⟩
  have level : Json.depthMembers document.values.entries ≤ Json.maxDepth - 1 :=
    Json.depthMembers_le.mpr fun entry inside => Nat.le_sub_one_of_lt (values entry inside).2
  exact Nat.succ_le_succ level

namespace Payload

/-- A text that is bare as a payload is a document of its own as well. What either of them shows is
the same for every interface. The payload comes to the document without the entries whose value in
the text is null, where of equal names the last one counts, so to the same document exactly if there
are none; where no name is repeated, that is if no value in the text is null. If its numbers are read
back from their texts, the document is read back from every text that it is displayed as. -/
theorem bare_document {text : String} {nics : NameMap Json}
    (decodes : parse? text = some (.bare nics)) :
    ∃ members document, Json.SpellsObject text members ∧ Document.parse? text = some document ∧
      let loaded := (bare nics).document
      (∀ ifname, (loaded.get? ifname).getD .empty = (document.get? ifname).getD .empty) ∧
      (∀ ifname, members.reverse.lookup ifname = some .null → loaded.get? ifname = none) ∧
      (∀ ifname, members.reverse.lookup ifname ≠ some .null →
        loaded.get? ifname = document.get? ifname) ∧
      (loaded = document ↔ ∀ ifname, members.reverse.lookup ifname ≠ some .null) ∧
      (loaded.same document = true ↔ ∀ ifname, members.reverse.lookup ifname ≠ some .null) ∧
      ((members.map (·.1)).Nodup → (loaded = document ↔ ∀ member ∈ members, member.2 ≠ .null)) ∧
      (document.toJson.Lasts → ∀ spacing : Json.Spacing, spacing.Blank →
        Document.parse? (.ofList (Json.writeWith spacing 0 document.toJson)) = some document) := by
  obtain ⟨members, read⟩ := isSome_parse?.mp (Option.isSome_of_eq_some decodes)
  obtain ⟨spells, shallow⟩ := Json.read?_object.mp read
  obtain rfl := nics_bare ((parse?_object read).symm.trans decodes)
  obtain ⟨canonical, shallow'⟩ := Document.own_displayed shallow
  have beside := besideNulls members
  exact ⟨members, _, spells, Document.parse?_object read, beside.shown,
    fun ifname null => (beside.null ifname null).1, beside.other, beside.eq_iff, beside.same_iff,
    fun distinct => beside.eq_iff.trans (Json.notNull_distinct distinct),
    fun lasts _ blank => Document.parse?_displayed blank canonical lasts shallow'⟩

/-- A name whose first value only is null, one that is null, and one that marks nothing. -/
def nullMembers : List (String × Json) :=
  [("eth0", .null), ("lo", .null), ("eth0", .number (.whole 1492 (by decide))), ("nics", .bool false)]

theorem bare_document_nulls :
    let text := Json.compact (.object nullMembers)
    ∃ nics document, parse? text = some (.bare nics) ∧ Document.parse? text = some document ∧
      (bare nics).document.get? "lo" = none ∧
      (bare nics).document.get? "eth0" = document.get? "eth0" ∧ (bare nics).document ≠ document ∧
      Document.parse? (Json.compact document.toJson) = some document := by
  intro text
  have read : Json.read? text = some (.object nullMembers) :=
    Json.read?_writeWith Json.Spacing.blank_compact (by decide +kernel) (by decide)
  have decodes := parse?_object read
  obtain ⟨members, document, spells, own, _, null, other, equal, _, _, displayed⟩ :=
    bare_document decodes
  obtain rfl := spells.unique (Json.read?_object.mp read).1
  have lasts : document.toJson.Lasts := by
    obtain rfl := Option.some.inj ((Document.parse?_object read).symm.trans own)
    exact Json.lasts_of_short (by decide +kernel)
  refine ⟨_, document, decodes, own, null "lo" rfl, other "eth0" nofun, fun same => ?_,
    displayed lasts _ Json.Spacing.blank_compact⟩
  exact equal.mp same "lo" rfl

end Payload

end InterfaceSync
