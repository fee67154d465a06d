import InterfaceSync.Proofs.JsonEquality
import InterfaceSync.Proofs.JsonText
import InterfaceSync.Sync.Loaded

/-! The two shapes of a body that holds a configuration. Wrapped, a mapping loads as it is. Bare, it
loads as the same document unless one of its entries is itself an object under the name that marks
the wrapped shape: then that object is taken for the mapping, and the documents differ, since no
object is a member of itself. -/

namespace InterfaceSync

def NameMap.Canonical (nics : NameMap Json) : Prop :=
  ∀ entry ∈ nics.entries, entry.2.Canonical

/-- Whether an object stands under the name that marks the wrapped shape. -/
def NameMap.HoldsNics (nics : NameMap Json) : Prop :=
  ∃ members, nics.get? "nics" = some (.object members)

theorem NameMap.ofList_canonical {nics : NameMap Json} (canonical : nics.Canonical) :
    NameMap.ofList (Json.canonicalMembers nics.entries) = nics := by
  apply NameMap.ext
  simp only [NameMap.ofList, Json.canonicalMembers_fixed canonical,
    sortEntries_ordered nics.ordered]

theorem NameMap.canonical_ofList (members : List (String × Json)) :
    (NameMap.ofList (Json.canonicalMembers members)).Canonical := by
  intro entry sorted
  have unsorted := mem_sortEntries sorted
  rw [Json.canonicalMembers_eq] at unsorted
  obtain ⟨raw, _, rfl⟩ := List.mem_map.mp unsorted
  exact Json.canonical_canonical raw.2

/-- The document has the entries of the mapping that are not null, unchanged, and no others. -/
def Document.Holds (document : Document) (nics : NameMap Json) : Prop :=
  ∀ ifname, (document.get? ifname).map (·.value) = (nics.get? ifname).filter (!·.isNull)

theorem Document.Holds.unique {first second : Document} {nics : NameMap Json}
    (holds : first.Holds nics) (holds' : second.Holds nics) : first = second := by
  have values : ∀ ifname, first.get? ifname = second.get? ifname := by
    intro ifname
    have same := (holds ifname).trans (holds' ifname).symm
    refine Option.map_injective (fun a b equal => ?_) same
    cases a; cases b; cases equal; rfl
  cases first
  cases second
  exact congrArg Document.mk (NameMap.ext_get? values)

theorem Payload.document_holds (payload : Payload) : payload.document.Holds payload.nics := by
  intro ifname
  simp only [Payload.document, Document.get?, NameMap.get?_filterMap]
  cases payload.nics.get? ifname with
  | none => rfl
  | some value =>
    cases null : value.isNull <;> simp [null, Option.filter]

namespace Payload

def bareBody (nics : NameMap Json) : Json :=
  .object nics.entries

def wrappedBody (nics : NameMap Json) : Json :=
  .object [("nics", bareBody nics)]

private theorem ofJson?_wrappedBody {nics : NameMap Json} (canonical : nics.Canonical) :
    ofJson? (wrappedBody nics) = some (.wrapped nics) :=
  congrArg (some ∘ wrapped) (NameMap.ofList_canonical canonical)

theorem marked_bareBody (nics : NameMap Json) :
    nics.entries.filter (·.1 == "nics") = ((nics.get? "nics").map ("nics", ·)).toList :=
  filter_name nics.ordered "nics"

theorem ofJson?_bareBody {nics : NameMap Json} (canonical : nics.Canonical)
    (open_ : ¬ nics.HoldsNics) : ofJson? (bareBody nics) = some (.bare nics) := by
  have loaded := congrArg (some ∘ bare) (NameMap.ofList_canonical canonical)
  simp only [bareBody, ofJson?, marked_bareBody]
  cases found : nics.get? "nics" with
  | none => exact loaded
  | some value =>
    cases value with
    | object members => exact absurd ⟨members, found⟩ open_
    | _ => exact loaded

theorem ofJson?_holdsNics {nics : NameMap Json} (canonical : nics.Canonical)
    {members : List (String × Json)} (found : nics.get? "nics" = some (.object members)) :
    ∃ inner : NameMap Json, inner.entries = members ∧
      ofJson? (bareBody nics) = some (.wrapped inner) := by
  have kept : (Json.object members).Canonical := canonical ("nics", .object members) (lookup_mem found)
  refine ⟨.ofList (Json.canonicalMembers members), kept.members, ?_⟩
  simp only [bareBody, ofJson?, marked_bareBody, found]
  rfl

/-- The document of a body, if the body is one. -/
def load? (body : String) : Option Document :=
  (parse? body).map document

theorem load?_writeWith {spacing : Json.Spacing} (blank : spacing.Blank) {body : Json}
    (lasts : body.Lasts) (shallow : body.depth ≤ Json.maxDepth) :
    load? (.ofList (Json.writeWith spacing 0 body)) = (ofJson? body).map document := by
  simp only [load?, parse?, Json.read?_writeWith blank lasts shallow, Option.bind_some]

/-- A body loads in any case; it loads as the given document, or one that is equal to it, exactly
under the condition. -/
def LoadsIff (body : String) (document : Document) (condition : Prop) : Prop :=
  ∃ loaded, load? body = some loaded ∧ (loaded = document ↔ condition) ∧
    (loaded.same document = true ↔ condition)

/-- No object is a member of itself, so the document that the inner object loads as has no
configuration under the marking name that is equal to the object. -/
theorem inner_differs {nics inner : NameMap Json} {document loaded : Document}
    (holds : document.Holds nics) (holds' : loaded.Holds inner)
    (found : nics.get? "nics" = some (.object inner.entries)) : loaded.same document = false := by
  by_contra equal
  rw [Bool.not_eq_false] at equal
  have outer := holds "nics"
  have nested := holds' "nics"
  have related := Document.same_get? equal "nics"
  rw [found] at outer
  obtain ⟨config, there, whole⟩ := Option.map_eq_some_iff.mp outer
  rw [there] at related
  generalize loaded.get? "nics" = entry at nested related
  cases related with
  | @some config' _ same =>
    have member : inner.get? "nics" = some config'.value :=
      (Option.filter_eq_some_iff.mp nested.symm).1
    have less : config'.value.depth < (Json.object inner.entries).depth := Json.depth_lookup member
    have level : config'.value.depth = config.value.depth := Json.same_depth _ _ same
    rw [level, whole] at less
    exact absurd less (Nat.lt_irrefl _)

private theorem loadsIff_bareBody {spacing : Json.Spacing} (blank : spacing.Blank)
    {nics : NameMap Json} (canonical : nics.Canonical) (lasts : (bareBody nics).Lasts)
    (shallow : (bareBody nics).depth ≤ Json.maxDepth) {document : Document} (holds : document.Holds nics) :
    LoadsIff (.ofList (Json.writeWith spacing 0 (bareBody nics))) document (¬ nics.HoldsNics) := by
  by_cases holdsNics : nics.HoldsNics
  · obtain ⟨members, found⟩ := holdsNics
    obtain ⟨inner, rfl, shape⟩ := ofJson?_holdsNics canonical found
    have differs := inner_differs holds (document_holds (.wrapped inner)) found
    refine ⟨(wrapped inner).document, ?_, ?_, ?_⟩
    · rw [load?_writeWith blank lasts shallow, shape]
      rfl
    · refine iff_of_false ?_ (not_not_intro ⟨_, found⟩)
      rintro rfl
      rw [Document.same_refl] at differs
      cases differs
    · exact iff_of_false (by rw [differs]; nofun) (not_not_intro ⟨_, found⟩)
  · have loaded : (bare nics).document = document := (document_holds (bare nics)).unique holds
    refine ⟨(bare nics).document, ?_, iff_of_true loaded holdsNics, ?_⟩
    · rw [load?_writeWith blank lasts shallow, ofJson?_bareBody canonical holdsNics]
      rfl
    · rw [loaded]
      exact iff_of_true (Document.same_refl document) holdsNics

private theorem load?_wrappedBody {spacing : Json.Spacing} (blank : spacing.Blank)
    {nics : NameMap Json} (canonical : nics.Canonical) (lasts : (wrappedBody nics).Lasts)
    (shallow : (wrappedBody nics).depth ≤ Json.maxDepth) {document : Document} (holds : document.Holds nics) :
    load? (.ofList (Json.writeWith spacing 0 (wrappedBody nics))) = some document := by
  rw [load?_writeWith blank lasts shallow, ofJson?_wrappedBody canonical]
  exact congrArg some ((document_holds (wrapped nics)).unique holds)

end Payload

theorem InterfaceConfig.ofJson_self (config : InterfaceConfig) : .ofJson config.value = config :=
  dif_pos config.notNull

namespace Document

def ofMembers (members : List (Ifname × Json)) : Document :=
  .ofEntries (members.map fun (name, value) => (name, .ofJson value))

theorem get?_ofMembers (members : List (Ifname × Json)) (ifname : Ifname) :
    (ofMembers members).get? ifname = (members.reverse.lookup ifname).map .ofJson := by
  rw [ofMembers, get?_ofEntries, ← List.map_reverse]
  exact lookup_mapValues InterfaceConfig.ofJson members.reverse ifname

def values (document : Document) : NameMap Json where
  entries := document.entries.map fun (ifname, config) => (ifname, config.value)
  ordered := List.pairwise_map.mpr document.nics.ordered

theorem get?_values (document : Document) (ifname : Ifname) :
    document.values.get? ifname = (document.get? ifname).map (·.value) :=
  lookup_mapValues InterfaceConfig.value document.entries ifname

private theorem holds_values (document : Document) : document.Holds document.values := by
  intro ifname
  rw [get?_values]
  cases document.get? ifname with
  | none => rfl
  | some config => simp [Option.filter, config.notNull]

theorem ofMembers_values (document : Document) : ofMembers document.values.entries = document := by
  simp only [ofMembers, values, List.map_map, Function.comp_def, InterfaceConfig.ofJson_self,
    List.map_id']
  exact congrArg Document.mk (NameMap.ext (sortEntries_ordered document.nics.ordered))

end Document

/-- Where every number is read back from its text, both shapes of a mapping load as the document of
its entries that are not null, the bare one just when no object stands under the marking name; so do
the texts that documents are displayed as, each of which is the bare shape of the values in the
document. -/
theorem Payload.shapes_load {spacing : Json.Spacing} (blank : spacing.Blank) :
    (∀ nics : NameMap Json, nics.Canonical → ∃ document : Document, document.Holds nics ∧
      ((wrappedBody nics).Lasts → (wrappedBody nics).depth ≤ Json.maxDepth →
        load? (.ofList (Json.writeWith spacing 0 (wrappedBody nics))) = some document) ∧
      ((bareBody nics).Lasts → (bareBody nics).depth ≤ Json.maxDepth →
        LoadsIff (.ofList (Json.writeWith spacing 0 (bareBody nics))) document
          (¬ ∃ members, nics.get? "nics" = some (.object members)))) ∧
    (∀ document : Document, document.values.Canonical →
      ((Json.object [("nics", document.toJson)]).Lasts →
        (Json.object [("nics", document.toJson)]).depth ≤ Json.maxDepth →
        load? (.ofList (Json.writeWith spacing 0 (.object [("nics", document.toJson)]))) =
          some document) ∧
      (document.toJson.Lasts → document.toJson.depth ≤ Json.maxDepth →
        LoadsIff (.ofList (Json.writeWith spacing 0 document.toJson)) document
          (¬ ∃ members, (document.get? "nics").map (·.value) = some (.object members)))) := by
  constructor
  · intro nics canonical
    have holds : (wrapped nics).document.Holds nics := document_holds (wrapped nics)
    exact ⟨(wrapped nics).document, holds,
      fun lasts shallow => load?_wrappedBody blank canonical lasts shallow holds,
      fun lasts shallow => loadsIff_bareBody blank canonical lasts shallow holds⟩
  · intro document canonical
    have holds := document.holds_values
    refine ⟨fun lasts shallow => load?_wrappedBody blank canonical lasts shallow holds,
      fun lasts shallow => ?_⟩
    rw [← Document.get?_values]
    exact loadsIff_bareBody blank canonical lasts shallow holds

namespace Payload

/-- A mapping in which an interface has the marking name, and its configuration as well. -/
def markedNics : NameMap Json :=
  ⟨[("eth0", .object [("load", .number (.float ⟨false, 4503599627370496, -53, by decide⟩)),
      ("mtu", .number (.whole 1500 (by decide)))]), ("lo", .null),
    ("nics", .object [("nics", .object [("nics", .null)])])], by decide⟩

def markedDocument : Document :=
  ⟨⟨[("nics", ⟨.object [("nics", .object [])], rfl⟩)], List.pairwise_singleton _ _⟩⟩

theorem shapes_load_marked :
    (∃ document loaded : Document,
      load? (Json.indented (wrappedBody markedNics)) = some document ∧
      load? (Json.indented (bareBody markedNics)) = some loaded ∧
      document.get? "lo" = none ∧ loaded.same document = false) ∧
    load? (Json.compact (.object [("nics", markedDocument.toJson)])) = some markedDocument ∧
    load? (Json.compact markedDocument.toJson) ≠ some markedDocument := by
  obtain ⟨mappings, _⟩ := shapes_load Json.Spacing.blank_indented
  obtain ⟨_, documents⟩ := shapes_load Json.Spacing.blank_compact
  constructor
  · have canonical : markedNics.Canonical := by
      intro entry inside
      simp only [markedNics, List.mem_cons, List.not_mem_nil, or_false] at inside
      rcases inside with rfl | rfl | rfl <;> rfl
    have marked : ∃ members, markedNics.get? "nics" = some (.object members) := ⟨_, rfl⟩
    obtain ⟨document, holds, wraps, bares⟩ := mappings markedNics canonical
    have short : ∀ number ∈ (bareBody markedNics).numbers, number.Short := by decide +kernel
    obtain ⟨loaded, loads, _, same⟩ := bares (Json.lasts_of_short short) (by decide)
    refine ⟨document, loaded, wraps (Json.lasts_of_short short) (by decide), loads,
      Option.map_eq_none_iff.mp (holds "lo"), ?_⟩
    exact Bool.eq_false_iff.mpr fun equal => same.mp equal marked
  · have canonical : markedDocument.values.Canonical := by
      simp [NameMap.Canonical, Document.values, Document.entries, markedDocument, Json.Canonical,
        Json.canonical, Json.canonicalMembers, sortEntries, insertEntry]
    obtain ⟨wraps, bares⟩ := documents markedDocument canonical
    obtain ⟨loaded, loads, equal, _⟩ := bares (by decide) (by decide)
    refine ⟨wraps (by decide) (by decide), fun recovered => ?_⟩
    have unmarked := equal.mp (Option.some.inj (loads.symm.trans recovered))
    exact unmarked ⟨_, rfl⟩

end Payload

end InterfaceSync
