import InterfaceSync.Json.Writer
import InterfaceSync.Proofs.JsonEquality
import InterfaceSync.Proofs.Lifecycle

/-! What an edit does: when it is refused, what it leaves alone, what it publishes, and what is
shown once it was accepted. All of it holds in every state of a store, whether or not the host
reported the interface that is edited. -/

namespace InterfaceSync

def Document.HasEqual (document : Document) (ifname : Ifname) (edited : InterfaceConfig) : Prop :=
  ∃ stored, document.get? ifname = some stored ∧ stored.same edited = true

theorem Document.contains_iff {document : Document} {ifname : Ifname} :
    document.contains ifname = true ↔ ∃ stored, document.get? ifname = some stored :=
  Option.isSome_iff_exists

namespace Store

/-- An accepted edit of the current interface: the document that it answers with, and the store that
it leaves. -/
structure Files (store : Store) (current : Ifname) (edited : InterfaceConfig) (document : Document)
    (after : Store) : Prop where
  snapshot : after.snapshot = { store.snapshot with document }
  filed : document.HasEqual current edited
  written : ¬ store.snapshot.document.HasEqual current edited →
    document.get? current = some edited
  others : ∀ ifname, ifname ≠ current → document.get? ifname = store.snapshot.document.get? ifname
  names : ∀ ifname, document.contains ifname = true ↔
    store.snapshot.document.contains ifname = true ∨ ifname = current
  /-- An edit that changes nothing is not published. -/
  idle : store.snapshot.document.HasEqual current edited → after = store
  published : ¬ store.snapshot.document.HasEqual current edited → after.version = store.version + 1

/-- How a store takes an edit that is meant for whatever is current, or for a given interface. -/
structure Folds (store : Store) (expected : Option Ifname) (edited : InterfaceConfig)
    (fold : Store → Outcome Store (Except SyncError Document)) : Prop where
  notReady : (fold store).answer = .error .notReady ↔ store.snapshot.loadState ≠ .ready
  noSelection : (fold store).answer = .error .noSelection ↔
    store.snapshot.loadState = .ready ∧ store.snapshot.current = none
  stale : ∀ meant current, (fold store).answer = .error (.staleTarget meant current) ↔
    store.snapshot.loadState = .ready ∧ store.snapshot.current = some current ∧
      expected = some meant ∧ meant ≠ current
  /-- There is no other reason to refuse an edit, and a refused one leaves no trace. -/
  refused : ∀ error, (fold store).answer = .error error → (fold store).state = store ∧
    (error = .notReady ∨ error = .noSelection ∨ ∃ meant current, error = .staleTarget meant current)
  accepted : ∀ document, (fold store).answer = .ok document →
    ∃ current, store.snapshot.current = some current ∧
      store.Files current edited document (fold store).state
  repeated : ∀ document, (fold store).answer = .ok document →
    (fold (fold store).state).answer = .ok document ∧
      (fold (fold store).state).state = (fold store).state

end Store

section
variable {found : Snapshot} {expected : Option Ifname}

private theorem refusal_notReady : Refusal found expected .notReady ↔ found.loadState ≠ .ready :=
  ⟨fun | .notReady unloaded => unloaded, .notReady⟩

private theorem refusal_noSelection :
    Refusal found expected .noSelection ↔ found.loadState = .ready ∧ found.current = none :=
  ⟨fun | .noSelection ready unselected => ⟨ready, unselected⟩,
    fun ⟨ready, unselected⟩ => .noSelection ready unselected⟩

private theorem refusal_stale {meant current : Ifname} :
    Refusal found expected (.staleTarget meant current) ↔
      found.loadState = .ready ∧ found.current = some current ∧ expected = some meant ∧
        meant ≠ current :=
  ⟨fun | .stale ready selected named different => ⟨ready, selected, named, different⟩,
    fun ⟨ready, selected, named, different⟩ => .stale ready selected named different⟩

private theorem refusal_cases {error : SyncError} (refusal : Refusal found expected error) :
    error = .notReady ∨ error = .noSelection ∨
      ∃ meant current, error = .staleTarget meant current := by
  cases refusal with
  | notReady => exact .inl rfl
  | noSelection => exact .inr (.inl rfl)
  | stale => exact .inr (.inr ⟨_, _, rfl⟩)

end

namespace Store

variable {store : Store} {expected : Option Ifname} {current : Ifname} {edited : InterfaceConfig}
  {document : Document}

private theorem files_unchanged {stored : InterfaceConfig}
    (present : store.snapshot.document.get? current = some stored)
    (same : stored.same edited = true) :
    store.Files current edited store.snapshot.document store where
  snapshot := rfl
  filed := ⟨stored, present, same⟩
  written fresh := absurd ⟨stored, present, same⟩ fresh
  others _ _ := rfl
  names ifname := by
    refine (or_iff_left_of_imp ?_).symm
    rintro rfl
    exact Document.contains_iff.mpr ⟨stored, present⟩
  idle _ := rfl
  published fresh := absurd ⟨stored, present, same⟩ fresh

private theorem files_changed (fresh : ¬ store.snapshot.document.HasEqual current edited) :
    store.Files current edited (store.snapshot.document.withConfig current edited)
      (store.publishSnapshot
        { store.snapshot with document := store.snapshot.document.withConfig current edited }) where
  snapshot := rfl
  filed := ⟨edited, by rw [Document.get?_withConfig, if_pos rfl], edited.same_refl⟩
  written _ := by rw [Document.get?_withConfig, if_pos rfl]
  others ifname other := by rw [Document.get?_withConfig, if_neg other]
  names ifname := by
    rw [Document.contains_iff, Document.contains_iff, Document.get?_withConfig]
    split
    next here => simp [here]
    next other => simp [other]
  idle held := absurd held fresh
  published _ := rfl

theorem fileEdit_accepted (edited : InterfaceConfig) (ready : store.snapshot.loadState = .ready)
    (selected : store.snapshot.current = some current) (meant : Meant expected current) :
    ∃ document, (store.fileEdit expected edited).answer = .ok document ∧
      store.Files current edited document (store.fileEdit expected edited).state := by
  by_cases equal : store.snapshot.document.HasEqual current edited
  · obtain ⟨stored, present, same⟩ := equal
    rw [fileEdit_unchanged ready selected meant present same]
    exact ⟨_, rfl, files_unchanged present same⟩
  · have different : ∀ stored, store.snapshot.document.get? current = some stored →
        stored.same edited = false := by simpa [Document.HasEqual] using equal
    obtain ⟨answer, state⟩ := fileEdit_changed ready selected meant different
    rw [state]
    exact ⟨_, answer, files_changed equal⟩

theorem fileEdit_error {error : SyncError} :
    (store.fileEdit expected edited).answer = .error error ↔
      Refusal store.snapshot expected error := by
  refine ⟨fun answer => ?_, fun refusal => by rw [fileEdit_refused edited refusal]⟩
  rcases refused_or_meant store.snapshot expected with
    ⟨reason, refusal⟩ | ⟨ready, current, selected, meant⟩
  · rw [fileEdit_refused edited refusal] at answer
    cases answer
    exact refusal
  · obtain ⟨document, accepted, _⟩ := fileEdit_accepted edited ready selected meant
    cases accepted.symm.trans answer

theorem fileEdit_ok (answer : (store.fileEdit expected edited).answer = .ok document) :
    ∃ current, store.snapshot.loadState = .ready ∧ store.snapshot.current = some current ∧
      Meant expected current ∧
      store.Files current edited document (store.fileEdit expected edited).state := by
  rcases refused_or_meant store.snapshot expected with
    ⟨error, refusal⟩ | ⟨ready, current, selected, meant⟩
  · cases (fileEdit_error.mpr refusal).symm.trans answer
  · obtain ⟨found, accepted, files⟩ := fileEdit_accepted edited ready selected meant
    cases accepted.symm.trans answer
    exact ⟨current, ready, selected, meant, files⟩

theorem fileEdit_repeated (answer : (store.fileEdit expected edited).answer = .ok document) :
    let after := (store.fileEdit expected edited).state
    (after.fileEdit expected edited).answer = .ok document ∧
      (after.fileEdit expected edited).state = after := by
  intro after
  obtain ⟨current, ready, selected, meant, files⟩ := fileEdit_ok answer
  have shown : after.snapshot = { store.snapshot with document } := files.snapshot
  obtain ⟨stored, present, same⟩ := files.filed
  rw [fileEdit_unchanged (by rw [shown]; exact ready) (by rw [shown]; exact selected) meant
    (by rw [shown]; exact present) same, shown]
  exact ⟨rfl, rfl⟩

private theorem folds (store : Store) (expected : Option Ifname) (edited : InterfaceConfig) :
    store.Folds expected edited (·.fileEdit expected edited) where
  notReady := fileEdit_error.trans refusal_notReady
  noSelection := fileEdit_error.trans refusal_noSelection
  stale _ _ := fileEdit_error.trans refusal_stale
  refused error answer := by
    have refusal := fileEdit_error.mp answer
    refine ⟨?_, refusal_cases refusal⟩
    rw [fileEdit_refused edited refusal]
  accepted document answer := by
    obtain ⟨current, _, selected, _, files⟩ := fileEdit_ok answer
    exact ⟨current, selected, files⟩
  repeated document answer := fileEdit_repeated answer

/-- In every state that a store can reach, an edit is refused for one of three reasons, in their
order, or files the configuration under the current interface and leaves all else alone; an edit
meant for the current interface is an edit of whatever is current. -/
theorem edits_fold (deeds : List Store.Deed) (edited : InterfaceConfig) :
    let store := Store.new.afterDeeds deeds
    store.Folds none edited (·.apply edited) ∧
    (∀ expected, store.Folds (some expected) edited (·.applyTo expected edited)) ∧
    ∀ current, store.snapshot.current = some current →
      store.applyTo current edited = store.apply edited := by
  intro store
  refine ⟨store.folds none edited, fun expected => store.folds (some expected) edited, ?_⟩
  intro current selected
  have meant : (some current).filter (· != current) = none := by simp [Option.filter]
  simp only [applyTo, apply, fileEdit, selected, meant, Option.filter_none]

/-- What is shown for the current interface once an edit of it was accepted. It is the entry in the
document of the answer. Where an equal configuration was there, nothing has changed, so that one
stays, and its text with it; where none was, the text is that of the edit. Up to the signs of zeros
it is the text of the edit in either case. -/
structure Shows (store : Store) (current : Ifname) (edited : InterfaceConfig) (document : Document)
    (after : Store) : Prop where
  selected : after.snapshot.current = some current
  entry : document.get? current = some after.snapshot.resolve
  kept : ∀ stored, store.snapshot.document.get? current = some stored → stored.same edited = true →
    after = store ∧ document = store.snapshot.document ∧ after.snapshot.resolve = stored
  text : ¬ store.snapshot.document.HasEqual current edited →
    after.snapshot.resolve.value.compact = edited.value.compact
  unsigned : after.snapshot.resolve.value.unsigned = edited.value.unsigned

private theorem resolve_of_get? {snapshot : Snapshot} (selected : snapshot.current = some current)
    {config : InterfaceConfig} (held : snapshot.document.get? current = some config) :
    snapshot.resolve = config := by
  rw [Snapshot.resolve, Snapshot.stored?, selected, Option.bind_some, held, Option.getD_some]

private theorem Files.shows {after : Store} (files : store.Files current edited document after)
    (selected : store.snapshot.current = some current) :
    store.Shows current edited document after := by
  have selected' : after.snapshot.current = some current := by
    rw [files.snapshot]
    exact selected
  have document' : after.snapshot.document = document := by rw [files.snapshot]
  have resolved {config : InterfaceConfig} (held : document.get? current = some config) :
      after.snapshot.resolve = config := by
    rw [← document'] at held
    exact resolve_of_get? selected' held
  obtain ⟨filed, present, same⟩ := files.filed
  refine ⟨selected', ?_, ?_, ?_, ?_⟩
  · rw [present, resolved present]
  · intro stored there equal
    have idle := files.idle ⟨stored, there, equal⟩
    rw [idle] at document'
    exact ⟨idle, document'.symm, resolved (document' ▸ there)⟩
  · intro fresh
    rw [resolved (files.written fresh)]
  · rw [resolved present]
    exact (Json.same_iff _ _).mp same

private theorem fileEdit_shows (answer : (store.fileEdit expected edited).answer = .ok document) :
    ∃ current, store.snapshot.current = some current ∧
      store.Shows current edited document (store.fileEdit expected edited).state := by
  obtain ⟨current, _, selected, _, files⟩ := fileEdit_ok answer
  exact ⟨current, selected, files.shows selected⟩

/-- In every state that a store can reach, an accepted edit is what is shown afterwards, for the
current interface and in the document of the answer, unless an equal configuration was there: that
one stays. -/
theorem edit_shown (deeds : List Store.Deed) (value : Json) :
    let store := Store.new.afterDeeds deeds
    let edited := InterfaceConfig.ofJson value
    (∀ document, (store.apply edited).answer = .ok document →
      ∃ current, store.snapshot.current = some current ∧
        store.Shows current edited document (store.apply edited).state) ∧
    ∀ expected document, (store.applyTo expected edited).answer = .ok document →
      ∃ current, store.snapshot.current = some current ∧
        store.Shows current edited document (store.applyTo expected edited).state :=
  ⟨fun _ => fileEdit_shows, fun _ _ => fileEdit_shows⟩

/-- An equal configuration is there for the first edit, and none for the second one. -/
theorem edit_shown_skew :
    let skew (negative : Bool) : Json := .object [("skew", .number (.float (.zero negative)))]
    let store := Store.new.afterDeeds ([.startLoad,
      .publish ⟨["eth0"], .ofEntries [("eth0", .ofJson (skew true))]⟩ 0, .select "eth0"].map .command)
    let resigned := store.apply (.ofJson (skew false))
    let emptied := store.applyTo "eth0" (.ofJson .null)
    (resigned.state = store ∧ resigned.state.snapshot.resolve = .ofJson (skew true)) ∧
    emptied.state.snapshot.resolve.value.compact = "\x7b\x7d" := by
  intro skew store resigned emptied
  constructor
  · obtain ⟨current, selected, shows⟩ := (edit_shown _ (skew false)).1 _ (rfl : resigned.answer = .ok _)
    cases selected
    obtain ⟨idle, _, stays⟩ := shows.kept (.ofJson (skew true)) rfl rfl
    exact ⟨idle, stays⟩
  · obtain ⟨current, selected, shows⟩ := (edit_shown _ .null).2 _ _ (rfl : emptied.answer = .ok _)
    cases selected
    refine (shows.text ?_).trans rfl
    rintro ⟨stored, there, same⟩
    cases there
    cases same

/-- A zero that is there with a sign keeps it when it is edited to be without one. -/
theorem signedZero_stays :
    let skew (negative : Bool) : Json := .object [("skew", .number (.float (.zero negative)))]
    let store := Store.new.after [.startLoad,
      .publish ⟨["eth0"], .ofEntries [("eth0", .ofJson (skew true))]⟩ 0, .select "eth0"]
    let edited := InterfaceConfig.ofJson (skew false)
    let outcome := store.apply edited
    outcome.answer.toOption.isSome = true ∧
    outcome.state.snapshot.resolve.value.compact = "\x7b\"skew\":-0.0\x7d" ∧
    edited.value.compact = "\x7b\"skew\":0.0\x7d" := by
  decide +kernel

end Store

end InterfaceSync
