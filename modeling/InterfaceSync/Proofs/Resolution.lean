import InterfaceSync.Proofs.Edits
import InterfaceSync.Proofs.PayloadShapes

/-! The configuration that is shown. A store is compared with one that holds plain values, of which
nothing says that they are not null. Both are fed the same: loaded payloads, which drop what is
null, documents and edits, which take it for the empty object. They hold the same values and select
the same interface, so none of the plain values is null, and what is shown is read off them. -/

namespace InterfaceSync

/-- What a store can be fed. The values in it may be anything. -/
inductive Store.Feed
  | startLoad
  | fetched (names : List String) (payload : Payload) (now : Time)
  | document (ifnames : List Ifname) (members : List (Ifname × Json)) (now : Time)
  | recordFailure (error : SyncError)
  | drop (guard : LoadGuard)
  | select (ifname : Ifname)
  | deselect
  | edit (expected : Option Ifname) (value : Json)

namespace Store.Feed

def deed : Store.Feed → Store.Deed
  | .startLoad => .command .startLoad
  | .fetched names payload now => .command (.publish (.join names payload) now)
  | .document ifnames members now => .command (.publish ⟨ifnames, .ofMembers members⟩ now)
  | .recordFailure error => .command (.recordFailure error)
  | .drop guard => .drop guard
  | .select ifname => .command (.select ifname)
  | .deselect => .command .deselect
  | .edit none value => .command (.apply (.ofJson value))
  | .edit (some expected) value => .command (.applyTo expected (.ofJson value))

end Store.Feed

/-- A store of plain values. -/
structure PlainStore where
  ready : Bool
  current : Option Ifname
  stored : Ifname → Option Json

namespace PlainStore

def new : PlainStore := ⟨false, none, fun _ => none⟩

def load (store : PlainStore) (stored : Ifname → Option Json) : PlainStore :=
  if store.ready then store else { store with ready := true, stored }

/-- The value that is filed for a value in a document or an edit. -/
def filed (value : Json) : Json :=
  if value.isNull then .object [] else value

/-- An edit reaches the current interface if it is meant for it. An equal value there is kept. -/
def edit (store : PlainStore) (expected : Option Ifname) (value : Json) : PlainStore :=
  match store.current with
  | none => store
  | some current =>
    if store.ready = true ∧ expected.all (· == current) = true ∧
        (store.stored current).any (·.same value) = false then
      { store with stored := Function.update store.stored current (some value) }
    else store

def feed (store : PlainStore) : Store.Feed → PlainStore
  | .fetched _ payload _ => store.load fun ifname => (payload.nics.get? ifname).filter (!·.isNull)
  | .document _ members _ => store.load fun ifname => (members.reverse.lookup ifname).map filed
  | .select ifname => { store with current := some ifname }
  | .deselect => { store with current := none }
  | .edit expected value => store.edit expected (filed value)
  | .startLoad | .recordFailure _ | .drop _ => store

/-- The value to show. -/
def shown (store : PlainStore) : Json :=
  (store.current.bind store.stored).getD (.object [])

def NoNull (store : PlainStore) : Prop :=
  ∀ ifname, store.stored ifname ≠ some .null

private theorem filed_ne_null (value : Json) : filed value ≠ .null := by
  cases value <;> simp [filed, Json.isNull]

private theorem NoNull.load {store : PlainStore} (noNull : store.NoNull)
    {stored : Ifname → Option Json}
    (loaded : ∀ ifname, stored ifname ≠ some .null) : (store.load stored).NoNull := by
  unfold PlainStore.load
  split
  · exact noNull
  · exact loaded

private theorem NoNull.edit {store : PlainStore} (noNull : store.NoNull) (expected : Option Ifname)
    {value : Json} (notNull : value ≠ .null) : (store.edit expected value).NoNull := by
  unfold PlainStore.edit
  split
  · exact noNull
  next current _ =>
    split
    · intro ifname
      by_cases here : ifname = current
      · simpa [here] using notNull
      · simpa [Function.update_of_ne here] using noNull ifname
    · exact noNull

theorem edit_refused {store : PlainStore} {expected : Option Ifname} (value : Json)
    (refused : ∀ current, store.current = some current →
      ¬ (store.ready = true ∧ expected.all (· == current) = true)) :
    store.edit expected value = store := by
  unfold edit
  split
  · rfl
  next current selected =>
    exact if_neg fun ⟨ready, meant, _⟩ => refused current selected ⟨ready, meant⟩

private theorem edit_meant {store : PlainStore} {expected : Option Ifname} {current : Ifname}
    (value : Json) (ready : store.ready = true) (selected : store.current = some current)
    (meant : expected.all (· == current) = true) :
    store.edit expected value =
      if (store.stored current).any (·.same value) = false then
        { store with stored := Function.update store.stored current (some value) }
      else store := by
  simp only [edit, selected]
  exact if_congr (by simp only [ready, meant, true_and]) rfl rfl

private theorem NoNull.feed {store : PlainStore} (noNull : store.NoNull) (feed : Store.Feed) :
    (store.feed feed).NoNull := by
  cases feed with
  | fetched names payload now =>
    refine noNull.load fun ifname null => ?_
    cases (Option.filter_eq_some_iff.mp null).2
  | document ifnames members now =>
    refine noNull.load fun ifname null => ?_
    obtain ⟨value, _, equal⟩ := Option.map_eq_some_iff.mp null
    exact filed_ne_null value equal
  | edit expected value => exact noNull.edit expected (filed_ne_null value)
  | startLoad | recordFailure | drop | select | deselect => exact noNull

private theorem NoNull.feeds {store : PlainStore} (noNull : store.NoNull) (feeds : List Store.Feed)
    : (feeds.foldl PlainStore.feed store).NoNull := by
  induction feeds generalizing store with
  | nil => exact noNull
  | cons feed rest ih => exact ih (noNull.feed feed)

end PlainStore

namespace Store

def plain (store : Store) : PlainStore where
  ready := store.snapshot.isReady
  current := store.snapshot.current
  stored ifname := (store.snapshot.document.get? ifname).map (·.value)

theorem plain_ready {store : Store} : store.plain.ready = true ↔ store.snapshot.loadState = .ready :=
  Snapshot.isReady_iff

private theorem plain_publish (store : Store) (loaded : Loaded) (now : Time) :
    (store.publish loaded now).state.plain =
      store.plain.load fun ifname => (loaded.document.get? ifname).map (·.value) := by
  by_cases ready : store.snapshot.loadState = .ready
  · rw [publish_ready _ _ ready, PlainStore.load, if_pos (plain_ready.mpr ready)]
  · rw [publish_unloaded _ _ ready, PlainStore.load, if_neg (mt plain_ready.mp ready)]
    rfl

theorem plain_restate {store : Store} (unloaded : store.snapshot.loadState ≠ .ready)
    {state : LoadState} (unready : state.isReady = false) :
    (store.publishSnapshot { store.snapshot with loadState := state }).plain = store.plain := by
  have before : store.snapshot.isReady = false :=
    Bool.eq_false_iff.mpr (mt Snapshot.isReady_iff.mp unloaded)
  exact congrArg (PlainStore.mk · _ _) (unready.trans before.symm)

private theorem plain_startLoad (store : Store) : store.startLoad.state.plain = store.plain := by
  by_cases ready : store.snapshot.loadState = .ready
  · rw [startLoad_ready ready]
  by_cases loading : store.snapshot.loadState = .loading
  · rw [startLoad_loading loading]
  rw [startLoad_idle (LoadState.idle_iff.mpr ⟨ready, loading⟩)]
  exact plain_restate ready rfl

private theorem plain_recordFailure (store : Store) (error : SyncError) :
    (store.recordFailure error).state.plain = store.plain := by
  by_cases ready : store.snapshot.loadState = .ready
  · rw [recordFailure_ready error ready]
  · rw [recordFailure_unloaded error ready]
    exact plain_restate ready rfl

private theorem plain_select (store : Store) (ifname : Ifname) :
    (store.select ifname).state.plain = { store.plain with current := some ifname } := by
  unfold select
  split
  next same => exact same ▸ rfl
  next => rfl

private theorem plain_deselect (store : Store) :
    store.deselect.state.plain = { store.plain with current := none } := by
  unfold deselect
  split
  next same => exact same ▸ rfl
  next => rfl

private theorem plain_refused {store : Store} {expected : Option Ifname} {error : SyncError}
    (refusal : Refusal store.snapshot expected error) (value : Json) :
    store.plain.edit expected value = store.plain := by
  refine PlainStore.edit_refused value fun current selected ⟨ready, meant⟩ => ?_
  cases refusal with
  | notReady unloaded => exact unloaded (plain_ready.mp ready)
  | noSelection ready unselected => cases unselected.symm.trans selected
  | stale ready selected' named different =>
    cases selected'.symm.trans selected
    rw [named] at meant
    exact different (beq_iff_eq.mp meant)

private theorem plain_withConfig (document : Document) (current : Ifname) (edited : InterfaceConfig)
    :
    (fun ifname => ((document.withConfig current edited).get? ifname).map (·.value)) =
      Function.update (fun ifname => (document.get? ifname).map (·.value)) current
        (some edited.value) := by
  funext ifname
  rw [Document.get?_withConfig, Function.update_apply]
  split <;> rfl

private theorem plain_fileEdit (store : Store) (expected : Option Ifname) (edited : InterfaceConfig)
    : (store.fileEdit expected edited).state.plain = store.plain.edit expected edited.value := by
  rcases refused_or_meant store.snapshot expected with
    ⟨error, refusal⟩ | ⟨ready, current, selected, meant⟩
  · rw [fileEdit_refused edited refusal, plain_refused refusal]
  have named : expected.all (· == current) = true := by
    cases expected with
    | none => rfl
    | some name => exact beq_iff_eq.mpr (meant name rfl)
  have held : (store.plain.stored current).any (·.same edited.value) =
      (store.snapshot.document.get? current).any (·.same edited) := Option.any_map
  rw [PlainStore.edit_meant _ (plain_ready.mpr ready) selected named, held]
  by_cases equal : store.snapshot.document.HasEqual current edited
  · -- The stored value stays on both sides, although the edited one may have other signs of zeros.
    obtain ⟨stored, present, same⟩ := equal
    rw [fileEdit_unchanged ready selected meant present same, present, Option.any_some, same]
    rfl
  · have different : ∀ stored, store.snapshot.document.get? current = some stored →
        stored.same edited = false := by simpa [Document.HasEqual] using equal
    have none_ : (store.snapshot.document.get? current).any (·.same edited) = false := by
      simpa [Option.any_eq_false] using different
    rw [(fileEdit_changed ready selected meant different).2, if_pos none_]
    exact congrArg (PlainStore.mk store.snapshot.isReady store.snapshot.current)
      (plain_withConfig _ current edited)

private theorem plain_feed (store : Store) (feed : Store.Feed) :
    (feed.deed.run store).plain = store.plain.feed feed := by
  cases feed with
  | startLoad => exact store.plain_startLoad
  | fetched names payload now =>
    refine (store.plain_publish _ now).trans ?_
    exact congrArg store.plain.load (funext payload.document_holds)
  | document ifnames members now =>
    refine (store.plain_publish _ now).trans ?_
    refine congrArg store.plain.load (funext fun ifname => ?_)
    rw [Document.get?_ofMembers, Option.map_map]
    exact congrArg (Option.map · _) (funext InterfaceConfig.ofJson_value)
  | recordFailure error => exact store.plain_recordFailure error
  | drop guard =>
    simp only [Feed.deed, Deed.run, LoadGuard.drop]
    split
    · exact store.plain_recordFailure _
    · rfl
  | select ifname => exact store.plain_select ifname
  | deselect => exact store.plain_deselect
  | edit expected value =>
    rw [PlainStore.feed, PlainStore.filed, ← InterfaceConfig.ofJson_value]
    cases expected with
    | none => exact store.plain_fileEdit none _
    | some expected => exact store.plain_fileEdit (some expected) _

private theorem plain_feeds (store : Store) (feeds : List Store.Feed) :
    (store.afterDeeds (feeds.map Feed.deed)).plain = feeds.foldl PlainStore.feed store.plain := by
  induction feeds generalizing store with
  | nil => rfl
  | cons feed rest ih =>
    rw [List.foldl_cons, ← plain_feed]
    exact ih (feed.deed.run store)

end Store

theorem InterfaceConfig.empty_iff {config : InterfaceConfig} :
    config.value = .object [] ↔ config = .empty := by
  refine ⟨fun same => ?_, fun same => same ▸ rfl⟩
  cases config
  cases same
  rfl

/-- Nothing else can be done to a store than to feed it. -/
theorem Store.Feed.deed_surjective : Function.Surjective Store.Feed.deed := by
  intro deed
  cases deed with
  | drop guard => exact ⟨.drop guard, rfl⟩
  | command command =>
    cases command with
    | startLoad => exact ⟨.startLoad, rfl⟩
    | publish loaded now =>
      refine ⟨.document loaded.ifnames loaded.document.values.entries now, ?_⟩
      rw [deed, Document.ofMembers_values]
    | recordFailure error => exact ⟨.recordFailure error, rfl⟩
    | select ifname => exact ⟨.select ifname, rfl⟩
    | deselect => exact ⟨.deselect, rfl⟩
    | apply edited =>
      refine ⟨.edit none edited.value, ?_⟩
      rw [deed, edited.ofJson_self]
    | applyTo expected edited =>
      refine ⟨.edit (some expected) edited.value, ?_⟩
      rw [deed, edited.ofJson_self]

namespace Snapshot

variable {snapshot : Snapshot}

theorem resolve_stored {ifname : Ifname} {config : InterfaceConfig}
    (selected : snapshot.current = some ifname)
    (stored : snapshot.document.get? ifname = some config) : snapshot.resolve = config := by
  rw [resolve, stored?, selected, Option.bind_some, stored, Option.getD_some]

theorem resolve_absent
    (absent : ∀ ifname, snapshot.current = some ifname → snapshot.document.get? ifname = none) :
    snapshot.resolve = .empty := by
  have nothing : snapshot.stored? = none := Option.bind_eq_none_iff.mpr absent
  rw [resolve, nothing, Option.getD_none]

private theorem resolve_empty_iff :
    snapshot.resolve = .empty ↔
      snapshot.current = none ∨ ∃ ifname, snapshot.current = some ifname ∧
        (snapshot.document.get? ifname = none ∨ snapshot.document.get? ifname = some .empty) := by
  cases selected : snapshot.current with
  | none =>
    have shown : snapshot.resolve = .empty := resolve_absent (by simp [selected])
    simp [shown]
  | some ifname =>
    cases stored : snapshot.document.get? ifname with
    | none =>
      have shown : snapshot.resolve = .empty := resolve_absent (by simp [selected, stored])
      simp [shown, stored]
    | some config => simp [resolve_stored selected stored, stored]

private theorem resolve_plain (store : Store) : store.snapshot.resolve.value = store.plain.shown :=
    by
  simp only [PlainStore.shown, Store.plain, resolve, stored?]
  cases store.snapshot.current with
  | none => rfl
  | some ifname =>
    simp only [Option.bind_some]
    cases store.snapshot.document.get? ifname <;> rfl

end Snapshot

/-- A store reaches no state but those that feeding it leads to. Whatever it is fed, it holds the
values that a store of plain values does, and none of them is null. What is shown is the value stored
for the current interface, and the empty object if there is none; so it is before a load has
succeeded, and in no other case than these or that of a stored empty object. -/
theorem Store.resolve_fed :
    (∀ deeds : List Store.Deed, ∃ feeds : List Store.Feed, feeds.map Store.Feed.deed = deeds) ∧
    ∀ feeds : List Store.Feed,
    let store := Store.new.afterDeeds (feeds.map Store.Feed.deed)
    let plain := feeds.foldl PlainStore.feed .new
    let snapshot := store.snapshot
    (∀ ifname, (snapshot.document.get? ifname).map (·.value) = plain.stored ifname) ∧
    (∀ ifname config, snapshot.document.get? ifname = some config → config.value ≠ .null) ∧
    snapshot.resolve.value = plain.shown ∧
    (∀ ifname config, snapshot.current = some ifname →
      snapshot.document.get? ifname = some config → snapshot.resolve = config) ∧
    ((∀ ifname, snapshot.current = some ifname → snapshot.document.get? ifname = none) →
      snapshot.resolve.value = .object []) ∧
    (snapshot.loadState ≠ .ready → snapshot.resolve.value = .object []) ∧
    (snapshot.resolve.value = .object [] ↔
      snapshot.current = none ∨ ∃ ifname, snapshot.current = some ifname ∧
        (snapshot.document.get? ifname = none ∨
          (snapshot.document.get? ifname).map (·.value) = some (.object []))) := by
  refine ⟨Store.Feed.deed_surjective.list_map, ?_⟩
  intro feeds store plain snapshot
  have same : store.plain = plain := Store.plain_feeds Store.new feeds
  have stored (ifname : Ifname) :
      (snapshot.document.get? ifname).map (·.value) = plain.stored ifname := by
    rw [← same]
    rfl
  have initial : PlainStore.new.NoNull := nofun
  have noNull : plain.NoNull := initial.feeds feeds
  have consistent : snapshot.Consistent := by
    simp only [snapshot, store, Store.afterDeeds_eq]
    exact Store.after_consistent _ _ Snapshot.consistent_initial
  refine ⟨stored, ?_, ?_, fun _ _ => Snapshot.resolve_stored, ?_, ?_, ?_⟩
  · intro ifname config held null
    refine noNull ifname ?_
    rw [← stored, held, Option.map_some, null]
  · rw [← same]
    exact Snapshot.resolve_plain store
  · exact fun absent => InterfaceConfig.empty_iff.mpr (Snapshot.resolve_absent absent)
  · intro unloaded
    refine InterfaceConfig.empty_iff.mpr (Snapshot.resolve_absent fun ifname _ => ?_)
    rw [(consistent.blank unloaded).2, Document.get?_empty]
  · rw [InterfaceConfig.empty_iff, Snapshot.resolve_empty_iff]
    simp only [Option.map_eq_some_iff, InterfaceConfig.empty_iff, exists_eq_right]

end InterfaceSync
