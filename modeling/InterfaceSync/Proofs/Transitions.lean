import InterfaceSync.Sync.Store

/-! What one command can do, said once. A transition relates the snapshot that a command finds to
its answer and to the snapshot that it publishes, if it publishes one. Every later statement about
commands is read off this relation and never off the commands themselves. -/

namespace InterfaceSync

/-- No load is under way and none has succeeded. -/
def LoadState.Idle (state : LoadState) : Prop :=
  state = .uninitialized ∨ ∃ failure, state = .failed failure

theorem LoadState.idle_iff {state : LoadState} :
    state.Idle ↔ state ≠ .ready ∧ state ≠ .loading := by
  cases state <;> simp [LoadState.Idle]

theorem LoadState.ready_or_loading {state : LoadState} (busy : ¬ state.Idle) :
    state = .ready ∨ state = .loading := by
  cases state <;> simp [LoadState.Idle] at busy ⊢

@[simp] theorem LoadState.isReady_iff {state : LoadState} : state.isReady = true ↔ state = .ready := by
  cases state <;> simp [LoadState.isReady]

@[simp] theorem Snapshot.isReady_iff {snapshot : Snapshot} :
    snapshot.isReady = true ↔ snapshot.loadState = .ready :=
  LoadState.isReady_iff

def Loaded.snapshot (loaded : Loaded) (current : Option Ifname) (now : Time) : Snapshot where
  loadState := .ready
  ifnames := loaded.ifnames
  document := loaded.document
  current
  loadedAt := some now

/-- An edit: the interface that it is meant for, if that was said, and the new configuration. -/
def Command.edit? : Command → Option (Option Ifname × InterfaceConfig)
  | .apply edited => some (none, edited)
  | .applyTo expected edited => some (some expected, edited)
  | _ => none

def Command.selection? : Command → Option (Option Ifname)
  | .select ifname => some (some ifname)
  | .deselect => some none
  | _ => none

/-- Why an edit is refused by the snapshot that it finds. -/
inductive Refusal (found : Snapshot) (expected : Option Ifname) : SyncError → Prop
  | notReady (unloaded : found.loadState ≠ .ready) : Refusal found expected .notReady
  | noSelection (ready : found.loadState = .ready) (unselected : found.current = none) :
      Refusal found expected .noSelection
  | stale {current meant : Ifname} (ready : found.loadState = .ready)
      (selected : found.current = some current) (named : expected = some meant)
      (different : meant ≠ current) : Refusal found expected (.staleTarget meant current)

/-- An edit is meant for whatever is current, or for an interface that is current. -/
def Meant (expected : Option Ifname) (current : Ifname) : Prop :=
  ∀ meant, expected = some meant → meant = current

inductive Transition (found : Snapshot) : Command → Answer → Option Snapshot → Prop
  | alreadyLoaded (ready : found.loadState = .ready) :
      Transition found .startLoad (.began false) none
  | inProgress (loading : found.loadState = .loading) :
      Transition found .startLoad (.refused .loadInProgress) none
  | began (idle : found.loadState.Idle) :
      Transition found .startLoad (.began true) (some { found with loadState := .loading })
  | late {loaded now} (ready : found.loadState = .ready) :
      Transition found (.publish loaded now) (.published found) none
  | loaded {loaded now} (unloaded : found.loadState ≠ .ready) :
      Transition found (.publish loaded now) (.published (loaded.snapshot found.current now))
        (some (loaded.snapshot found.current now))
  | failedLate {error} (ready : found.loadState = .ready) :
      Transition found (.recordFailure error) .done none
  | failed {error} (unloaded : found.loadState ≠ .ready) :
      Transition found (.recordFailure error) .done
        (some { found with loadState := .failed (.ofError error) })
  | reselected {ifname} (same : found.current = some ifname) :
      Transition found (.select ifname) .done none
  | selected {ifname} (different : found.current ≠ some ifname) :
      Transition found (.select ifname) .done (some { found with current := some ifname })
  | unselected (same : found.current = none) : Transition found .deselect .done none
  | deselected (different : found.current ≠ none) :
      Transition found .deselect .done (some { found with current := none })
  | refused {command expected edited error} (edit : command.edit? = some (expected, edited))
      (refusal : Refusal found expected error) : Transition found command (.refused error) none
  | unchanged {command expected edited current stored} (edit : command.edit? = some (expected, edited))
      (ready : found.loadState = .ready) (selected : found.current = some current)
      (meant : Meant expected current) (present : found.document.get? current = some stored)
      (same : stored.same edited = true) : Transition found command (.edited found.document) none
  | edited {command expected edited current} (edit : command.edit? = some (expected, edited))
      (ready : found.loadState = .ready) (selected : found.current = some current)
      (meant : Meant expected current)
      (different : ∀ stored, found.document.get? current = some stored → stored.same edited = false) :
      Transition found command (.edited (found.document.withConfig current edited))
        (some { found with document := found.document.withConfig current edited })

def Store.publishing (store : Store) (published : Option Snapshot) : Store :=
  published.elim store store.publishSnapshot

@[simp] theorem Store.publishing_none (store : Store) : store.publishing none = store := rfl

@[simp] theorem Store.publishing_some (store : Store) (snapshot : Snapshot) :
    store.publishing (some snapshot) = store.publishSnapshot snapshot := rfl

@[simp] theorem Store.publishSnapshot_snapshot (store : Store) (snapshot : Snapshot) :
    (store.publishSnapshot snapshot).snapshot = snapshot := rfl

theorem Store.publishing_snapshot (store : Store) (published : Option Snapshot) :
    (store.publishing published).snapshot = published.getD store.snapshot := by
  cases published <;> rfl

@[simp] theorem Outcome.map_answer {σ α β : Type} (f : α → β) (outcome : Outcome σ α) :
    (outcome.map f).answer = f outcome.answer := rfl

@[simp] theorem Outcome.map_state {σ α β : Type} (f : α → β) (outcome : Outcome σ α) :
    (outcome.map f).state = outcome.state := rfl

theorem Store.startLoad_ready {store : Store} (ready : store.snapshot.loadState = .ready) :
    store.startLoad = ⟨.ok false, store, []⟩ := by
  simp [Store.startLoad, ready]

theorem Store.startLoad_loading {store : Store} (loading : store.snapshot.loadState = .loading) :
    store.startLoad = ⟨.error .loadInProgress, store, []⟩ := by
  simp [Store.startLoad, loading]

theorem Store.startLoad_idle {store : Store} (idle : store.snapshot.loadState.Idle) :
    store.startLoad =
      ⟨.ok true, store.publishSnapshot { store.snapshot with loadState := .loading }, []⟩ := by
  rcases idle with fresh | ⟨failure, failed⟩
  · simp [Store.startLoad, fresh]
  · simp [Store.startLoad, failed]

theorem Store.publish_ready {store : Store} (loaded : Loaded) (now : Time)
    (ready : store.snapshot.loadState = .ready) :
    store.publish loaded now = ⟨store.snapshot, store, [.lateResult]⟩ := by
  simp [Store.publish, ready]

theorem Store.publish_unloaded {store : Store} (loaded : Loaded) (now : Time)
    (unloaded : store.snapshot.loadState ≠ .ready) :
    store.publish loaded now =
      ⟨loaded.snapshot store.snapshot.current now,
        store.publishSnapshot (loaded.snapshot store.snapshot.current now),
        [.loaded loaded.ifnames.length loaded.document.size]⟩ := by
  simp [Store.publish, unloaded, Loaded.snapshot]

theorem Store.recordFailure_ready {store : Store} (error : SyncError)
    (ready : store.snapshot.loadState = .ready) : store.recordFailure error = ⟨(), store, []⟩ := by
  simp [Store.recordFailure, ready]

theorem Store.recordFailure_unloaded {store : Store} (error : SyncError)
    (unloaded : store.snapshot.loadState ≠ .ready) :
    store.recordFailure error =
      ⟨(), store.publishSnapshot { store.snapshot with loadState := .failed (.ofError error) },
        [.loadFailed error]⟩ := by
  simp [Store.recordFailure, unloaded]

theorem Store.fileEdit_refused {store : Store} {expected : Option Ifname} {error : SyncError}
    (edited : InterfaceConfig) (refusal : Refusal store.snapshot expected error) :
    store.fileEdit expected edited = ⟨.error error, store, []⟩ := by
  cases refusal with
  | notReady unloaded => simp [Store.fileEdit, unloaded]
  | noSelection ready unselected => simp [Store.fileEdit, ready, unselected]
  | stale ready selected named different =>
    simp [Store.fileEdit, ready, selected, named, Option.filter, different]

theorem Meant.filter_eq {expected : Option Ifname} {current : Ifname}
    (meant : Meant expected current) : expected.filter (· != current) = none := by
  cases expected with
  | none => rfl
  | some name => simp [Option.filter, meant name rfl]

theorem Store.fileEdit_unchanged {store : Store} {expected : Option Ifname} {current : Ifname}
    {edited stored : InterfaceConfig} (ready : store.snapshot.loadState = .ready)
    (selected : store.snapshot.current = some current) (meant : Meant expected current)
    (present : store.snapshot.document.get? current = some stored)
    (same : stored.same edited = true) :
    store.fileEdit expected edited =
      ⟨.ok store.snapshot.document, store, [.editUnchanged current]⟩ := by
  simp [Store.fileEdit, ready, selected, meant.filter_eq, present, same]

theorem Store.fileEdit_changed {store : Store} {expected : Option Ifname} {current : Ifname}
    {edited : InterfaceConfig} (ready : store.snapshot.loadState = .ready)
    (selected : store.snapshot.current = some current) (meant : Meant expected current)
    (different : ∀ stored, store.snapshot.document.get? current = some stored →
      stored.same edited = false) :
    (store.fileEdit expected edited).answer =
        .ok (store.snapshot.document.withConfig current edited) ∧
      (store.fileEdit expected edited).state = store.publishSnapshot
        { store.snapshot with document := store.snapshot.document.withConfig current edited } := by
  have differs : (store.snapshot.document.get? current).any (·.same edited) = false := by
    cases present : store.snapshot.document.get? current with
    | none => rfl
    | some stored => exact different stored present
  simp [Store.fileEdit, ready, selected, meant.filter_eq, differs]

theorem refused_or_meant (found : Snapshot) (expected : Option Ifname) :
    (∃ error, Refusal found expected error) ∨
      found.loadState = .ready ∧ ∃ current, found.current = some current ∧ Meant expected current := by
  by_cases ready : found.loadState = .ready
  case neg => exact .inl ⟨_, .notReady ready⟩
  cases selected : found.current with
  | none => exact .inl ⟨_, .noSelection ready selected⟩
  | some current =>
    cases named : expected with
    | none => exact .inr ⟨ready, current, rfl, fun _ impossible => by cases impossible⟩
    | some meant =>
      by_cases same : meant = current
      · exact .inr ⟨ready, current, rfl, fun _ equal => by cases equal; exact same⟩
      · exact .inl ⟨_, .stale ready selected rfl same⟩

private theorem Store.fileEdit_transition (store : Store) {command : Command}
    {expected : Option Ifname}
    {edited : InterfaceConfig} (edit : command.edit? = some (expected, edited)) :
    ∃ published, Transition store.snapshot command
        ((store.fileEdit expected edited).toAnswer .edited).answer published ∧
      ((store.fileEdit expected edited).toAnswer .edited).state = store.publishing published := by
  rcases refused_or_meant store.snapshot expected with
    ⟨error, refusal⟩ | ⟨ready, current, selected, meant⟩
  · rw [Store.fileEdit_refused edited refusal]
    exact ⟨none, .refused edit refusal, rfl⟩
  by_cases stays : ∃ stored, store.snapshot.document.get? current = some stored ∧
      stored.same edited = true
  · obtain ⟨stored, present, same⟩ := stays
    rw [Store.fileEdit_unchanged ready selected meant present same]
    exact ⟨none, .unchanged edit ready selected meant present same, rfl⟩
  · have different : ∀ stored, store.snapshot.document.get? current = some stored →
        stored.same edited = false := by simpa using stays
    obtain ⟨answer, state⟩ := Store.fileEdit_changed ready selected meant different
    refine ⟨some { store.snapshot with
      document := store.snapshot.document.withConfig current edited }, ?_, state⟩
    simp only [Outcome.toAnswer, Outcome.map_answer, answer]
    exact .edited edit ready selected meant different

/-- What a command does is a transition of the snapshot that it finds. -/
theorem Command.run_transition (store : Store) (command : Command) :
    ∃ published, Transition store.snapshot command (command.run store).answer published ∧
      (command.run store).state = store.publishing published := by
  cases command with
  | startLoad =>
    by_cases ready : store.snapshot.loadState = .ready
    · simp only [Command.run, Store.startLoad_ready ready]
      exact ⟨none, .alreadyLoaded ready, rfl⟩
    by_cases loading : store.snapshot.loadState = .loading
    · simp only [Command.run, Store.startLoad_loading loading]
      exact ⟨none, .inProgress loading, rfl⟩
    have idle := LoadState.idle_iff.mpr ⟨ready, loading⟩
    simp only [Command.run, Store.startLoad_idle idle]
    exact ⟨_, .began idle, rfl⟩
  | publish loaded now =>
    by_cases ready : store.snapshot.loadState = .ready
    · simp only [Command.run, Store.publish_ready loaded now ready]
      exact ⟨none, .late ready, rfl⟩
    · simp only [Command.run, Store.publish_unloaded loaded now ready]
      exact ⟨_, .loaded ready, rfl⟩
  | recordFailure error =>
    by_cases ready : store.snapshot.loadState = .ready
    · simp only [Command.run, Store.recordFailure_ready error ready]
      exact ⟨none, .failedLate ready, rfl⟩
    · simp only [Command.run, Store.recordFailure_unloaded error ready]
      exact ⟨_, .failed ready, rfl⟩
  | select ifname =>
    by_cases same : store.snapshot.current = some ifname
    · exact ⟨none, .reselected same, by simp [Command.run, Store.select, same]⟩
    · exact ⟨_, .selected same, by simp [Command.run, Store.select, same]⟩
  | deselect =>
    by_cases same : store.snapshot.current = none
    · exact ⟨none, .unselected same, by simp [Command.run, Store.deselect, same]⟩
    · exact ⟨_, .deselected same, by simp [Command.run, Store.deselect, same]⟩
  | apply edited => exact store.fileEdit_transition rfl
  | applyTo expected edited => exact store.fileEdit_transition rfl

theorem Transition.current {found : Snapshot} {command : Command} {answer : Answer}
    {published : Option Snapshot} (transition : Transition found command answer published) :
    (published.getD found).current = command.selection?.getD found.current := by
  cases transition with
  | reselected same => exact same
  | unselected same => exact same
  | refused edit refusal => cases command <;> cases edit <;> rfl
  | unchanged edit => cases command <;> cases edit <;> rfl
  | edited edit => cases command <;> cases edit <;> rfl
  | _ => rfl

/-- Commands of the life of loads, as opposed to those of selecting and editing. -/
def Command.isLoading : Command → Bool
  | .startLoad | .publish _ _ | .recordFailure _ => true
  | _ => false

theorem Command.loading_idle {store : Store} {command : Command}
    (ready : store.snapshot.loadState = .ready) (loading : command.isLoading = true) :
    (command.run store).state = store := by
  cases command with
  | startLoad => simp only [Command.run, Store.startLoad_ready ready]; rfl
  | publish loaded now => simp only [Command.run, Store.publish_ready loaded now ready]; rfl
  | recordFailure error => simp only [Command.run, Store.recordFailure_ready error ready]; rfl
  | select | deselect | apply | applyTo => cases loading

private theorem Transition.loadState_kept {found : Snapshot} {command : Command} {answer : Answer}
    {published : Option Snapshot} (transition : Transition found command answer published)
    (other : command.isLoading = false) : (published.getD found).loadState = found.loadState := by
  cases transition with
  | alreadyLoaded | inProgress | began | late | loaded | failedLate | failed => cases other
  | reselected | selected | unselected | deselected | refused | unchanged | edited => rfl

theorem Command.loadState_kept (store : Store) {command : Command}
    (other : command.isLoading = false) :
    (command.run store).state.snapshot.loadState = store.snapshot.loadState := by
  obtain ⟨published, transition, state⟩ := command.run_transition store
  rw [state, Store.publishing_snapshot]
  exact transition.loadState_kept other

def Store.after (store : Store) (commands : List Command) : Store :=
  commands.foldl (fun store command => (command.run store).state) store

@[simp] theorem Store.after_nil (store : Store) : store.after [] = store := rfl

@[simp] theorem Store.after_cons (store : Store) (command : Command) (rest : List Command) :
    store.after (command :: rest) = (command.run store).state.after rest := rfl

@[simp] theorem Store.after_append (store : Store) (earlier later : List Command) :
    store.after (earlier ++ later) = (store.after earlier).after later :=
  List.foldl_append

theorem Store.after_keeps (kept : Snapshot → Prop)
    (step : ∀ {found command answer published}, Transition found command answer published →
      kept found → kept (published.getD found))
    (store : Store) (commands : List Command) (holds : kept store.snapshot) :
    kept (store.after commands).snapshot := by
  induction commands generalizing store with
  | nil => exact holds
  | cons command rest ih =>
    obtain ⟨published, transition, state⟩ := command.run_transition store
    have next : kept (command.run store).state.snapshot := by
      rw [state, Store.publishing_snapshot]
      exact step transition holds
    exact ih _ next

end InterfaceSync
