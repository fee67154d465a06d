import InterfaceSync.Proofs.Transitions
import InterfaceSync.Sync.Attempt

/-! How far loading has come decides what a snapshot may hold: nothing before a load has succeeded,
and a date from then on. Success is final. Both are kept by every transition, so they hold in every
state that a store can reach. -/

namespace InterfaceSync

structure Snapshot.Consistent (snapshot : Snapshot) : Prop where
  dated : snapshot.loadedAt.isSome = true ↔ snapshot.loadState = .ready
  blank : snapshot.loadState ≠ .ready → snapshot.ifnames = [] ∧ snapshot.document = .empty

theorem Snapshot.consistent_initial : Snapshot.initial.Consistent :=
  ⟨by simp [Snapshot.initial], fun _ => ⟨rfl, rfl⟩⟩

theorem Snapshot.Consistent.restate {snapshot : Snapshot} (consistent : snapshot.Consistent)
    {state : LoadState} (before : snapshot.loadState ≠ .ready) (after : state ≠ .ready) :
    { snapshot with loadState := state }.Consistent := by
  refine ⟨?_, fun _ => consistent.blank before⟩
  have undated : ¬ snapshot.loadedAt.isSome = true := fun dated => before (consistent.dated.mp dated)
  exact iff_of_false undated after

private theorem Loaded.snapshot_consistent (loaded : Loaded) (current : Option Ifname) (now : Time)
    : (loaded.snapshot current now).Consistent :=
  ⟨by simp [Loaded.snapshot], fun unloaded => absurd rfl unloaded⟩

section
variable {found : Snapshot} {command : Command} {answer : Answer} {published : Option Snapshot}

theorem Transition.consistent (transition : Transition found command answer published)
    (consistent : found.Consistent) : (published.getD found).Consistent := by
  cases transition with
  | began idle =>
    exact consistent.restate (LoadState.idle_iff.mp idle).1 (by simp)
  | loaded unloaded => exact Loaded.snapshot_consistent _ _ _
  | failed unloaded => exact consistent.restate unloaded (by simp)
  | selected different => exact ⟨consistent.dated, consistent.blank⟩
  | deselected different => exact ⟨consistent.dated, consistent.blank⟩
  | edited edit ready selected meant different =>
    exact ⟨consistent.dated, fun unloaded => absurd ready unloaded⟩
  | alreadyLoaded | inProgress | late | failedLate | reselected | unselected | refused | unchanged =>
    exact consistent

private theorem Transition.stays_ready (transition : Transition found command answer published)
    (ready : found.loadState = .ready) : (published.getD found).loadState = .ready := by
  cases transition with
  | began idle => exact absurd ready (LoadState.idle_iff.mp idle).1
  | failed unloaded => exact absurd ready unloaded
  | loaded unloaded => rfl
  | selected | deselected | edited => exact ready
  | alreadyLoaded | inProgress | late | failedLate | reselected | unselected | refused | unchanged =>
    exact ready

end

theorem Store.after_consistent (store : Store) (commands : List Command)
    (consistent : store.snapshot.Consistent) : (store.after commands).snapshot.Consistent :=
  Store.after_keeps _ Transition.consistent store commands consistent

theorem Store.after_ready (store : Store) (commands : List Command)
    (ready : store.snapshot.loadState = .ready) :
    (store.after commands).snapshot.loadState = .ready :=
  Store.after_keeps _ Transition.stays_ready store commands ready

inductive Store.Deed
  | command (command : Command)
  | drop (guard : LoadGuard)

def Store.Deed.run (store : Store) : Store.Deed → Store
  | .command issued => (issued.run store).state
  | .drop guard => (guard.drop store).state

def Store.afterDeeds (store : Store) (deeds : List Store.Deed) : Store :=
  deeds.foldl Store.Deed.run store

def Store.Deed.commands : Store.Deed → List Command
  | .command issued => [issued]
  | .drop guard => if guard.armed then [.recordFailure .loadCancelled] else []

private theorem Store.Deed.run_eq (store : Store) (deed : Store.Deed) :
    deed.run store = store.after deed.commands := by
  cases deed with
  | command command => rfl
  | drop guard =>
    simp only [run, commands, LoadGuard.drop]
    split <;> rfl

theorem Store.afterDeeds_eq (store : Store) (deeds : List Store.Deed) :
    store.afterDeeds deeds = store.after (deeds.flatMap Store.Deed.commands) := by
  induction deeds generalizing store with
  | nil => rfl
  | cons deed rest ih =>
    simp only [List.flatMap_cons, Store.after_append, ← Store.Deed.run_eq]
    exact ih _

private theorem Store.startLoad_answer (store : Store) :
    (store.startLoad.answer = .ok true ↔ store.snapshot.loadState.Idle) ∧
    (store.startLoad.answer = .error .loadInProgress ↔ store.snapshot.loadState = .loading) ∧
    (store.startLoad.answer = .ok false ↔ store.snapshot.loadState = .ready) := by
  cases state : store.snapshot.loadState <;> simp [Store.startLoad, LoadState.Idle, state]

/-- In every state that a store can reach, it is dated exactly when it is ready, blank unless it is
ready, and never ready for a while only; the state decides what is answered to a new load. -/
theorem Store.lifecycle (deeds : List Store.Deed) :
    let store := Store.new.afterDeeds deeds
    (store.snapshot.loadedAt.isSome = true ↔ store.snapshot.loadState = .ready) ∧
    (store.snapshot.loadState ≠ .ready →
      store.snapshot.ifnames = [] ∧ store.snapshot.document = .empty) ∧
    (store.snapshot.loadState = .ready →
      ∀ later, (store.afterDeeds later).snapshot.loadState = .ready) ∧
    (store.startLoad.answer = .ok true ↔
      store.snapshot.loadState = .uninitialized ∨
        ∃ failure, store.snapshot.loadState = .failed failure) ∧
    (store.startLoad.answer = .error .loadInProgress ↔ store.snapshot.loadState = .loading) ∧
    (store.startLoad.answer = .ok false ↔ store.snapshot.loadState = .ready) := by
  intro store
  have consistent : store.snapshot.Consistent := by
    simp only [store, Store.afterDeeds_eq]
    exact Store.after_consistent _ _ Snapshot.consistent_initial
  refine ⟨consistent.dated, consistent.blank, ?_, store.startLoad_answer⟩
  intro ready later
  rw [Store.afterDeeds_eq]
  exact Store.after_ready _ _ ready

/-! How loading goes on. Its state is a machine of its own, which takes what commands say about
loads and looks at nothing else in a store. -/

/-- The state of loading behind a command. -/
def LoadState.next (state : LoadState) : Command → LoadState
  | .startLoad => if state = .ready then .ready else .loading
  | .publish _ _ => .ready
  | .recordFailure error => if state = .ready then .ready else .failed (.ofError error)
  | .select _ | .deselect | .apply _ | .applyTo _ _ => state

private theorem Transition.next {found : Snapshot} {command : Command} {answer : Answer}
    {published : Option Snapshot} (transition : Transition found command answer published) :
    (published.getD found).loadState = found.loadState.next command := by
  cases transition with
  | alreadyLoaded ready => rw [Option.getD_none, LoadState.next, if_pos ready, ready]
  | inProgress loading =>
    rw [Option.getD_none, LoadState.next, loading]
    rfl
  | began idle => exact (if_neg (LoadState.idle_iff.mp idle).1).symm
  | late ready => exact ready
  | loaded unloaded => rfl
  | failedLate ready => rw [Option.getD_none, LoadState.next, if_pos ready, ready]
  | failed unloaded => exact (if_neg unloaded).symm
  | reselected | selected | unselected | deselected => rfl
  | refused edit | unchanged edit | edited edit => cases command <;> cases edit <;> rfl

theorem Command.next (store : Store) (command : Command) :
    (command.run store).state.snapshot.loadState = store.snapshot.loadState.next command := by
  obtain ⟨published, transition, state⟩ := command.run_transition store
  rw [state, Store.publishing_snapshot]
  exact transition.next

/-- The command hands over what a load yielded, whether or not a load was started. -/
def Command.Publishes (command : Command) : Prop :=
  ∃ loaded now, command = .publish loaded now

namespace LoadState

theorem next_ready {state : LoadState} {command : Command} :
    state.next command = .ready ↔ state = .ready ∨ command.Publishes := by
  cases command <;> cases state <;> simp [next, Command.Publishes]

private theorem next_loading {state : LoadState} {command : Command} (waits : state ≠ .loading) :
    state.next command = .loading ↔ state.Idle ∧ command = .startLoad := by
  cases command <;> cases state <;> simp_all [next, Idle]

private theorem next_failed (failure : LoadFailure) (command : Command) :
    ((LoadState.failed failure).next command).isFailed = false ↔
      command = .startLoad ∨ command.Publishes := by
  cases command <;> simp [next, isFailed, Command.Publishes]

end LoadState

private theorem Store.after_becomesReady (store : Store) (commands : List Command) :
    (store.after commands).snapshot.loadState = .ready ↔
      store.snapshot.loadState = .ready ∨ ∃ command ∈ commands, command.Publishes := by
  induction commands generalizing store with
  | nil => simp
  | cons command rest ih =>
    rw [Store.after_cons, ih, Command.next, LoadState.next_ready, or_assoc]
    simp only [List.mem_cons, exists_eq_or_imp]

private theorem Store.afterDeeds_ready (deeds : List Store.Deed) :
    (Store.new.afterDeeds deeds).snapshot.loadState = .ready ↔
      ∃ command, .command command ∈ deeds ∧ command.Publishes := by
  rw [Store.afterDeeds_eq, Store.after_becomesReady]
  constructor
  · rintro (fresh | ⟨command, issued, publishes⟩)
    · cases fresh
    · obtain ⟨deed, inside, does⟩ := List.mem_flatMap.mp issued
      cases deed with
      | command own =>
        rw [List.mem_singleton.mp does] at publishes
        exact ⟨own, inside, publishes⟩
      | drop guard =>
        -- A guard that is dropped records a failure at most.
        obtain ⟨loaded, now, rfl⟩ := publishes
        simp [Store.Deed.commands] at does
  · rintro ⟨command, inside, publishes⟩
    exact .inr ⟨command, List.mem_flatMap.mpr ⟨_, inside, List.mem_singleton_self _⟩, publishes⟩

/-- A failed store is left by a new load or by a publication, and a store becomes ready by a
publication only; a publication needs no load that was started. So a store is ready exactly when
something has been published, and loading begins only where none is under way. -/
theorem Store.course (deeds : List Store.Deed) (command : Command) :
    let store := Store.new.afterDeeds deeds
    let before := store.snapshot.loadState
    let after := (command.run store).state.snapshot.loadState
    (∀ failure, before = .failed failure →
      (after.isFailed = false ↔ command = .startLoad ∨ command.Publishes)) ∧
    (before ≠ .ready → (after = .ready ↔ command.Publishes)) ∧
    (before ≠ .loading → (after = .loading ↔ before.Idle ∧ command = .startLoad)) ∧
    (before = .ready ↔ ∃ issued, .command issued ∈ deeds ∧ issued.Publishes) := by
  intro store before after
  have next : after = before.next command := Command.next store command
  rw [next]
  refine ⟨?_, fun unloaded => ?_, LoadState.next_loading, Store.afterDeeds_ready deeds⟩
  · intro failure failed
    rw [failed]
    exact LoadState.next_failed failure command
  · rw [LoadState.next_ready]
    exact or_iff_right unloaded

/-- What is published after a failure is shown, although no new load was started; so it is in a new
store. -/
theorem Store.publication_unannounced :
    let failed := Store.new.after [.startLoad, .recordFailure .timeout]
    failed.snapshot.loadState = .failed (.ofError .timeout) ∧
    ((Command.publish default 0).run failed).state.snapshot.loadState = .ready ∧
    Store.new.snapshot.loadState = .uninitialized ∧
    ((Command.publish default 0).run Store.new).state.snapshot.loadState = .ready := by
  decide

end InterfaceSync
