import InterfaceSync.Proofs.JsonEquality
import InterfaceSync.Proofs.Transitions
import InterfaceSync.Sync.Subscription

/-! Which commands publish. A command that would leave the snapshot as it is publishes nothing, so
nobody is told of it. There is one exception: a failure is published again although the same failure
is recorded already. -/

namespace InterfaceSync

private theorem Snapshot.same_refl (snapshot : Snapshot) : snapshot.same snapshot = true := by
  simp [Snapshot.same]

private theorem Snapshot.same_eq_true {first second : Snapshot} (same : first.same second = true) :
    first.loadState = second.loadState ∧ first.ifnames = second.ifnames ∧
      first.document.same second.document = true ∧ first.current = second.current ∧
      first.loadedAt = second.loadedAt := by
  simpa [Snapshot.same, and_assoc] using same

/-- The command records the failure that is on record already. -/
def Command.RecordsAgain (command : Command) (found : Snapshot) : Prop :=
  ∃ error, command = .recordFailure error ∧ found.loadState = .failed (.ofError error)

private theorem Document.withConfig_differs {document : Document} {ifname : Ifname}
    {edited : InterfaceConfig}
    (different : ∀ stored, document.get? ifname = some stored → stored.same edited = false) :
    document.same (document.withConfig ifname edited) = false := by
  refine Bool.eq_false_iff.mpr fun same => ?_
  have related := Document.same_get? same ifname
  rw [Document.get?_withConfig, if_pos rfl] at related
  cases stored : document.get? ifname with
  | none => rw [stored] at related; cases related
  | some config =>
    rw [stored] at related
    cases related with
    | some equal => exact absurd equal (by simp [different config stored])

section
variable {found published : Snapshot} {command : Command} {answer : Answer}

theorem Transition.differs (transition : Transition found command answer (some published))
    (fresh : ¬ command.RecordsAgain found) : found.same published = false := by
  refine Bool.eq_false_iff.mpr fun same => ?_
  obtain ⟨loadState, -, document, current, -⟩ := Snapshot.same_eq_true same
  cases transition with
  | began idle => exact (LoadState.idle_iff.mp idle).2 loadState
  | loaded unloaded => exact unloaded loadState
  | failed unloaded => exact fresh ⟨_, rfl, loadState⟩
  | selected different => exact different current
  | deselected different => exact different current
  | edited edit ready selected meant different =>
    exact absurd document (by simp [Document.withConfig_differs different])

private theorem Transition.recordsAgain {published : Option Snapshot}
    (transition : Transition found command answer published)
    (again : command.RecordsAgain found) : published = some found := by
  obtain ⟨error, rfl, recorded⟩ := again
  cases transition with
  | failedLate ready => cases recorded.symm.trans ready
  | failed unloaded => rw [← recorded]
  | refused edit | unchanged edit | edited edit => cases edit

end

/-- A command publishes one version or none. It publishes whenever it changes the snapshot, and without
a change only where it records the failure that is on record already. A subscriber who has seen all
there was before is told of exactly the commands that publish. -/
theorem Command.publishes_iff (store : Store) (command : Command) :
    let after := (command.run store).state
    (after = store ∨ after.version = store.version + 1) ∧
    (after.version ≠ store.version ↔
      store.snapshot.same after.snapshot = false ∨ command.RecordsAgain store.snapshot) ∧
    (command.RecordsAgain store.snapshot → after.snapshot = store.snapshot) ∧
    ∀ current, (Watcher.changed ⟨current, store.version⟩ ⟨after, false⟩).1 =
      if after.version = store.version then .pending else .ready after.snapshot := by
  intro after
  obtain ⟨published, transition, state⟩ := command.run_transition store
  have told : ∀ current, (Watcher.changed ⟨current, store.version⟩ ⟨after, false⟩).1 =
      if after.version = store.version then .pending else .ready after.snapshot := by
    intro current
    by_cases seen : store.version = after.version
    · simp [Watcher.changed, Source.rest, seen]
    · simp [Watcher.changed, Watcher.take, seen, Ne.symm seen]
  cases published with
  | none =>
    have kept : after = store := state
    have fresh : ¬ command.RecordsAgain store.snapshot := fun again => by
      cases transition.recordsAgain again
    refine ⟨.inl kept, ?_, fun again => absurd again fresh, told⟩
    simp [kept, Snapshot.same_refl, fresh]
  | some snapshot =>
    have grown : after.version = store.version + 1 := congrArg Store.version state
    have shown : after.snapshot = snapshot := congrArg Store.snapshot state
    refine ⟨.inr grown, iff_of_true (by omega) ?_, fun again => ?_, told⟩
    · by_cases again : command.RecordsAgain store.snapshot
      · exact .inr again
      · rw [shown]
        exact .inl (transition.differs again)
    · cases transition.recordsAgain again
      exact shown

/-- A failure that is recorded twice is published twice, although nothing changes the second time. -/
theorem Command.repeatedFailure_publishes :
    let store := Store.new.after [.startLoad, .recordFailure .timeout]
    let again := ((Command.recordFailure .timeout).run store).state
    store.snapshot.same again.snapshot = true ∧ again.version ≠ store.version := by
  decide

end InterfaceSync
