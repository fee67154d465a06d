import InterfaceSync.Proofs.JsonEquality
import InterfaceSync.Proofs.Lifecycle
import Mathlib.Data.List.Induction

/-! What a store holds is told by its history alone: which load was published first, what was
selected last, and which edit of each interface was accepted last. Edits belong to the interface
that was current when they came, whoever sent them. -/

namespace InterfaceSync

structure HistoryStep where
  found : Snapshot
  command : Command
  answer : Answer

namespace HistoryStep

/-- What a step loads, if it finds the store not ready. -/
def publication? (step : HistoryStep) : Option (Loaded × Time) :=
  match step.command with
  | .publish loaded now => if step.found.isReady then none else some (loaded, now)
  | _ => none

def selection? (step : HistoryStep) : Option (Option Ifname) :=
  step.command.selection?

def edit? (step : HistoryStep) : Option (Ifname × InterfaceConfig) :=
  match step.command.edit?, step.answer with
  | some (_, edited), .edited _ => step.found.current.map (·, edited)
  | _, _ => none

end HistoryStep

def Store.history (store : Store) : List Command → List HistoryStep
  | [] => []
  | command :: rest =>
    ⟨store.snapshot, command, (command.run store).answer⟩ ::
      (command.run store).state.history rest

def firstPublication? (steps : List HistoryStep) : Option (Loaded × Time) :=
  steps.findSome? HistoryStep.publication?

/-- What was selected last, if that was not taken back since. -/
def lastSelection (steps : List HistoryStep) : Option Ifname :=
  (steps.reverse.findSome? HistoryStep.selection?).join

def acceptedEdits (steps : List HistoryStep) : List (Ifname × InterfaceConfig) :=
  steps.filterMap HistoryStep.edit?

private theorem firstPublication?_concat (steps : List HistoryStep) (step : HistoryStep) :
    firstPublication? (steps ++ [step]) = (firstPublication? steps).or step.publication? := by
  simp [firstPublication?, List.findSome?_append]

private theorem lastSelection_concat (steps : List HistoryStep) (step : HistoryStep) :
    lastSelection (steps ++ [step]) = step.selection?.getD (lastSelection steps) := by
  simp only [lastSelection, List.reverse_append, List.reverse_singleton, List.singleton_append,
    List.findSome?_cons]
  cases step.selection? <;> rfl

private theorem acceptedEdits_concat (steps : List HistoryStep) (step : HistoryStep) :
    acceptedEdits (steps ++ [step]) = acceptedEdits steps ++ step.edit?.toList := by
  simp only [acceptedEdits, List.filterMap_append, List.filterMap_cons, List.filterMap_nil]
  cases step.edit? <;> rfl

/-- A document that differs from another one by edits. Every interface has the last of its edits, up
to equality of JSON values, and those without an edit are as they were. -/
def Overlays (document base : Document) (edits : List (Ifname × InterfaceConfig)) : Prop :=
  ∀ ifname, match edits.reverse.lookup ifname with
    | some edited => ∃ stored, document.get? ifname = some stored ∧ stored.same edited = true
    | none => document.get? ifname = base.get? ifname

/-- What a history says about the snapshot at its end. -/
structure Recorded (steps : List HistoryStep) (snapshot : Snapshot) : Prop where
  current : snapshot.current = lastSelection steps
  data : match firstPublication? steps with
    | none => snapshot.loadState ≠ .ready ∧ acceptedEdits steps = []
    | some (loaded, now) => snapshot.loadState = .ready ∧ snapshot.ifnames = loaded.ifnames ∧
        snapshot.loadedAt = some now ∧
        Overlays snapshot.document loaded.document (acceptedEdits steps)

theorem Overlays.refl (document : Document) : Overlays document document [] := fun _ => rfl

private theorem Overlays.trans {document middle base : Document}
    {earlier later : List (Ifname × InterfaceConfig)} (last : Overlays document middle later)
    (first : Overlays middle base earlier) : Overlays document base (earlier ++ later) := by
  intro ifname
  have fresh := last ifname
  have old := first ifname
  rw [List.reverse_append, List.lookup_append]
  cases edited : later.reverse.lookup ifname with
  | some value => simpa only [edited, Option.some_or] using fresh
  | none =>
    simp only [edited] at fresh
    simpa only [Option.none_or, fresh] using old

private theorem Overlays.contains {document base : Document}
    {edits : List (Ifname × InterfaceConfig)}
    (overlays : Overlays document base edits) {ifname : Ifname}
    (present : base.contains ifname = true) : document.contains ifname = true := by
  have held := overlays ifname
  simp only [Document.contains, NameMap.contains] at present ⊢
  cases edited : edits.reverse.lookup ifname with
  | some value =>
    simp only [edited] at held
    obtain ⟨stored, found, _⟩ := held
    exact Option.isSome_iff_exists.mpr ⟨stored, found⟩
  | none =>
    simp only [edited] at held
    exact (congrArg Option.isSome held).trans present

section
variable {found : Snapshot} {command : Command} {answer : Answer} {published : Option Snapshot}

theorem Transition.ready_data (transition : Transition found command answer published)
    (ready : found.loadState = .ready) :
    (published.getD found).loadState = .ready ∧
    (published.getD found).ifnames = found.ifnames ∧
    (published.getD found).loadedAt = found.loadedAt ∧
    Overlays (published.getD found).document found.document
      (HistoryStep.edit? ⟨found, command, answer⟩).toList := by
  cases transition with
  | began idle => exact absurd ready (LoadState.idle_iff.mp idle).1
  | loaded unloaded => exact absurd ready unloaded
  | failed unloaded => exact absurd ready unloaded
  | refused edit refusal =>
    simp only [HistoryStep.edit?, edit]
    exact ⟨ready, rfl, rfl, Overlays.refl _⟩
  | @unchanged command expected edited current stored edit _ selected meant present same =>
    -- The value that is kept need not be the one in the history, but it is equal to it.
    refine ⟨ready, rfl, rfl, ?_⟩
    intro ifname
    simp only [HistoryStep.edit?, edit, selected, Option.map_some, Option.toList_some,
      List.reverse_singleton, lookup_entry, List.lookup_nil]
    split
    next value chosen =>
      split at chosen
      next equal => cases chosen; exact ⟨stored, by simpa [equal] using present, same⟩
      next => cases chosen
    next => rfl
  | @edited command expected edited current edit _ selected meant different =>
    refine ⟨ready, rfl, rfl, ?_⟩
    intro ifname
    simp only [HistoryStep.edit?, edit, selected, Option.map_some, Option.toList_some,
      List.reverse_singleton, lookup_entry, List.lookup_nil, Option.getD_some,
      Document.get?_withConfig]
    by_cases equal : ifname = current
    · simp [equal]
    · simp [equal]
  | alreadyLoaded | inProgress | late | failedLate | reselected | selected | unselected
    | deselected => exact ⟨ready, rfl, rfl, Overlays.refl _⟩

/-- Before a load has succeeded nothing is edited, and only a published load makes a difference. -/
theorem Transition.unloaded_data (transition : Transition found command answer published)
    (unloaded : found.loadState ≠ .ready) :
    HistoryStep.edit? ⟨found, command, answer⟩ = none ∧
    match HistoryStep.publication? ⟨found, command, answer⟩ with
    | none => (published.getD found).loadState ≠ .ready
    | some (load, now) => published = some (load.snapshot found.current now) := by
  cases transition with
  | alreadyLoaded ready => exact absurd ready unloaded
  | late ready => exact absurd ready unloaded
  | failedLate ready => exact absurd ready unloaded
  | unchanged edit ready => exact absurd ready unloaded
  | edited edit ready => exact absurd ready unloaded
  | loaded _ => simp [HistoryStep.edit?, HistoryStep.publication?, Command.edit?, unloaded]
  | refused edit refusal =>
    cases command <;> cases edit <;> exact ⟨rfl, unloaded⟩
  | began | failed => exact ⟨rfl, by simp [HistoryStep.publication?]⟩
  | inProgress | reselected | selected | unselected | deselected => exact ⟨rfl, unloaded⟩

private theorem Transition.recorded {steps : List HistoryStep}
    (transition : Transition found command answer published) (recorded : Recorded steps found) :
    Recorded (steps ++ [⟨found, command, answer⟩]) (published.getD found) := by
  refine ⟨?_, ?_⟩
  · rw [transition.current, recorded.current, lastSelection_concat]
    rfl
  · have data := recorded.data
    rw [firstPublication?_concat, acceptedEdits_concat]
    cases earlier : firstPublication? steps with
    | some publication =>
      obtain ⟨load, now⟩ := publication
      simp only [earlier] at data
      obtain ⟨ready, ifnames, loadedAt, overlays⟩ := data
      obtain ⟨ready', ifnames', loadedAt', overlays'⟩ := transition.ready_data ready
      exact ⟨ready', ifnames'.trans ifnames, loadedAt'.trans loadedAt, overlays'.trans overlays⟩
    | none =>
      simp only [earlier] at data
      obtain ⟨unloaded, unedited⟩ := data
      obtain ⟨unchanged, change⟩ := transition.unloaded_data unloaded
      simp only [Option.none_or, unedited, unchanged, Option.toList_none, List.append_nil]
      cases loads : HistoryStep.publication? ⟨found, command, answer⟩ with
      | none =>
        simp only [loads] at change
        exact ⟨change, trivial⟩
      | some publication =>
        obtain ⟨load, now⟩ := publication
        simp only [loads] at change
        subst change
        exact ⟨rfl, rfl, rfl, Overlays.refl load.document⟩

end

private theorem Store.history_append (store : Store) (earlier later : List Command) :
    store.history (earlier ++ later) = store.history earlier ++ (store.after earlier).history later := by
  induction earlier generalizing store with
  | nil => rfl
  | cons command rest ih => simp only [List.cons_append, Store.history, ih, Store.after_cons]

private theorem recorded_initial : Recorded [] Snapshot.initial :=
  ⟨rfl, by simp [firstPublication?, acceptedEdits, Snapshot.initial]⟩

theorem Store.recorded (commands : List Command) :
    Recorded (Store.new.history commands) (Store.new.after commands).snapshot := by
  induction commands using List.reverseRecOn with
  | nil => exact recorded_initial
  | append_singleton earlier command ih =>
    obtain ⟨published, transition, state⟩ := command.run_transition (Store.new.after earlier)
    simp only [Store.history_append, Store.after_append, Store.after_cons, Store.after_nil,
      Store.history, state, Store.publishing_snapshot]
    exact transition.recorded ih

private theorem Store.history_transition (store : Store) (commands : List Command)
    {step : HistoryStep} (member : step ∈ store.history commands) :
    ∃ published, Transition step.found step.command step.answer published := by
  induction commands generalizing store with
  | nil => simp [Store.history] at member
  | cons command rest ih =>
    rcases List.mem_cons.mp member with rfl | later
    · obtain ⟨published, transition, _⟩ := command.run_transition store
      exact ⟨published, transition⟩
    · exact ih _ later

private theorem Transition.attributed {found : Snapshot} {expected : Ifname}
    {edited : InterfaceConfig} {document : Document} {published : Option Snapshot}
    (transition : Transition found (.applyTo expected edited) (.edited document) published) :
    HistoryStep.edit? ⟨found, .applyTo expected edited, .edited document⟩ =
        some (expected, edited) ∧
      ∃ stored, document.get? expected = some stored ∧ stored.same edited = true := by
  cases transition with
  | @unchanged _ _ _ current stored edit ready selected meant present same =>
    cases edit
    have named : expected = current := meant expected rfl
    subst named
    exact ⟨by simp [HistoryStep.edit?, Command.edit?, selected], stored, present, same⟩
  | @edited _ _ _ current edit ready selected meant different =>
    cases edit
    have named : expected = current := meant expected rfl
    subst named
    exact ⟨by simp [HistoryStep.edit?, Command.edit?, selected], edited,
      by simp [Document.get?_withConfig], edited.same_refl⟩

theorem Store.after_ready_filter (store : Store) (commands : List Command)
    (ready : store.snapshot.loadState = .ready) :
    store.after commands = store.after (commands.filter (!·.isLoading)) := by
  induction commands generalizing store with
  | nil => rfl
  | cons command rest ih =>
    cases loading : command.isLoading with
    | true =>
      simp only [List.filter_cons, loading, Bool.not_true, Bool.false_eq_true, if_false,
        Store.after_cons, Command.loading_idle ready loading]
      exact ih store ready
    | false =>
      simp only [List.filter_cons, loading, Bool.not_false, if_true, Store.after_cons]
      exact ih _ (Store.after_ready store [command] ready)

private theorem Store.after_keeps_load (store : Store) (commands : List Command)
    (ready : store.snapshot.loadState = .ready) :
    (store.after commands).snapshot.ifnames = store.snapshot.ifnames ∧
      (store.after commands).snapshot.loadedAt = store.snapshot.loadedAt := by
  have kept := Store.after_keeps (fun snapshot => snapshot.loadState = .ready ∧
      snapshot.ifnames = store.snapshot.ifnames ∧ snapshot.loadedAt = store.snapshot.loadedAt)
    (fun transition ⟨ready, ifnames, loadedAt⟩ =>
      have ⟨ready', ifnames', loadedAt', _⟩ := transition.ready_data ready
      ⟨ready', ifnames'.trans ifnames, loadedAt'.trans loadedAt⟩)
    store commands ⟨ready, rfl, rfl⟩
  exact kept.2

private theorem Store.after_contains (store : Store) (commands : List Command) (ifname : Ifname)
    (consistent : store.snapshot.Consistent)
    (present : store.snapshot.document.contains ifname = true) :
    (store.after commands).snapshot.document.contains ifname = true := by
  have kept := Store.after_keeps (fun snapshot => snapshot.Consistent ∧
      snapshot.document.contains ifname = true)
    (fun {found _ _ _} transition ⟨consistent, present⟩ => by
      refine ⟨transition.consistent consistent, ?_⟩
      by_cases ready : found.loadState = .ready
      · exact (transition.ready_data ready).2.2.2.contains present
      · rw [(consistent.blank ready).2] at present
        cases present)
    store commands ⟨consistent, present⟩
  exact kept.2

/-- A store together with the snapshots that its clients took and still hold, oldest first. -/
structure SharedStore where
  store : Store
  taken : List Snapshot

namespace SharedStore

inductive Action
  | command (command : Command)
  | take

def new : SharedStore := ⟨.new, []⟩

def act (shared : SharedStore) : Action → SharedStore
  | .command issued => { shared with store := (issued.run shared.store).state }
  | .take => { shared with taken := shared.taken ++ [shared.store.snapshot] }

def after (shared : SharedStore) (actions : List Action) : SharedStore :=
  actions.foldl act shared

def Action.command? : Action → Option Command
  | .command issued => some issued
  | .take => none

private theorem after_store (shared : SharedStore) (actions : List Action) :
    (shared.after actions).store = shared.store.after (actions.filterMap Action.command?) := by
  induction actions generalizing shared with
  | nil => rfl
  | cons action rest ih =>
    cases action with
    | command issued => exact ih _
    | take => exact ih _

private theorem taken_grows (shared : SharedStore) (actions : List Action) :
    ∃ more, (shared.after actions).taken = shared.taken ++ more := by
  induction actions generalizing shared with
  | nil => exact ⟨[], by simp [after]⟩
  | cons action rest ih =>
    obtain ⟨more, grown⟩ := ih (shared.act action)
    cases action with
    | command issued => exact ⟨more, grown⟩
    | take => exact ⟨shared.store.snapshot :: more, grown.trans (by simp [act])⟩

private theorem taken_stays (shared : SharedStore) (earlier later : List Action) :
    (shared.after (earlier ++ .take :: later)).taken[(shared.after earlier).taken.length]? =
      some (shared.after earlier).store.snapshot := by
  have split : shared.after (earlier ++ .take :: later) =
      ((shared.after earlier).act .take).after later := by
    simp [after]
  obtain ⟨more, grown⟩ := taken_grows ((shared.after earlier).act .take) later
  rw [split, grown]
  simp [act]

end SharedStore

/-- Clients of one store issue commands and take snapshots in any order. What the store holds is what
its history records; an edit meant for an interface is filed under it; after the first load that was
published, loads change nothing and entries stay; and snapshots that were taken are not touched. -/
theorem SharedStore.history_decides (actions : List SharedStore.Action) :
    let shared := SharedStore.new.after actions
    let steps := Store.new.history (actions.filterMap SharedStore.Action.command?)
    Recorded steps shared.store.snapshot ∧
    (∀ step ∈ steps, ∀ expected edited document,
      step.command = .applyTo expected edited → step.answer = .edited document →
        step.edit? = some (expected, edited) ∧
          ∃ stored, document.get? expected = some stored ∧ stored.same edited = true) ∧
    (shared.store.snapshot.loadState = .ready → ∀ later,
      (shared.store.after later).snapshot.ifnames = shared.store.snapshot.ifnames ∧
      (shared.store.after later).snapshot.loadedAt = shared.store.snapshot.loadedAt ∧
      shared.store.after later = shared.store.after (later.filter (!·.isLoading))) ∧
    (∀ later ifname, shared.store.snapshot.document.contains ifname = true →
      (shared.store.after later).snapshot.document.contains ifname = true) ∧
    (∀ earlier later, actions = earlier ++ .take :: later →
      shared.taken[(SharedStore.new.after earlier).taken.length]? =
        some (SharedStore.new.after earlier).store.snapshot) := by
  intro shared steps
  have reached : shared.store = Store.new.after (actions.filterMap SharedStore.Action.command?) :=
    SharedStore.after_store _ _
  have recorded : Recorded steps shared.store.snapshot := by
    rw [reached]
    exact Store.recorded _
  have consistent : shared.store.snapshot.Consistent := by
    rw [reached]
    exact Store.after_consistent _ _ Snapshot.consistent_initial
  refine ⟨recorded, ?_, ?_, ?_, ?_⟩
  · rintro ⟨found, command, answer⟩ member expected edited document rfl rfl
    obtain ⟨published, transition⟩ := Store.history_transition _ _ member
    exact transition.attributed
  · intro ready later
    obtain ⟨ifnames, loadedAt⟩ := Store.after_keeps_load shared.store later ready
    exact ⟨ifnames, loadedAt, Store.after_ready_filter shared.store later ready⟩
  · intro later ifname present
    exact Store.after_contains shared.store later ifname consistent present
  · rintro earlier later rfl
    exact SharedStore.taken_stays SharedStore.new earlier later

end InterfaceSync
