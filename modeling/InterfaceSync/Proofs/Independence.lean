import InterfaceSync.Proofs.EditHistory

/-! Selecting and loading do not interfere. Two runs are compared that are alike but for commands of
one kind. What is looked at in the two stores stays alike if no command of that kind reaches it, and
if commands that are in both runs do the same to it; the rest is an induction on how the runs
differ. Clocks need not agree: what is said of two dates holds of the dates in the stores if it holds
of those that loads were published at. -/

namespace InterfaceSync

def Command.isSelecting (command : Command) : Bool :=
  command.selection?.isSome

/-- One command, issued in two runs. -/
inductive Command.Alike (close : Time → Time → Prop) : Command → Command → Prop
  | undated {command : Command} (undated : ¬ command.Publishes) : Alike close command command
  | publish {loaded now later} (dates : close now later) :
      Alike close (.publish loaded now) (.publish loaded later)

/-- Two runs that are alike but for commands of one kind. There may be any number of those in either
run, at any place. -/
inductive Differ (close : Time → Time → Prop) (kind : Command → Bool) :
    List Command → List Command → Prop
  | nil : Differ close kind [] []
  | both {command command' first second} (alike : Command.Alike close command command')
      (rest : Differ close kind first second) :
      Differ close kind (command :: first) (command' :: second)
  | left {command first second} (inserted : kind command = true)
      (rest : Differ close kind first second) : Differ close kind (command :: first) second
  | right {command first second} (inserted : kind command = true)
      (rest : Differ close kind first second) : Differ close kind first (command :: second)

/-- Two snapshots tell the same about loading. -/
structure Snapshot.LoadingAlike (close : Time → Time → Prop) (first second : Snapshot) : Prop where
  loadState : first.loadState = second.loadState
  ifnames : first.ifnames = second.ifnames
  loadedAt : Option.Rel close first.loadedAt second.loadedAt

/-- Two snapshots differ in nothing but their selections. -/
structure Snapshot.LoadedAlike (close : Time → Time → Prop) (first second : Snapshot) : Prop
    extends Snapshot.LoadingAlike close first second where
  document : first.document = second.document

inductive Answer.Alike (close : Time → Time → Prop) : Answer → Answer → Prop
  | same {answer : Answer} : Alike close answer answer
  | published {first second : Snapshot} (alike : first.LoadedAlike close second) :
      Alike close (.published first) (.published second)

def Store.loadAnswers (store : Store) (commands : List Command) : List Answer :=
  ((store.history commands).filter (·.command.isLoading)).map (·.answer)

private theorem Store.loadAnswers_cons (store : Store) (command : Command) (rest : List Command) :
    store.loadAnswers (command :: rest) =
      if command.isLoading then
        (command.run store).answer :: (command.run store).state.loadAnswers rest
      else (command.run store).state.loadAnswers rest := by
  simp only [Store.loadAnswers, Store.history, List.filter_cons]
  split <;> rfl

theorem Command.selecting_other {command : Command} (selecting : command.isSelecting = true) :
    command.isLoading = false ∧ command.edit? = none := by
  cases command with
  | select | deselect => exact ⟨rfl, rfl⟩
  | startLoad | publish | recordFailure | apply | applyTo => cases selecting

private theorem Command.loading_selection {command : Command} (loading : command.isLoading = true) :
    command.selection? = none := by
  cases command with
  | startLoad | publish | recordFailure => rfl
  | select | deselect | apply | applyTo => cases loading

theorem Command.selecting_of {command : Command} (other : command.isLoading = false)
    (unedited : command.edit? = none) : command.isSelecting = true := by
  cases command with
  | startLoad | publish | recordFailure => cases other
  | select | deselect => rfl
  | apply | applyTo => cases unedited

theorem Command.loading_kept (store : Store) {command : Command}
    (other : command.isLoading = false) :
    ∃ document current,
      (command.run store).state.snapshot = { store.snapshot with document, current } := by
  obtain ⟨published, transition, state⟩ := command.run_transition store
  rw [state, Store.publishing_snapshot]
  generalize (command.run store).answer = answer at transition
  cases transition with
  | alreadyLoaded | inProgress | began | late | loaded | failedLate | failed => cases other
  | reselected | selected | unselected | deselected | refused | unchanged | edited =>
    exact ⟨_, _, rfl⟩

theorem Command.selecting_kept (store : Store) {command : Command}
    (selecting : command.isSelecting = true) :
    ∃ current, (command.run store).state.snapshot = { store.snapshot with current } := by
  obtain ⟨published, transition, state⟩ := command.run_transition store
  rw [state, Store.publishing_snapshot]
  generalize (command.run store).answer = answer at transition
  cases transition with
  | alreadyLoaded | inProgress | began | late | loaded | failedLate | failed => cases selecting
  | refused edit | unchanged edit | edited edit =>
    rw [(Command.selecting_other selecting).2] at edit
    cases edit
  | reselected | selected | unselected | deselected => exact ⟨_, rfl⟩

theorem Command.Alike.isLoading {close : Time → Time → Prop} {command command' : Command}
    (commands : Command.Alike close command command') : command'.isLoading = command.isLoading := by
  cases commands <;> rfl

private theorem Command.Alike.edit? {close : Time → Time → Prop} {command command' : Command}
    (commands : Command.Alike close command command') : command'.edit? = command.edit? := by
  cases commands <;> rfl

private theorem Command.Alike.selection? {close : Time → Time → Prop} {command command' : Command}
    (commands : Command.Alike close command command') :
    command'.selection? = command.selection? := by
  cases commands <;> rfl

private theorem Snapshot.LoadingAlike.restate {close : Time → Time → Prop} {first second : Snapshot}
    (alike : first.LoadingAlike close second) (state : LoadState) :
    { first with loadState := state }.LoadingAlike close { second with loadState := state } :=
  ⟨rfl, alike.ifnames, alike.loadedAt⟩

section

variable {close : Time → Time → Prop} {first second : Store} {command command' : Command}

theorem Command.Alike.loading (commands : Command.Alike close command command')
    (loading : command.isLoading = true)
    (alike : first.snapshot.LoadingAlike close second.snapshot) :
    (command.run first).state.snapshot.LoadingAlike close (command'.run second).state.snapshot ∧
    (first.snapshot.document = second.snapshot.document →
      (command.run first).state.snapshot.document = (command'.run second).state.snapshot.document ∧
      Answer.Alike close (command.run first).answer (command'.run second).answer) := by
  have states := alike.loadState
  cases commands with
  | @publish loaded now later dates =>
    by_cases ready : second.snapshot.loadState = .ready
    · simp only [Command.run, Store.publish_ready _ _ ready, Store.publish_ready _ _ (states.trans ready)]
      exact ⟨alike, fun documents => ⟨documents, .published ⟨alike, documents⟩⟩⟩
    · have unloaded : first.snapshot.loadState ≠ .ready := states ▸ ready
      simp only [Command.run, Store.publish_unloaded _ _ ready, Store.publish_unloaded _ _ unloaded]
      have published : (loaded.snapshot first.snapshot.current now).LoadingAlike close
          (loaded.snapshot second.snapshot.current later) := ⟨rfl, rfl, .some dates⟩
      exact ⟨published, fun _ => ⟨rfl, .published ⟨published, rfl⟩⟩⟩
  | undated undated =>
    cases command with
    | select | deselect | apply | applyTo => cases loading
    | publish loaded now => exact absurd ⟨loaded, now, rfl⟩ undated
    | startLoad =>
      by_cases ready : second.snapshot.loadState = .ready
      · simp only [Command.run, Store.startLoad_ready ready, Store.startLoad_ready (states.trans ready)]
        exact ⟨alike, fun documents => ⟨documents, .same⟩⟩
      by_cases loads : second.snapshot.loadState = .loading
      · simp only [Command.run, Store.startLoad_loading loads,
          Store.startLoad_loading (states.trans loads)]
        exact ⟨alike, fun documents => ⟨documents, .same⟩⟩
      have idle := LoadState.idle_iff.mpr ⟨ready, loads⟩
      simp only [Command.run, Store.startLoad_idle idle, Store.startLoad_idle (states ▸ idle)]
      exact ⟨alike.restate _, fun documents => ⟨documents, .same⟩⟩
    | recordFailure error =>
      by_cases ready : second.snapshot.loadState = .ready
      · simp only [Command.run, Store.recordFailure_ready error ready,
          Store.recordFailure_ready error (states.trans ready)]
        exact ⟨alike, fun documents => ⟨documents, .same⟩⟩
      · have unloaded : first.snapshot.loadState ≠ .ready := states ▸ ready
        simp only [Command.run, Store.recordFailure_unloaded error ready,
          Store.recordFailure_unloaded error unloaded]
        exact ⟨alike.restate _, fun documents => ⟨documents, .same⟩⟩

theorem Snapshot.LoadingAlike.left {shown : Snapshot} (other : command.isLoading = false)
    (alike : first.snapshot.LoadingAlike close shown) :
    (command.run first).state.snapshot.LoadingAlike close shown := by
  obtain ⟨document, current, kept⟩ := Command.loading_kept first other
  rw [kept]
  exact ⟨alike.loadState, alike.ifnames, alike.loadedAt⟩

private theorem Snapshot.LoadingAlike.right {shown : Snapshot} (other : command.isLoading = false)
    (alike : shown.LoadingAlike close second.snapshot) :
    shown.LoadingAlike close (command.run second).state.snapshot := by
  obtain ⟨document, current, kept⟩ := Command.loading_kept second other
  rw [kept]
  exact ⟨alike.loadState, alike.ifnames, alike.loadedAt⟩

private theorem Snapshot.LoadedAlike.left {shown : Snapshot}
    (selecting : command.isSelecting = true) (alike : first.snapshot.LoadedAlike close shown) :
    (command.run first).state.snapshot.LoadedAlike close shown := by
  obtain ⟨current, kept⟩ := Command.selecting_kept first selecting
  rw [kept]
  exact ⟨⟨alike.loadState, alike.ifnames, alike.loadedAt⟩, alike.document⟩

private theorem Snapshot.LoadedAlike.right {shown : Snapshot}
    (selecting : command.isSelecting = true) (alike : shown.LoadedAlike close second.snapshot) :
    shown.LoadedAlike close (command.run second).state.snapshot := by
  obtain ⟨current, kept⟩ := Command.selecting_kept second selecting
  rw [kept]
  exact ⟨⟨alike.loadState, alike.ifnames, alike.loadedAt⟩, alike.document⟩

end

section

variable {close : Time → Time → Prop} {kind : Command → Bool} {commands commands' : List Command}
  {first second : Store}

/-- Unwinding: what no inserted command reaches, and what commands of both runs keep, is kept by the
runs. -/
theorem Differ.after (differ : Differ close kind commands commands')
    (alike : Snapshot → Snapshot → Prop)
    (left : ∀ {store : Store} {shown : Snapshot} {command : Command}, kind command = true →
      alike store.snapshot shown → alike (command.run store).state.snapshot shown)
    (right : ∀ {store : Store} {shown : Snapshot} {command : Command}, kind command = true →
      alike shown store.snapshot → alike shown (command.run store).state.snapshot)
    (both : ∀ {first second : Store} {command command' : Command},
      Command.Alike close command command' → alike first.snapshot second.snapshot →
        alike (command.run first).state.snapshot (command'.run second).state.snapshot)
    (starts : alike first.snapshot second.snapshot) :
    alike (first.after commands).snapshot (second.after commands').snapshot := by
  induction differ generalizing first second with
  | nil => exact starts
  | both commands rest ih => exact ih (both commands starts)
  | left inserted rest ih => exact ih (left inserted starts)
  | right inserted rest ih => exact ih (right inserted starts)

private theorem Command.run_current (store : Store) (command : Command) :
    (command.run store).state.snapshot.current =
      command.selection?.getD store.snapshot.current := by
  obtain ⟨published, transition, state⟩ := command.run_transition store
  rw [state, Store.publishing_snapshot, transition.current]

theorem Differ.current (differ : Differ close Command.isLoading commands commands')
    (starts : first.snapshot.current = second.snapshot.current) :
    (first.after commands).snapshot.current = (second.after commands').snapshot.current := by
  refine differ.after (fun found found' => found.current = found'.current) ?_ ?_ ?_ starts
  · intro store shown command loading same
    rw [Command.run_current, Command.loading_selection loading]
    exact same
  · intro store shown command loading same
    rw [Command.run_current, Command.loading_selection loading]
    exact same
  · intro first second command command' commands same
    rw [Command.run_current, Command.run_current, commands.selection?, same]

theorem Differ.loading (differ : Differ close (!Command.isLoading ·) commands commands')
    (starts : first.snapshot.LoadingAlike close second.snapshot) :
    (first.after commands).snapshot.LoadingAlike close (second.after commands').snapshot := by
  refine differ.after (Snapshot.LoadingAlike close) ?_ ?_ ?_ starts
  · exact fun other alike => alike.left ((Bool.not_eq_true' _).mp other)
  · exact fun other alike => alike.right ((Bool.not_eq_true' _).mp other)
  · intro first second command command' commands alike
    cases loading : command.isLoading with
    | true => exact (commands.loading loading alike).1
    | false => exact (alike.left loading).right (commands.isLoading.trans loading)

theorem Differ.loaded (differ : Differ close Command.isSelecting commands commands')
    (unedited : ∀ command ∈ commands, command.edit? = none)
    (alike : first.snapshot.LoadedAlike close second.snapshot) :
    List.Forall₂ (Answer.Alike close) (first.loadAnswers commands) (second.loadAnswers commands') ∧
      (first.after commands).snapshot.LoadedAlike close (second.after commands').snapshot := by
  induction differ generalizing first second with
  | nil => exact ⟨.nil, alike⟩
  | @both command command' _ _ commands rest ih =>
    obtain ⟨here, later⟩ := List.forall_mem_cons.mp unedited
    rw [Store.loadAnswers_cons, Store.loadAnswers_cons, commands.isLoading]
    cases loading : command.isLoading with
    | true =>
      obtain ⟨kept, same⟩ := commands.loading loading alike.toLoadingAlike
      obtain ⟨documents, answer⟩ := same alike.document
      obtain ⟨answers, ends⟩ := ih later ⟨kept, documents⟩
      exact ⟨.cons answer answers, ends⟩
    | false =>
      -- Without edits, what is not about loads is a selection, in the other run as well.
      have selecting := Command.selecting_of loading here
      have selecting' := Command.selecting_of (commands.isLoading.trans loading)
        (commands.edit?.trans here)
      exact ih later ((alike.left selecting).right selecting')
  | left inserted rest ih =>
    obtain ⟨_, later⟩ := List.forall_mem_cons.mp unedited
    rw [Store.loadAnswers_cons, (Command.selecting_other inserted).1]
    exact ih later (alike.left inserted)
  | right inserted rest ih =>
    rw [second.loadAnswers_cons, (Command.selecting_other inserted).1]
    exact ih unedited (alike.right inserted)

end

/-- Selections that are put into a run without edits, or taken out of it, change neither what is
answered about loads nor anything in the store but the selection; loads change no selection, whatever
is edited; and what a store tells about loading depends on nothing but the commands about loads. -/
theorem Store.loads_and_selections (close : Time → Time → Prop) (commands commands' : List Command) :
    let first := Store.new.after commands
    let second := Store.new.after commands'
    ((∀ command ∈ commands, command.edit? = none) →
      Differ close Command.isSelecting commands commands' →
        List.Forall₂ (Answer.Alike close)
          (Store.new.loadAnswers commands) (Store.new.loadAnswers commands') ∧
        first.snapshot.LoadedAlike close second.snapshot) ∧
    (Differ close Command.isLoading commands commands' →
      first.snapshot.current = second.snapshot.current) ∧
    (Differ close (!Command.isLoading ·) commands commands' →
      first.snapshot.LoadingAlike close second.snapshot) := by
  intro first second
  have initial : Store.new.snapshot.LoadedAlike close Store.new.snapshot := ⟨⟨rfl, rfl, .none⟩, rfl⟩
  exact ⟨fun unedited differ => differ.loaded unedited initial, fun differ => differ.current rfl,
    fun differ => differ.loading initial.toLoadingAlike⟩

/-- A run of loads, the same run among selections, an edited one, and that without its loads. -/
theorem Store.loads_and_selections_mixed :
    let loaded : Loaded := ⟨["eth0"], .ofEntries [("eth0", .ofJson (.bool true))]⟩
    let edit : Command := .apply (.ofJson (.bool false))
    let loads : List Command := [.startLoad, .publish loaded 7, .recordFailure .timeout]
    let selecting : List Command := [.select "eth0", .startLoad, .deselect, .publish loaded 3,
      .select "lo", .recordFailure .timeout]
    let editing : List Command := [.select "eth0", edit, .startLoad, .publish loaded 3, edit,
      .recordFailure .timeout]
    let unloaded : List Command := [.select "eth0", edit, edit]
    List.Forall₂ (Answer.Alike fun _ _ => True)
      (Store.new.loadAnswers selecting) (Store.new.loadAnswers loads) ∧
    (Store.new.after selecting).snapshot.document = (Store.new.after loads).snapshot.document ∧
    (Store.new.after editing).snapshot.current = (Store.new.after unloaded).snapshot.current ∧
    (Store.new.after editing).snapshot.ifnames = (Store.new.after loads).snapshot.ifnames := by
  intro loaded edit loads selecting editing unloaded
  let close : Time → Time → Prop := fun _ _ => True
  have starts : Command.Alike close .startLoad .startLoad := .undated nofun
  have fails : Command.Alike close (.recordFailure .timeout) (.recordFailure .timeout) :=
    .undated nofun
  have publishes : Command.Alike close (.publish loaded 3) (.publish loaded 7) := .publish trivial
  obtain ⟨answers, ends⟩ := (Store.loads_and_selections close selecting loads).1 (by decide)
    (.left rfl (.both starts (.left rfl (.both publishes (.left rfl (.both fails .nil))))))
  have current := (Store.loads_and_selections close editing unloaded).2.1
    (.both (.undated nofun) (.both (.undated nofun) (.left rfl (.left rfl
      (.both (.undated nofun) (.left rfl .nil))))))
  have state := (Store.loads_and_selections close editing loads).2.2
    (.left rfl (.left rfl (.both starts (.both publishes (.left rfl (.both fails .nil))))))
  exact ⟨answers, ends.document, current, state.ifnames⟩

end InterfaceSync
