import InterfaceSync.Proofs.Transitions
import InterfaceSync.Sync.Session

/-! What a look at an attempt does, and the end of an attempt, case by case: what becomes of the
store, of the attempt, and of the others. Attempts do nothing to a store that commands could not do. -/

namespace InterfaceSync

theorem LoadGuard.drop_arm (store : Store) :
    LoadGuard.arm.drop store = store.recordFailure .loadCancelled := rfl

theorem Store.finishLoad_ok {store : Store} (names : List String) (payload : Payload) (now : Time)
    (unloaded : store.snapshot.loadState ≠ .ready) :
    let loaded := (Loaded.join names payload).snapshot store.snapshot.current now
    (store.finishLoad (.ok (names, payload)) now).answer = .ok loaded ∧
      (store.finishLoad (.ok (names, payload)) now).state = store.publishSnapshot loaded := by
  simp [Store.finishLoad, Store.publish_unloaded _ _ unloaded]

theorem Store.finishLoad_error {store : Store} (error : SyncError) (now : Time)
    (unloaded : store.snapshot.loadState ≠ .ready) :
    (store.finishLoad (.error error) now).answer = .error error ∧
      (store.finishLoad (.error error) now).state = store.publishSnapshot
        { store.snapshot with loadState := .failed (.ofError error) } := by
  simp [Store.finishLoad, Store.recordFailure_unloaded _ unloaded]

theorem Store.finishLoad_ends {store : Store} (result : Except SyncError (List String × Payload))
    (now : Time) (unloaded : store.snapshot.loadState ≠ .ready) :
    (store.finishLoad result now).state.snapshot.loadState ≠ .loading := by
  cases result with
  | ok loaded =>
    rw [(Store.finishLoad_ok loaded.1 loaded.2 now unloaded).2]
    simp [Loaded.snapshot]
  | error error =>
    rw [(Store.finishLoad_error error now unloaded).2]
    simp

namespace Attempt

variable {store : Store} (guard : LoadGuard) (first : Resource) (fetches : Fetches) (now : Time)

theorem finish_answer (result : Except SyncError (List String × Payload)) :
    (finish guard store result now).answer = .ended (store.finishLoad result now).answer := rfl

theorem finish_state (result : Except SyncError (List String × Payload)) :
    (finish guard store result now).state = (store.finishLoad result now).state := rfl

/-- A look at the reads leaves the store alone and the guard in place, or it ends the load. -/
theorem advance_cases :
    (∃ waiting, advance guard first fetches store now =
      ⟨.pending (.fetching guard first.other waiting), store, []⟩) ∨
    ∃ result, advance guard first fetches store now = finish guard store result now := by
  cases looked : Fetches.lookFrom first fetches with
  | error error => exact .inr ⟨.error error, by simp [advance, looked]⟩
  | ok progress =>
    cases progress with
    | pending waiting => exact .inl ⟨waiting, by simp [advance, looked]⟩
    | joined names payload => exact .inr ⟨.ok (names, payload), by simp [advance, looked]⟩

theorem poll_ready (ready : store.snapshot.loadState = .ready) :
    (created fetches).poll store now = ⟨.ended (.ok store.snapshot), store, []⟩ := by
  simp [poll, Store.startLoad_ready ready]

theorem poll_loading (loading : store.snapshot.loadState = .loading) :
    (created fetches).poll store now = ⟨.ended (.error .loadInProgress), store, []⟩ := by
  simp [poll, Store.startLoad_loading loading]

theorem poll_idle (idle : store.snapshot.loadState.Idle) :
    (created fetches).poll store now = advance .arm .ifnames fetches
      (store.publishSnapshot { store.snapshot with loadState := .loading }) now := by
  simp [poll, Store.startLoad_idle idle]

theorem begins_idle (idle : store.snapshot.loadState.Idle) :
    (created fetches).begins store = true := by
  simp [begins, Store.startLoad_idle idle]

theorem begins_busy (busy : ¬ store.snapshot.loadState.Idle) (attempt : Attempt) :
    attempt.begins store = false := by
  cases attempt with
  | fetching => rfl
  | created fetches =>
    cases state : store.snapshot.loadState <;>
      simp_all [begins, Store.startLoad, LoadState.Idle]

private theorem advance_commands (store : Store) :
    ∃ commands, (advance guard first fetches store now).state = store.after commands := by
  rcases advance_cases guard first fetches now with ⟨waiting, looked⟩ | ⟨result, looked⟩
  · exact ⟨[], by rw [looked]; rfl⟩
  · rw [looked, finish_state]
    cases result with
    | ok loaded => exact ⟨[.publish (.join loaded.1 loaded.2) now], rfl⟩
    | error error => exact ⟨[.recordFailure error], rfl⟩

private theorem poll_commands (attempt : Attempt) (store : Store) :
    ∃ commands, (attempt.poll store now).state = store.after commands := by
  cases attempt with
  | fetching guard first fetches => exact advance_commands guard first fetches now store
  | created fetches =>
    by_cases idle : store.snapshot.loadState.Idle
    · rw [poll_idle fetches now idle]
      obtain ⟨commands, advanced⟩ := advance_commands .arm .ifnames fetches now
        (store.publishSnapshot { store.snapshot with loadState := .loading })
      refine ⟨.startLoad :: commands, advanced.trans ?_⟩
      rw [Store.after_cons, Command.run, Store.startLoad_idle idle]
      rfl
    · rcases LoadState.ready_or_loading idle with ready | loading
      · exact ⟨[], by rw [poll_ready fetches now ready]; rfl⟩
      · exact ⟨[], by rw [poll_loading fetches now loading]; rfl⟩

private theorem drop_commands (attempt : Attempt) (store : Store) :
    ∃ commands, (attempt.drop store).state = store.after commands := by
  cases attempt with
  | created fetches => exact ⟨[], rfl⟩
  | fetching guard first fetches =>
    by_cases armed : guard.armed = true
    · exact ⟨[.recordFailure .loadCancelled], by simp [drop, LoadGuard.drop, armed, Command.run]⟩
    · exact ⟨[], by simp [drop, LoadGuard.drop, armed]⟩

def guard? : Attempt → Option LoadGuard
  | .created _ => none
  | .fetching guard _ _ => some guard

theorem guard?_supplyNames (reply : Except ApiError (List String)) (attempt : Attempt) :
    (attempt.supplyNames reply).guard? = attempt.guard? := by
  cases attempt <;> rfl

theorem guard?_supplyConfig (reply : Except ApiError Payload) (attempt : Attempt) :
    (attempt.supplyConfig reply).guard? = attempt.guard? := by
  cases attempt <;> rfl

end Attempt

namespace Session

variable {session : Session} {handle : Nat}

theorem handle_lt {attempt : Attempt} (held : session.attempt? handle = some attempt) :
    handle < session.attempts.length := by
  apply Nat.lt_of_not_le
  intro outside
  have missing : session.attempts[handle]? = none := List.getElem?_eq_none outside
  simp [attempt?, missing] at held

/-- Setting an attempt that there is, or one to nothing, changes that one only. -/
theorem attempt?_setAttempt {next : Option Attempt}
    (valid : handle < session.attempts.length ∨ next = none) (other : Nat) :
    (session.setAttempt handle next).attempt? other =
      if other = handle then next else session.attempt? other := by
  simp only [attempt?, setAttempt, List.getElem?_set]
  -- Out of range nothing is set, and nothing is what was there.
  by_cases same : other = handle
  · subst same
    by_cases inside : other < session.attempts.length
    · simp [inside]
    · rcases valid with inside' | rfl
      · exact absurd inside' inside
      · simp [inside]
  · simp [same, Ne.symm same]

theorem attempt?_create (fetches : Fetches) (other : Nat) :
    (session.create fetches).attempt? other =
      if other = session.nextHandle then some (.created fetches) else session.attempt? other := by
  simp only [attempt?, create, nextHandle, List.getElem?_append]
  split
  next inside => simp [Nat.ne_of_lt inside]
  next outside =>
    by_cases same : other = session.attempts.length
    · simp [same]
    · have beyond : session.attempts.length < other := by omega
      have missing : session.attempts[other]? = none := List.getElem?_eq_none (by omega)
      simp [same, missing, show other - session.attempts.length ≠ 0 by omega]

def after (session : Session) (actions : List Session.Action) : Session :=
  actions.foldl (fun session action => (session.act action).state) session

@[simp] theorem after_nil (session : Session) : session.after [] = session := rfl

@[simp] theorem after_cons (session : Session) (action : Session.Action)
    (rest : List Session.Action) :
    session.after (action :: rest) = (session.act action).state.after rest := rfl

@[simp] theorem after_append (session : Session) (earlier later : List Session.Action) :
    session.after (earlier ++ later) = (session.after earlier).after later :=
  List.foldl_append

theorem poll_none (gone : session.attempt? handle = none) (now : Time) :
    session.poll handle now = ⟨none, session, []⟩ := by
  simp [poll, gone]

theorem drop_none (gone : session.attempt? handle = none) :
    session.drop handle = ⟨false, session, []⟩ := by
  simp [drop, gone]

theorem drop_some {attempt : Attempt} (held : session.attempt? handle = some attempt) :
    (session.drop handle).state =
      { session.setAttempt handle none with store := (attempt.drop session.store).state } := by
  simp [drop, held]

def starts (session : Session) (attempt : Attempt) : Nat :=
  if attempt.begins session.store then 1 else 0

theorem poll_pending {attempt next : Attempt} {store : Store} {now : Time} {events : List Event}
    (held : session.attempt? handle = some attempt)
    (looked : attempt.poll session.store now = ⟨.pending next, store, events⟩) :
    session.poll handle now =
      ⟨some .pending, { session.setAttempt handle (some next) with
        store, begun := session.begun + session.starts attempt }, events⟩ := by
  simp [poll, held, looked, starts]

theorem poll_ended {attempt : Attempt} {result : Except SyncError Snapshot} {now : Time}
    (held : session.attempt? handle = some attempt)
    (looked : (attempt.poll session.store now).answer = .ended result) :
    (session.poll handle now).answer = some (.ready result) ∧
    (session.poll handle now).state = { session.setAttempt handle none with
      store := (attempt.poll session.store now).state
      begun := session.begun + session.starts attempt } := by
  simp [poll, held, looked, starts]

theorem poll_finish {attempt : Attempt} {guard : LoadGuard} {store : Store}
    {result : Except SyncError (List String × Payload)} {now : Time}
    (held : session.attempt? handle = some attempt)
    (looked : attempt.poll session.store now = Attempt.finish guard store result now) :
    (session.poll handle now).answer = some (.ready (store.finishLoad result now).answer) ∧
    (session.poll handle now).state = { session.setAttempt handle none with
      store := (store.finishLoad result now).state
      begun := session.begun + session.starts attempt } := by
  obtain ⟨answer, state⟩ := poll_ended held (by rw [looked, Attempt.finish_answer])
  exact ⟨answer, by rw [state, looked, Attempt.finish_state]⟩

theorem act_commands (session : Session) (action : Session.Action) :
    ∃ commands, (session.act action).state.store = session.store.after commands := by
  cases action with
  | command issued => exact ⟨[issued], rfl⟩
  | subscribe | create | supplyNames | supplyConfig => exact ⟨[], rfl⟩
  | poll handle now =>
    cases held : session.attempt? handle with
    | none => exact ⟨[], by simp [act, poll_none held]⟩
    | some attempt =>
      obtain ⟨commands, state⟩ := attempt.poll_commands now session.store
      refine ⟨commands, state ▸ ?_⟩
      simp only [act, Outcome.map_state, poll, held]
      split <;> rfl
  | drop handle =>
    cases held : session.attempt? handle with
    | none => exact ⟨[], by simp [act, drop_none held]⟩
    | some attempt =>
      obtain ⟨commands, state⟩ := attempt.drop_commands session.store
      exact ⟨commands, by simp [act, drop_some held, state]⟩

/-- The store of a session is one that commands lead to. -/
theorem after_commands (session : Session) (actions : List Session.Action) :
    ∃ commands, (session.after actions).store = session.store.after commands := by
  induction actions generalizing session with
  | nil => exact ⟨[], rfl⟩
  | cons action rest ih =>
    obtain ⟨now, acted⟩ := session.act_commands action
    obtain ⟨later, ran⟩ := ih (session.act action).state
    exact ⟨now ++ later, by rw [after_cons, ran, acted, Store.after_append]⟩

end Session

end InterfaceSync
