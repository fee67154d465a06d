import InterfaceSync.Proofs.Attempts

/-! Any number of attempts may be made to load one store, and looked at, answered and dropped in any
order. At most one of them is ever under way, the store shows that one, and none is forgotten. -/

namespace InterfaceSync

/-- What a session does to its store by itself; loads are announced and ended by attempts only. -/
def Session.Action.Own : Session.Action → Prop
  | .command issued => issued.isLoading = false
  | _ => True

/-- A session with a log of its loads: the attempts that were let load and have neither ended nor been
dropped since, and how many first looks there were at attempts while no load was under way and none
had succeeded. -/
structure FlightLog where
  session : Session
  flights : List Nat
  firstLooks : Nat

namespace FlightLog

def new : FlightLog := ⟨.new, [], 0⟩

def mayLoad (session : Session) (handle : Nat) : Bool :=
  (session.attempt? handle).any (·.begins session.store)

def isFirstLook (session : Session) (handle : Nat) : Bool :=
  match session.attempt? handle, session.store.snapshot.loadState with
  | some (.created _), .uninitialized => true
  | some (.created _), .failed _ => true
  | _, _ => false

def flightsAfter (log : FlightLog) : Session.Action → List Nat
  | .poll handle now =>
    let told := if mayLoad log.session handle then log.flights ++ [handle] else log.flights
    match (log.session.poll handle now).answer with
    | some (.ready _) => told.filter (· != handle)
    | _ => told
  | .drop handle => log.flights.filter (· != handle)
  | _ => log.flights

def looksAfter (log : FlightLog) : Session.Action → Nat
  | .poll handle _ => if isFirstLook log.session handle then log.firstLooks + 1 else log.firstLooks
  | _ => log.firstLooks

def act (log : FlightLog) (action : Session.Action) : FlightLog :=
  ⟨(log.session.act action).state, log.flightsAfter action, log.looksAfter action⟩

def after (log : FlightLog) (actions : List Session.Action) : FlightLog :=
  actions.foldl act log

private theorem after_session (log : FlightLog) (actions : List Session.Action) :
    (log.after actions).session = log.session.after actions := by
  induction actions generalizing log with
  | nil => rfl
  | cons action rest ih => exact ih (log.act action)

end FlightLog

def Session.guard? (session : Session) (handle : Nat) : Option LoadGuard :=
  (session.attempt? handle).bind Attempt.guard?

namespace Session

variable {session : Session} {handle : Nat}

theorem guard?_held {attempt : Attempt} (held : session.attempt? handle = some attempt) :
    session.guard? handle = attempt.guard? := by
  simp [guard?, held]

theorem guard?_setAttempt {next : Option Attempt}
    (valid : handle < session.attempts.length ∨ next = none) (other : Nat) :
    (session.setAttempt handle next).guard? other =
      if other = handle then next.bind Attempt.guard? else session.guard? other := by
  simp only [guard?, attempt?_setAttempt valid]
  split <;> rfl

private theorem guard?_create (fetches : Fetches) (other : Nat) :
    (session.create fetches).guard? other = session.guard? other := by
  simp only [guard?, attempt?_create]
  split
  next same =>
    subst same
    simp [attempt?, nextHandle, Attempt.guard?]
  next => rfl

private theorem guard?_update (update : Attempt → Attempt)
    (keeps : ∀ attempt, (update attempt).guard? = attempt.guard?) (other : Nat) :
    (session.setAttempt handle ((session.attempt? handle).map update)).guard? other =
      session.guard? other := by
  cases held : session.attempt? handle with
  | none =>
    rw [Option.map_none, guard?_setAttempt (.inr rfl)]
    split
    next same => subst same; simp [guard?, held]
    next => rfl
  | some attempt =>
    rw [Option.map_some, guard?_setAttempt (.inl (handle_lt held))]
    split
    next same => subst same; simp [guard?, held, keeps]
    next => rfl

theorem poll_refused {fetches : Fetches}
    (held : session.attempt? handle = some (.created fetches))
    (loading : session.store.snapshot.loadState = .loading) (now : Time) :
    (session.poll handle now).answer = some (.ready (.error .loadInProgress)) ∧
      (session.poll handle now).state = session.setAttempt handle none := by
  have looked := Attempt.poll_loading fetches now loading
  have busy : ¬ session.store.snapshot.loadState.Idle := by simp [LoadState.Idle, loading]
  have begins := Attempt.begins_busy busy (.created fetches)
  obtain ⟨answer, state⟩ := poll_ended held (by rw [looked])
  exact ⟨answer, by rw [state, looked, starts, begins]; rfl⟩

theorem poll_served {fetches : Fetches}
    (held : session.attempt? handle = some (.created fetches))
    (ready : session.store.snapshot.loadState = .ready) (now : Time) :
    (session.poll handle now).answer = some (.ready (.ok session.store.snapshot)) ∧
      (session.poll handle now).state = session.setAttempt handle none := by
  have looked := Attempt.poll_ready fetches now ready
  have busy : ¬ session.store.snapshot.loadState.Idle := by simp [LoadState.Idle, ready]
  have begins := Attempt.begins_busy busy (.created fetches)
  obtain ⟨answer, state⟩ := poll_ended held (by rw [looked])
  exact ⟨answer, by rw [state, looked, starts, begins]; rfl⟩

private theorem poll_busy {fetches : Fetches}
    (held : session.attempt? handle = some (.created fetches))
    (busy : ¬ session.store.snapshot.loadState.Idle) (now : Time) :
    (∃ result, (session.poll handle now).answer = some (.ready result)) ∧
      (session.poll handle now).state = session.setAttempt handle none := by
  rcases LoadState.ready_or_loading busy with ready | loading
  · obtain ⟨answer, state⟩ := poll_served held ready now
    exact ⟨⟨_, answer⟩, state⟩
  · obtain ⟨answer, state⟩ := poll_refused held loading now
    exact ⟨⟨_, answer⟩, state⟩

theorem drop_created {fetches : Fetches}
    (held : session.attempt? handle = some (.created fetches)) :
    (session.drop handle).state = session.setAttempt handle none :=
  drop_some held

theorem drop_flight {first : Resource} {fetches : Fetches}
    (held : session.attempt? handle = some (.fetching .arm first fetches))
    (loading : session.store.snapshot.loadState = .loading) :
    (session.drop handle).state = { session.setAttempt handle none with
      store := session.store.publishSnapshot { session.store.snapshot with
        loadState := .failed ⟨none, SyncError.loadCancelled.message, none⟩ } } := by
  have unloaded : session.store.snapshot.loadState ≠ .ready := by simp [loading]
  rw [drop_some held, Attempt.drop, LoadGuard.drop_arm, Store.recordFailure_unloaded _ unloaded]
  rfl

theorem poll_advance {attempt : Attempt} {first : Resource} {fetches : Fetches} {store : Store}
    (now : Time) (held : session.attempt? handle = some attempt)
    (looked : attempt.poll session.store now = Attempt.advance .arm first fetches store now)
    (loading : store.snapshot.loadState = .loading) :
    (session.poll handle now).state.begun = session.begun + session.starts attempt ∧
    ((session.poll handle now).answer = some .pending ∧
        (session.poll handle now).state.store = store ∧
        (∀ other, (session.poll handle now).state.guard? other =
          if other = handle then some .arm else session.guard? other) ∨
      (∃ result, (session.poll handle now).answer = some (.ready result)) ∧
        (session.poll handle now).state.store.snapshot.loadState ≠ .loading ∧
        ∀ other, (session.poll handle now).state.guard? other =
          if other = handle then none else session.guard? other) := by
  rcases Attempt.advance_cases .arm first fetches now with ⟨waiting, advanced⟩ | ⟨result, advanced⟩
  · rw [advanced] at looked
    rw [poll_pending held looked]
    exact ⟨rfl, .inl ⟨rfl, rfl, guard?_setAttempt (.inl (handle_lt held))⟩⟩
  · obtain ⟨answer, state⟩ := poll_finish held (looked.trans advanced)
    rw [state]
    exact ⟨rfl, .inr ⟨⟨_, answer⟩, Store.finishLoad_ends result now (by simp [loading]),
      guard?_setAttempt (.inr rfl)⟩⟩

end Session

/-- The store and the attempts agree on what is under way: an attempt has a guard, which is armed,
exactly when it is in flight; and the store is loading for one such attempt or there is none. -/
structure FlightLog.Sound (log : FlightLog) : Prop where
  guards : ∀ handle, log.session.guard? handle = if handle ∈ log.flights then some .arm else none
  lone : log.session.store.snapshot.loadState = .loading ∧ (∃ handle, log.flights = [handle]) ∨
    log.session.store.snapshot.loadState ≠ .loading ∧ log.flights = []
  counted : log.session.begun = log.firstLooks

namespace FlightLog.Sound

variable {log : FlightLog} {handle : Nat}

private theorem new : FlightLog.new.Sound :=
  ⟨fun _ => rfl, .inr ⟨by simp [FlightLog.new, Session.new, Store.new, Snapshot.initial], rfl⟩, rfl⟩

theorem absent (sound : log.Sound) (free : log.session.guard? handle = none) :
    log.flights.filter (· != handle) = log.flights := by
  apply List.filter_eq_self.mpr
  intro other member
  have guarded := sound.guards other
  simp only [member, if_true] at guarded
  simp only [bne_iff_ne]
  rintro rfl
  simp [free] at guarded

theorem present (sound : log.Sound) {guard : LoadGuard}
    (held : log.session.guard? handle = some guard) :
    guard = .arm ∧ log.flights = [handle] ∧
      log.session.store.snapshot.loadState = .loading := by
  have guarded := sound.guards handle
  rw [held] at guarded
  split at guarded
  next member =>
    rcases sound.lone with ⟨loading, lone, flights⟩ | ⟨_, flights⟩
    · rw [flights] at member
      exact ⟨Option.some.inj guarded, by rw [flights, List.mem_singleton.mp member], loading⟩
    · simp [flights] at member
  next => cases guarded

theorem unchanged (sound : log.Sound) {session : Session}
    (guards : ∀ handle, session.guard? handle = log.session.guard? handle)
    (state : session.store.snapshot.loadState = log.session.store.snapshot.loadState)
    (begun : session.begun = log.session.begun) :
    FlightLog.Sound ⟨session, log.flights, log.firstLooks⟩ := by
  refine ⟨fun handle => (guards handle).trans (sound.guards handle), ?_, begun.trans sound.counted⟩
  simpa only [state] using sound.lone

theorem advance (sound : log.Sound) {attempt : Attempt} {first : Resource} {fetches : Fetches}
    {store : Store} {now : Time} (held : log.session.attempt? handle = some attempt)
    (looked : attempt.poll log.session.store now = Attempt.advance .arm first fetches store now)
    (loading : store.snapshot.loadState = .loading)
    (told : (if mayLoad log.session handle then log.flights ++ [handle] else log.flights) = [handle])
    (counted : log.looksAfter (.poll handle now) = log.firstLooks + log.session.starts attempt) :
    (log.act (.poll handle now)).Sound := by
  -- Nothing else is in flight, neither before a load that begins here nor beside one that goes on.
  have others : ∀ other, other ≠ handle → log.session.guard? other = none := by
    intro other different
    rw [sound.guards other]
    split at told
    next =>
      have empty : log.flights = [] := by simpa using told
      simp [empty]
    next => simp [told, different]
  obtain ⟨begun, ⟨answer, state, guards⟩ | ⟨⟨result, answer⟩, state, guards⟩⟩ :=
    Session.poll_advance now held looked loading
  · have flights : log.flightsAfter (.poll handle now) = [handle] := by
      simp only [flightsAfter, told, answer]
    refine ⟨fun other => ?_, .inl ⟨?_, handle, flights⟩, ?_⟩
    · simp only [FlightLog.act, flights, List.mem_singleton]
      refine (guards other).trans ?_
      split
      next => rfl
      next different => exact others other different
    · exact (congrArg (·.snapshot.loadState) state).trans loading
    · exact (begun.trans (by rw [sound.counted])).trans counted.symm
  · have flights : log.flightsAfter (.poll handle now) = [] := by
      simp only [flightsAfter, told, answer]
      simp
    refine ⟨fun other => ?_, .inr ⟨state, flights⟩, ?_⟩
    · simp only [FlightLog.act, flights, List.not_mem_nil, if_false]
      refine (guards other).trans ?_
      split
      next => rfl
      next different => exact others other different
    · exact (begun.trans (by rw [sound.counted])).trans counted.symm

theorem end_created (sound : log.Sound) {fetches : Fetches}
    (held : log.session.attempt? handle = some (.created fetches)) :
    log.flights.filter (· != handle) = log.flights ∧
      FlightLog.Sound ⟨log.session.setAttempt handle none, log.flights, log.firstLooks⟩ := by
  have free : log.session.guard? handle = none := Session.guard?_held held
  refine ⟨sound.absent free, sound.unchanged (fun other => ?_) rfl rfl⟩
  rw [Session.guard?_setAttempt (.inr rfl)]
  split
  next same => rw [same, free]; rfl
  next => rfl

private theorem poll (sound : log.Sound) (now : Time) : (log.act (.poll handle now)).Sound := by
  cases held : log.session.attempt? handle with
  | none =>
    have same : log.act (.poll handle now) = log := by
      simp [FlightLog.act, Session.act, flightsAfter, looksAfter, mayLoad, isFirstLook,
        Session.poll_none held, held]
    rw [same]
    exact sound
  | some attempt =>
    cases attempt with
    | fetching guard first fetches =>
      obtain ⟨rfl, flights, loading⟩ := sound.present (Session.guard?_held held)
      exact sound.advance held rfl loading
        (by simp [mayLoad, held, Attempt.begins, flights])
        (by simp [looksAfter, isFirstLook, held, Session.starts, Attempt.begins])
    | created fetches =>
      by_cases idle : log.session.store.snapshot.loadState.Idle
      · have empty : log.flights = [] := by
          rcases sound.lone with ⟨loading, _⟩ | ⟨_, empty⟩
          · exact absurd loading (LoadState.idle_iff.mp idle).2
          · exact empty
        have begins := Attempt.begins_idle fetches idle
        refine sound.advance held (Attempt.poll_idle fetches now idle) rfl
          (by simp [mayLoad, held, begins, empty]) ?_
        have counts : isFirstLook log.session handle = true := by
          rcases idle with state | ⟨failure, state⟩ <;> simp [isFirstLook, held, state]
        simp [looksAfter, counts, Session.starts, begins]
      -- A busy store refuses or serves the attempt, which ends without having begun.
      · obtain ⟨⟨result, answer⟩, state⟩ := Session.poll_busy held idle now
        obtain ⟨flights, ended⟩ := sound.end_created held
        have stays : log.act (.poll handle now) =
            ⟨log.session.setAttempt handle none, log.flights, log.firstLooks⟩ := by
          have quiet : isFirstLook log.session handle = false := by
            rcases LoadState.ready_or_loading idle with state | state <;>
              simp [isFirstLook, held, state]
          simp [FlightLog.act, Session.act, state, flightsAfter, looksAfter, mayLoad, held, answer,
            Attempt.begins_busy idle, flights, quiet]
        rw [stays]
        exact ended

private theorem drop (sound : log.Sound) : (log.act (.drop handle)).Sound := by
  cases held : log.session.attempt? handle with
  | none =>
    have free : log.session.guard? handle = none := by simp [Session.guard?, held]
    have same : log.act (.drop handle) = log := by
      simp [FlightLog.act, Session.act, flightsAfter, looksAfter, Session.drop_none held,
        sound.absent free]
    rw [same]
    exact sound
  | some attempt =>
    cases attempt with
    | created fetches =>
      obtain ⟨flights, ended⟩ := sound.end_created held
      have stays : log.act (.drop handle) =
          ⟨log.session.setAttempt handle none, log.flights, log.firstLooks⟩ := by
        simp only [FlightLog.act, Session.act, Outcome.map_state, Session.drop_created held,
          flightsAfter, looksAfter, flights]
      rw [stays]
      exact ended
    | fetching guard first fetches =>
      obtain ⟨rfl, flights, loading⟩ := sound.present (Session.guard?_held held)
      have state := Session.drop_flight held loading
      refine ⟨fun other => ?_, .inr ⟨?_, ?_⟩, ?_⟩
      · have guards : (log.session.setAttempt handle none).guard? other =
            if other = handle then none else log.session.guard? other :=
          Session.guard?_setAttempt (.inr rfl) other
        simp only [FlightLog.act, Session.act, Outcome.map_state, state, flightsAfter, flights]
        refine guards.trans ?_
        by_cases same : other = handle
        · simp [same]
        · simp [same, sound.guards other, flights]
      · simp [FlightLog.act, Session.act, state]
      · simp [FlightLog.act, flightsAfter, flights]
      · simp only [FlightLog.act, Session.act, Outcome.map_state, state, looksAfter]
        exact sound.counted

private theorem act (sound : log.Sound) {action : Session.Action} (own : action.Own) :
    (log.act action).Sound := by
  cases action with
  | command issued =>
    exact sound.unchanged (fun _ => rfl) (Command.loadState_kept log.session.store own) rfl
  | subscribe => exact sound.unchanged (fun _ => rfl) rfl rfl
  | create => exact sound.unchanged (Session.guard?_create .waiting) rfl rfl
  | supplyNames handle reply =>
    exact sound.unchanged (Session.guard?_update _ (Attempt.guard?_supplyNames reply)) rfl rfl
  | supplyConfig handle reply =>
    exact sound.unchanged (Session.guard?_update _ (Attempt.guard?_supplyConfig reply)) rfl rfl
  | poll handle now => exact sound.poll now
  | drop handle => exact sound.drop

private theorem after (sound : log.Sound) (actions : List Session.Action)
    (own : ∀ action ∈ actions, action.Own) : (log.after actions).Sound := by
  induction actions generalizing log with
  | nil => exact sound
  | cons action rest ih =>
    exact ih (sound.act (own action List.mem_cons_self))
      (fun later member => own later (List.mem_cons_of_mem _ member))

private theorem fetching (sound : log.Sound) (member : handle ∈ log.flights) :
    ∃ first fetches, log.session.attempt? handle = some (.fetching .arm first fetches) := by
  have guarded := sound.guards handle
  rw [if_pos member] at guarded
  cases held : log.session.attempt? handle with
  | none => simp [Session.guard?, held] at guarded
  | some attempt =>
    rw [Session.guard?_held held] at guarded
    cases attempt with
    | created fetches => cases guarded
    | fetching guard first fetches => cases guarded; exact ⟨first, fetches, rfl⟩

private theorem leaves (sound : log.Sound) {action : Session.Action} (own : action.Own)
    (loading : log.session.store.snapshot.loadState = .loading)
    (stopped : (log.session.act action).state.store.snapshot.loadState ≠ .loading) :
    ∃ handle, log.flights = [handle] ∧ (action = .drop handle ∨
      ∃ now result, action = .poll handle now ∧
        (log.session.poll handle now).answer = some (.ready result)) := by
  cases action with
  | command issued => exact absurd ((Command.loadState_kept log.session.store own).trans loading) stopped
  | subscribe | create | supplyNames | supplyConfig => exact absurd loading stopped
  | poll handle now =>
    cases held : log.session.attempt? handle with
    | none => simp [Session.act, Session.poll_none held, loading] at stopped
    | some attempt =>
      cases attempt with
      | created fetches =>
        simp [Session.act, (Session.poll_refused held loading now).2, Session.setAttempt,
          loading] at stopped
      | fetching guard first fetches =>
        obtain ⟨rfl, flights, _⟩ := sound.present (Session.guard?_held held)
        obtain ⟨_, ⟨_, state, _⟩ | ⟨⟨result, answer⟩, _⟩⟩ :=
          Session.poll_advance now held rfl loading
        · simp [Session.act, state, loading] at stopped
        · exact ⟨handle, flights, .inr ⟨now, result, rfl, answer⟩⟩
  | drop handle =>
    cases held : log.session.attempt? handle with
    | none => simp [Session.act, Session.drop_none held, loading] at stopped
    | some attempt =>
      cases attempt with
      | created fetches =>
        simp [Session.act, Session.drop_created held, Session.setAttempt, loading] at stopped
      | fetching guard first fetches =>
        obtain ⟨rfl, flights, _⟩ := sound.present (Session.guard?_held held)
        exact ⟨handle, flights, .inl rfl⟩

end FlightLog.Sound

def Session.Ended (session : Session) (handle : Nat) : Prop :=
  session.attempts[handle]? = some none

namespace Session.Ended

variable {session : Session} {handle : Nat}

theorem gone (ended : session.Ended handle) : session.attempt? handle = none :=
  congrArg Option.join ended

theorem inside (ended : session.Ended handle) : handle < session.attempts.length :=
  (List.getElem?_eq_some_iff.mp ended).1

theorem setAttempt (ended : session.Ended handle) {other : Nat} {next : Option Attempt}
    (keeps : other = handle → next = none) : (session.setAttempt other next).Ended handle := by
  simp only [Session.Ended, Session.setAttempt, List.getElem?_set]
  split
  next same => simp [keeps same, same ▸ ended.inside]
  next => exact ended

private theorem update (ended : session.Ended handle) {other : Nat} (change : Attempt → Attempt) :
    (session.setAttempt other ((session.attempt? other).map change)).Ended handle :=
  ended.setAttempt fun same => by rw [same, ended.gone]; rfl

private theorem poll (ended : session.Ended handle) (other : Nat) (now : Time) :
    (session.poll other now).state.Ended handle := by
  cases held : session.attempt? other with
  | none => rw [poll_none held]; exact ended
  | some attempt =>
    have different : other ≠ handle := by
      rintro rfl
      simp [ended.gone] at held
    have kept : ∀ next, (session.setAttempt other next).Ended handle :=
      fun next => ended.setAttempt fun same => absurd same different
    simp only [Session.poll, held]
    split
    · exact kept _
    · exact kept _

private theorem drop (ended : session.Ended handle) (other : Nat) :
    (session.drop other).state.Ended handle := by
  cases held : session.attempt? other with
  | none => rw [drop_none held]; exact ended
  | some attempt =>
    have kept : (session.setAttempt other none).Ended handle := ended.setAttempt fun _ => rfl
    rw [drop_some held]
    exact kept

private theorem act (ended : session.Ended handle) (action : Session.Action) :
    (session.act action).state.Ended handle := by
  cases action with
  | command | subscribe => exact ended
  | create => exact (List.getElem?_append_left ended.inside).trans ended
  | supplyNames other reply => exact ended.update _
  | supplyConfig other reply => exact ended.update _
  | poll other now => exact ended.poll other now
  | drop other => exact ended.drop other

private theorem after (ended : session.Ended handle) (actions : List Session.Action) :
    (session.after actions).Ended handle := by
  induction actions generalizing session with
  | nil => exact ended
  | cons action rest ih => exact ih (ended.act action)

private theorem of_poll {now : Time} {result : Except SyncError Snapshot}
    (answer : (session.poll handle now).answer = some (.ready result)) :
    (session.poll handle now).state.Ended handle := by
  cases held : session.attempt? handle with
  | none => simp [poll_none held] at answer
  | some attempt =>
    cases looked : (attempt.poll session.store now).answer with
    | pending next => simp [Session.poll, held, looked] at answer
    | ended result =>
      rw [(poll_ended held looked).2]
      simp [Session.Ended, Session.setAttempt, handle_lt held]

end Session.Ended

structure SingleFlight (log : FlightLog) : Prop where
  /-- The store is loading exactly when an attempt is in flight, and two never are. -/
  loading : log.session.store.snapshot.loadState = .loading ↔ ∃ handle, log.flights = [handle]
  alone : log.flights.length ≤ 1
  /-- Loading is over only when the attempt in flight has ended or was dropped. -/
  leaves : ∀ action : Session.Action, action.Own →
    log.session.store.snapshot.loadState = .loading →
    (log.session.act action).state.store.snapshot.loadState ≠ .loading →
    ∃ handle, log.flights = [handle] ∧ (action = .drop handle ∨
      ∃ now result, action = .poll handle now ∧
        (log.session.poll handle now).answer = some (.ready result))
  /-- Dropping an attempt that was never looked at does nothing to the store. -/
  unseen : ∀ handle fetches, log.session.attempt? handle = some (.created fetches) →
    (log.session.drop handle).state.store = log.session.store ∧
      (log.session.drop handle).state.begun = log.session.begun
  /-- Neither does a first look while a load is under way, nor one once a load has succeeded. -/
  refused : ∀ handle fetches now, log.session.attempt? handle = some (.created fetches) →
    log.session.store.snapshot.loadState = .loading →
    (log.session.poll handle now).answer = some (.ready (.error .loadInProgress)) ∧
      (log.session.poll handle now).state.store = log.session.store ∧
      (log.session.poll handle now).state.begun = log.session.begun
  served : ∀ handle fetches now, log.session.attempt? handle = some (.created fetches) →
    log.session.store.snapshot.loadState = .ready →
    (log.session.poll handle now).answer = some (.ready (.ok log.session.store.snapshot)) ∧
      (log.session.poll handle now).state.store = log.session.store ∧
      (log.session.poll handle now).state.begun = log.session.begun
  /-- An attempt that has given a result never does anything again, whatever happens next. -/
  spent : ∀ handle now result, (log.session.poll handle now).answer = some (.ready result) →
    ∀ later, let final := (log.session.poll handle now).state.after later
      (∀ now, (final.poll handle now).state = final) ∧ (final.drop handle).state = final
  /-- Dropping the attempt in flight leaves a failure without a resource and without a status. -/
  cancelled : ∀ handle ∈ log.flights, (log.session.drop handle).state.store.snapshot =
    { log.session.store.snapshot with
      loadState := .failed ⟨none, SyncError.loadCancelled.message, none⟩ }
  /-- A first look always begins a load if none is under way and none has succeeded; these are all
  the loads that ever begin. -/
  retried : ∀ handle fetches now, log.session.attempt? handle = some (.created fetches) →
    log.session.store.snapshot.loadState.Idle →
    (log.session.poll handle now).state.begun = log.session.begun + 1
  counted : log.session.begun = log.firstLooks

private theorem FlightLog.Sound.singleFlight {log : FlightLog} (sound : log.Sound) : SingleFlight
    log where
  loading := by
    rcases sound.lone with ⟨loading, lone⟩ | ⟨still, empty⟩
    · exact iff_of_true loading lone
    · exact iff_of_false still (by simp [empty])
  alone := by
    rcases sound.lone with ⟨_, handle, flights⟩ | ⟨_, empty⟩
    · simp [flights]
    · simp [empty]
  leaves _ own loading stopped := sound.leaves own loading stopped
  unseen handle fetches held := by
    rw [Session.drop_created held]
    exact ⟨rfl, rfl⟩
  refused handle fetches now held loading := by
    obtain ⟨answer, state⟩ := Session.poll_refused held loading now
    rw [state]
    exact ⟨answer, rfl, rfl⟩
  served handle fetches now held ready := by
    obtain ⟨answer, state⟩ := Session.poll_served held ready now
    rw [state]
    exact ⟨answer, rfl, rfl⟩
  spent handle now result answer later := by
    have gone := ((Session.Ended.of_poll answer).after later).gone
    exact ⟨fun now => by rw [Session.poll_none gone], by rw [Session.drop_none gone]⟩
  cancelled handle member := by
    obtain ⟨first, fetches, held⟩ := sound.fetching member
    obtain ⟨_, _, loading⟩ := sound.present (Session.guard?_held held)
    rw [Session.drop_flight held loading]
    rfl
  retried handle fetches now held idle := by
    obtain ⟨begun, _⟩ := Session.poll_advance now held (Attempt.poll_idle fetches now idle) rfl
    rw [begun, Session.starts, Attempt.begins_idle fetches idle]
    rfl
  counted := sound.counted

/-- Whatever is done with any number of attempts, together with selecting and editing, at most one load
is under way at a time, its end is the only end of loading, and a load can begin again after it. -/
theorem FlightLog.single_flight (actions : List Session.Action)
    (own : ∀ action ∈ actions, action.Own) :
    let log := FlightLog.new.after actions
    log.session = Session.new.after actions ∧ SingleFlight log :=
  ⟨FlightLog.after_session _ _, (FlightLog.Sound.new.after actions own).singleFlight⟩

/-- Two attempts, of which the second is refused; the first is dropped, and a third one begins anew. -/
def FlightLog.retriedLoad : List Session.Action :=
  [.create, .create, .command (.select "eth0"), .poll 0 1, .poll 1 2, .drop 0, .create, .poll 2 3,
    .supplyNames 2 (.ok ["eth0"])]

theorem FlightLog.retriedLoad_single_flight :
    (∀ action ∈ retriedLoad, action.Own) ∧ SingleFlight (FlightLog.new.after retriedLoad) ∧
      (FlightLog.new.after retriedLoad).flights = [2] ∧
      (FlightLog.new.after retriedLoad).session.begun = 2 := by
  have own : ∀ action ∈ retriedLoad, action.Own := by
    simp [retriedLoad, Session.Action.Own, Command.isLoading]
  exact ⟨own, (FlightLog.single_flight retriedLoad own).2, rfl, rfl⟩

end InterfaceSync
