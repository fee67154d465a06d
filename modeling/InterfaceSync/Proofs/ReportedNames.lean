import InterfaceSync.Proofs.AtomicLoad
import InterfaceSync.Proofs.EditHistory
import Mathlib.Data.List.Basic

/-! The names of a ready store. A host may repeat itself: a name is kept where it stands first, and
every other place of it is warned about. Whatever attempts, replies, looks and commands a run
consists of, the names in the store are then the names that one attempt was told, and a name is
known exactly when the host told it. -/

namespace InterfaceSync

theorem mem_firstOccurrences {seen names : List Ifname} {name : Ifname} :
    name ∈ firstOccurrences seen names ↔ name ∈ names ∧ name ∉ seen := by
  induction names generalizing seen with
  | nil => simp [firstOccurrences]
  | cons head rest ih =>
    by_cases same : name = head
    · subst same
      by_cases known : name ∈ seen <;> simp [firstOccurrences, known, ih]
    · by_cases known : head ∈ seen <;> simp [firstOccurrences, known, ih, same]

private theorem firstOccurrences_nodup (seen names : List Ifname) :
    (firstOccurrences seen names).Nodup := by
  induction names generalizing seen with
  | nil => exact List.nodup_nil
  | cons head rest ih =>
    rw [firstOccurrences]
    split
    · exact ih seen
    · have fresh : head ∉ firstOccurrences (head :: seen) rest := by simp [mem_firstOccurrences]
      exact List.nodup_cons.mpr ⟨fresh, ih (head :: seen)⟩

private theorem firstOccurrences_sublist (seen names : List Ifname) :
    (firstOccurrences seen names).Sublist names := by
  induction names generalizing seen with
  | nil => exact .refl _
  | cons head rest ih =>
    rw [firstOccurrences]
    split
    · exact (ih seen).cons head
    · exact (ih (head :: seen)).cons_cons head

theorem firstOccurrences_order {seen : List Ifname} {first second : Ifname} (names : List Ifname)
    (new : first ∉ seen) (new' : second ∉ seen) :
    (firstOccurrences seen names).idxOf first < (firstOccurrences seen names).idxOf second ↔
      names.idxOf first < names.idxOf second := by
  induction names generalizing seen with
  | nil => rfl
  | cons head rest ih =>
    by_cases known : head ∈ seen
    · have other : head ≠ first := fun same => new (same ▸ known)
      have other' : head ≠ second := fun same => new' (same ▸ known)
      rw [firstOccurrences, if_pos known, ih new new', List.idxOf_cons_ne rest other,
        List.idxOf_cons_ne rest other', Nat.succ_lt_succ_iff]
    rw [firstOccurrences, if_neg known]
    -- The name in front stays there, and is in front of all others.
    by_cases same : head = first
    · subst same
      by_cases same' : head = second
      · subst same'
        simp
      · simp [List.idxOf_cons_ne _ same']
    · by_cases same' : head = second
      · subst same'
        simp
      · have fresh : first ∉ head :: seen := by simp [Ne.symm same, new]
        have fresh' : second ∉ head :: seen := by simp [Ne.symm same', new']
        simp [List.idxOf_cons_ne _ same, List.idxOf_cons_ne _ same', ih fresh fresh']

/-- The places of a list, in their order, at which the name is one that stands further ahead, or at
which it is not. -/
def places (repeated : Bool) (names : List Ifname) : List Ifname :=
  (names.zipIdx.filter fun place => decide (place.1 ∈ names.take place.2) = repeated).map (·.1)

private theorem occurrences_places {seen names : List Ifname} (ahead : List Ifname)
    (told : ∀ name, name ∈ seen ↔ name ∈ ahead) :
    let repeats (place : Ifname × Nat) : Bool := decide (place.1 ∈ (ahead ++ names).take place.2)
    firstOccurrences seen names =
        ((names.zipIdx ahead.length).filter fun place => repeats place = false).map (·.1) ∧
      repeatedOccurrences seen names =
        ((names.zipIdx ahead.length).filter fun place => repeats place = true).map (·.1) := by
  intro repeats
  induction names generalizing seen ahead with
  | nil => exact ⟨rfl, rfl⟩
  | cons head rest ih =>
    have split : ahead ++ head :: rest = (ahead ++ [head]) ++ rest := by simp
    by_cases known : head ∈ seen
    · have again : ∀ name, name ∈ seen ↔ name ∈ ahead ++ [head] := by
        intro name
        by_cases same : name = head <;> simp_all
      have later := ih (ahead ++ [head]) again
      simp only [← split, List.length_append, List.length_singleton] at later
      simp [firstOccurrences, repeatedOccurrences, known, (told head).mp known,
        List.zipIdx_cons, later, repeats]
    · have added : ∀ name, name ∈ head :: seen ↔ name ∈ ahead ++ [head] := by
        simp [told, or_comm]
      have later := ih (ahead ++ [head]) added
      simp only [← split, List.length_append, List.length_singleton] at later
      have unknown : head ∉ ahead := fun there => known ((told head).mpr there)
      simp [firstOccurrences, repeatedOccurrences, known, unknown, List.zipIdx_cons, later,
        repeats]

/-- A list of names in which every name is kept where it stands first, and what is dropped of it. -/
structure KeepsFirst (names kept dropped : List Ifname) : Prop where
  nodup : kept.Nodup
  sublist : kept.Sublist names
  members : ∀ name, name ∈ kept ↔ name ∈ names
  /-- A name that is not there stands behind all others. -/
  order : ∀ first second,
    kept.idxOf first < kept.idxOf second ↔ names.idxOf first < names.idxOf second
  first : kept = places false names
  repeated : dropped = places true names
  unrepeated : names.Nodup → kept = names ∧ dropped = []

private theorem repeatedOccurrences_nodup {seen names : List Ifname} (nodup : names.Nodup)
    (fresh : ∀ name ∈ names, name ∉ seen) :
    firstOccurrences seen names = names ∧ repeatedOccurrences seen names = [] := by
  induction names generalizing seen with
  | nil => exact ⟨rfl, rfl⟩
  | cons head rest ih =>
    obtain ⟨alone, nodup⟩ := List.nodup_cons.mp nodup
    have new : head ∉ seen := fresh head List.mem_cons_self
    have fresh' : ∀ name ∈ rest, name ∉ head :: seen := by
      intro name member
      have other : name ≠ head := fun same => alone (same ▸ member)
      simp [other, fresh name (List.mem_cons_of_mem _ member)]
    simp [firstOccurrences, repeatedOccurrences, new, ih nodup fresh']

private theorem keepsFirst (names : List Ifname) :
    KeepsFirst names (firstOccurrences [] names) (repeatedOccurrences [] names) where
  nodup := firstOccurrences_nodup [] names
  sublist := firstOccurrences_sublist [] names
  members name := by simp [mem_firstOccurrences]
  order first second := firstOccurrences_order names List.not_mem_nil List.not_mem_nil
  first := (occurrences_places [] fun _ => Iff.rfl).1
  repeated := (occurrences_places [] fun _ => Iff.rfl).2
  unrepeated nodup := repeatedOccurrences_nodup nodup fun _ _ => List.not_mem_nil

def warnings (events : List Event) : List Event :=
  events.filter (·.level = .warn)

theorem warnings_joinEvents (names : List String) (payload : Payload) :
    warnings (joinEvents names payload) = (repeatedOccurrences [] names).map .repeatedName := by
  have shown : ((repeatedOccurrences [] names).map Event.repeatedName).filter (·.level = .warn) =
      (repeatedOccurrences [] names).map .repeatedName :=
    List.filter_eq_self.mpr (by simp [Event.level])
  have quiet : (payload.nullNames.map Event.nullEntry).filter (·.level = .warn) = [] :=
    List.filter_eq_nil_iff.mpr (by simp [Event.level])
  rw [warnings, joinEvents, List.filter_append, List.filter_append, shown, quiet, List.append_nil]
  exact List.append_nil _

def Fetch.reply? {α : Type} : Fetch α → Option (Except ApiError α)
  | .waiting => none
  | .arrived reply => some reply
  | .taken value => some (.ok value)

private theorem Fetch.reply?_supply {α : Type} {fetch : Fetch α} {reply told : Except ApiError α}
    (supplied : (fetch.supply reply).reply? = some told) :
    fetch.reply? = some told ∨ told = reply := by
  cases fetch with
  | waiting | arrived => exact .inr (Option.some.inj supplied).symm
  | taken value => exact .inl supplied

theorem Fetch.reply?_look {α : Type} {fetch next : Fetch α} (looked : fetch.look = .ok next) :
    next.reply? = fetch.reply? := by
  cases fetch with
  | waiting | taken => cases looked; rfl
  | arrived reply =>
    cases reply with
    | ok value => cases looked; rfl
    | error error => cases looked

namespace Fetches

variable {first : Resource} {fetches : Fetches}

theorem lookFrom_ok {progress : Progress} (looked : lookFrom first fetches = .ok progress) :
    ∃ names config, fetches.names.look = .ok names ∧ fetches.config.look = .ok config ∧
      progress = join ⟨names, config⟩ := by
  cases named : fetches.names.look with
  | error error =>
    cases configured : fetches.config.look <;> cases first <;>
      simp [lookFrom, lookNames, lookConfig, named, configured, Except.mapError, Bind.bind,
        Except.bind] at looked
  | ok names =>
    cases configured : fetches.config.look with
    | error error =>
      cases first <;>
        simp [lookFrom, lookNames, lookConfig, named, configured, Except.mapError, Bind.bind,
          Except.bind] at looked
    | ok config =>
      have found : lookFrom first fetches = .ok (join ⟨names, config⟩) := by
        cases first <;>
          simp [lookFrom, lookNames, lookConfig, named, configured, Except.mapError, Bind.bind,
            Except.bind, Pure.pure, Except.pure]
      exact ⟨names, config, rfl, rfl, Except.ok.inj (looked.symm.trans found)⟩

private theorem reply?_pending {waiting : Fetches}
    (looked : lookFrom first fetches = .ok (.pending waiting)) :
    waiting.names.reply? = fetches.names.reply? := by
  obtain ⟨names, config, named, _, joined⟩ := lookFrom_ok looked
  have kept : waiting = ⟨names, config⟩ := by
    cases names <;> cases config <;> cases joined <;> rfl
  rw [kept, Fetch.reply?_look named]

private theorem reply?_joined {names : List String} {payload : Payload}
    (looked : lookFrom first fetches = .ok (.joined names payload)) :
    fetches.names.reply? = some (.ok names) := by
  obtain ⟨found, config, named, _, joined⟩ := lookFrom_ok looked
  have taken : found = .taken names := by
    cases found <;> cases config <;> cases joined
    rfl
  rw [← Fetch.reply?_look named, taken]
  rfl

end Fetches

namespace Attempt

variable {attempt : Attempt} {store : Store} {now : Time}

/-- A look ends the attempt at once, with the store as it was, or it looks at the reads, with a
store that is not ready unless it was. -/
theorem poll_cases (attempt : Attempt) (store : Store) (now : Time) :
    (∃ result, attempt.poll store now = ⟨.ended result, store, []⟩) ∨
    ∃ guard first announced,
      (announced.snapshot.loadState = .ready → store.snapshot.loadState = .ready) ∧
      attempt.poll store now = advance guard first attempt.fetches announced now := by
  cases attempt with
  | fetching guard first fetches => exact .inr ⟨guard, first, store, id, rfl⟩
  | created fetches =>
    by_cases idle : store.snapshot.loadState.Idle
    · refine .inr ⟨.arm, .ifnames, _, fun ready => ?_, poll_idle fetches now idle⟩
      cases ready
    · rcases LoadState.ready_or_loading idle with ready | loading
      · exact .inl ⟨_, poll_ready fetches now ready⟩
      · exact .inl ⟨_, poll_loading fetches now loading⟩

private theorem reply?_poll {next : Attempt}
    (looked : (attempt.poll store now).answer = .pending next) :
    next.fetches.names.reply? = attempt.fetches.names.reply? := by
  rcases attempt.poll_cases store now with ⟨result, ended⟩ | ⟨guard, first, announced, _, polled⟩
  · rw [ended] at looked
    cases looked
  · rw [polled, advance] at looked
    split at looked
    next waiting found => cases looked; exact Fetches.reply?_pending found
    next => cases looked
    next => cases looked

private theorem finish_joined (guard : LoadGuard) (names : List String) (payload : Payload)
    (unloaded : store.snapshot.loadState ≠ .ready) :
    let loaded := (Loaded.join names payload).snapshot store.snapshot.current now
    finish guard store (.ok (names, payload)) now =
      ⟨.ended (.ok loaded), store.publishSnapshot loaded, joinEvents names payload ++
        [.loaded loaded.ifnames.length loaded.document.size]⟩ := by
  simp [finish, LoadGuard.disarm, LoadGuard.drop, Store.finishLoad,
    Store.publish_unloaded _ _ unloaded, Loaded.snapshot]

private theorem poll_loads (unloaded : store.snapshot.loadState ≠ .ready)
    (ready : (attempt.poll store now).state.snapshot.loadState = .ready) :
    ∃ names payload current, attempt.fetches.names.reply? = some (.ok names) ∧
      let loaded := (Loaded.join names payload).snapshot current now
      (attempt.poll store now).answer = .ended (.ok loaded) ∧
        (attempt.poll store now).state.snapshot = loaded ∧
        (attempt.poll store now).events = joinEvents names payload ++
          [.loaded loaded.ifnames.length loaded.document.size] := by
  rcases attempt.poll_cases store now with ⟨result, ended⟩ | ⟨guard, first, announced, was, polled⟩
  · rw [ended] at ready
    exact absurd ready unloaded
  have waits : announced.snapshot.loadState ≠ .ready := fun now => unloaded (was now)
  rw [polled, advance] at ready ⊢
  split
  next waiting found => simp only [found] at ready; exact absurd ready waits
  next names payload found =>
    rw [finish_joined guard names payload waits]
    exact ⟨names, payload, announced.snapshot.current, Fetches.reply?_joined found, rfl, rfl, rfl⟩
  next error found =>
    simp only [found, finish_state, (Store.finishLoad_error error now waits).2] at ready
    cases ready

end Attempt

namespace Session

variable {session : Session} {handle : Nat}

private theorem attempt?_update (change : Attempt → Attempt) (other : Nat) :
    (session.setAttempt handle ((session.attempt? handle).map change)).attempt? other =
      if other = handle then (session.attempt? handle).map change else session.attempt? other := by
  cases held : session.attempt? handle with
  | none => exact attempt?_setAttempt (.inr rfl) other
  | some attempt => exact attempt?_setAttempt (.inl (handle_lt held)) other

private theorem attempt?_poll {other : Nat} {now : Time} {next : Attempt}
    (held : (session.poll other now).state.attempt? handle = some next) :
    ∃ attempt, session.attempt? handle = some attempt ∧
      next.fetches.names.reply? = attempt.fetches.names.reply? := by
  cases polled : session.attempt? other with
  | none =>
    rw [poll_none polled] at held
    exact ⟨next, held, rfl⟩
  | some attempt =>
    have kept : ∀ made : Option Attempt, (session.setAttempt other made).attempt? handle =
        if handle = other then made else session.attempt? handle :=
      fun made => attempt?_setAttempt (.inl (handle_lt polled)) handle
    simp only [poll, polled] at held
    split at held
    next waiting looked =>
      have found := (kept (some waiting)).symm.trans held
      split at found
      next same =>
        cases found
        exact ⟨attempt, same ▸ polled, Attempt.reply?_poll looked⟩
      next => exact ⟨next, found, rfl⟩
    next result looked =>
      have found := (kept none).symm.trans held
      split at found
      next => cases found
      next => exact ⟨next, found, rfl⟩

private theorem attempt?_drop {other : Nat} {next : Attempt}
    (held : (session.drop other).state.attempt? handle = some next) :
    session.attempt? handle = some next := by
  cases dropped : session.attempt? other with
  | none => rwa [drop_none dropped] at held
  | some attempt =>
    rw [drop_some dropped] at held
    have found := (attempt?_setAttempt (.inr rfl) handle).symm.trans held
    split at found
    next => cases found
    next => exact found

theorem reply?_act {action : Session.Action} {next : Attempt}
    {reply : Except ApiError (List String)}
    (held : (session.act action).state.attempt? handle = some next)
    (told : next.fetches.names.reply? = some reply) :
    (∃ attempt, session.attempt? handle = some attempt ∧
      attempt.fetches.names.reply? = some reply) ∨ action = .supplyNames handle reply := by
  cases action with
  | command | subscribe => exact .inl ⟨next, held, told⟩
  | create =>
    have found := (attempt?_create .waiting handle).symm.trans held
    split at found
    next => cases found; cases told
    next => exact .inl ⟨next, found, told⟩
  | supplyNames other supplied =>
    have found := (attempt?_update _ handle).symm.trans held
    split at found
    next same =>
      subst same
      obtain ⟨attempt, before, rfl⟩ := Option.map_eq_some_iff.mp found
      rw [Attempt.fetches_supplyNames] at told
      rcases Fetch.reply?_supply told with earlier | rfl
      · exact .inl ⟨attempt, before, earlier⟩
      · exact .inr rfl
    next => exact .inl ⟨next, found, told⟩
  | supplyConfig other supplied =>
    have found := (attempt?_update _ handle).symm.trans held
    split at found
    next same =>
      subst same
      obtain ⟨attempt, before, rfl⟩ := Option.map_eq_some_iff.mp found
      rw [Attempt.fetches_supplyConfig] at told
      exact .inl ⟨attempt, before, told⟩
    next => exact .inl ⟨next, found, told⟩
  | poll other now =>
    obtain ⟨attempt, before, same⟩ := attempt?_poll held
    exact .inl ⟨attempt, before, same ▸ told⟩
  | drop other => exact .inl ⟨next, attempt?_drop held, told⟩

theorem reply?_after (actions : List Session.Action) {attempt : Attempt}
    {reply : Except ApiError (List String)}
    (held : (Session.new.after actions).attempt? handle = some attempt)
    (told : attempt.fetches.names.reply? = some reply) :
    .supplyNames handle reply ∈ actions := by
  induction actions using List.reverseRecOn generalizing attempt with
  | nil => cases held
  | append_singleton earlier action ih =>
    rw [after_append] at held
    rcases reply?_act held told with ⟨before, held, told⟩ | rfl
    · exact List.mem_append_left _ (ih held told)
    · simp

/-- A look in a run is the one that loaded the store: what it published are the names that the
attempt was told, and it warned about those that were told again. -/
structure LoadedBy (earlier : List Session.Action) (handle : Nat) (now : Time)
    (names : List String) : Prop where
  unloaded : (new.after earlier).store.snapshot.loadState ≠ .ready
  told : .supplyNames handle (.ok names) ∈ earlier
  held : ∃ attempt, (new.after earlier).attempt? handle = some attempt ∧
    attempt.fetches.names.reply? = some (.ok names)
  published : ∃ snapshot, ((new.after earlier).poll handle now).answer =
      some (.ready (.ok snapshot)) ∧
    snapshot.loadState = .ready ∧ snapshot.ifnames = firstOccurrences [] names
  warned : warnings ((new.after earlier).poll handle now).events =
    (repeatedOccurrences [] names).map .repeatedName

/-- The names of a run that has loaded its store. -/
structure Reported (actions : List Session.Action) (snapshot : Snapshot) (names : List String) :
    Prop where
  loaded : ∃ earlier handle now later, actions = earlier ++ .poll handle now :: later ∧
    LoadedBy earlier handle now names
  kept : KeepsFirst names snapshot.ifnames (repeatedOccurrences [] names)
  known : ∀ name, snapshot.reports name = true ↔ name ∈ names

private theorem poll_loads {now : Time} (unloaded : session.store.snapshot.loadState ≠ .ready)
    (ready : (session.poll handle now).state.store.snapshot.loadState = .ready) :
    ∃ attempt names payload current, session.attempt? handle = some attempt ∧
      attempt.fetches.names.reply? = some (.ok names) ∧
      let loaded := (Loaded.join names payload).snapshot current now
      (session.poll handle now).answer = some (.ready (.ok loaded)) ∧
        (session.poll handle now).state.store.snapshot = loaded ∧
        warnings (session.poll handle now).events =
          (repeatedOccurrences [] names).map .repeatedName := by
  cases held : session.attempt? handle with
  | none => rw [poll_none held] at ready; exact absurd ready unloaded
  | some attempt =>
    have store : (session.poll handle now).state.store =
        (attempt.poll session.store now).state := by
      simp only [poll, held]
      split <;> rfl
    have events : (session.poll handle now).events = (attempt.poll session.store now).events := by
      simp only [poll, held]
      split <;> rfl
    obtain ⟨names, payload, current, told, answer, state, logged⟩ :=
      Attempt.poll_loads unloaded (store ▸ ready)
    refine ⟨attempt, names, payload, current, rfl, told, (poll_ended held answer).1, ?_, ?_⟩
    · rw [store, state]
    · rw [events, logged, warnings, List.filter_append, ← warnings, warnings_joinEvents]
      exact List.append_nil _

private theorem loadedBy {earlier : List Session.Action} {now : Time}
    (unloaded : (new.after earlier).store.snapshot.loadState ≠ .ready)
    (ready : ((new.after earlier).poll handle now).state.store.snapshot.loadState = .ready) :
    ∃ names, LoadedBy earlier handle now names ∧
      ((new.after earlier).poll handle now).state.store.snapshot.ifnames =
        firstOccurrences [] names := by
  obtain ⟨attempt, names, payload, current, held, told, answer, state, warned⟩ :=
    poll_loads unloaded ready
  refine ⟨names, ⟨unloaded, reply?_after earlier held told, ⟨attempt, held, told⟩,
    ⟨_, answer, rfl, rfl⟩, warned⟩, ?_⟩
  rw [state]
  rfl

theorem act_ifnames (session : Session) (action : Session.Action)
    (ready : session.store.snapshot.loadState = .ready) :
    (session.act action).state.store.snapshot.loadState = .ready ∧
      (session.act action).state.store.snapshot.ifnames = session.store.snapshot.ifnames := by
  obtain ⟨commands, acted⟩ := session.act_commands action
  rw [acted]
  refine Store.after_keeps (fun snapshot => snapshot.loadState = .ready ∧
    snapshot.ifnames = session.store.snapshot.ifnames) ?_ _ commands ⟨ready, rfl⟩
  rintro found command answer published transition ⟨ready, same⟩
  obtain ⟨stays, kept, _⟩ := transition.ready_data ready
  exact ⟨stays, kept.trans same⟩

theorem act_loads {action : Session.Action}
    (own : ∀ command, action = .command command → ¬ command.Publishes)
    (unloaded : session.store.snapshot.loadState ≠ .ready)
    (ready : (session.act action).state.store.snapshot.loadState = .ready) :
    ∃ handle now, action = .poll handle now := by
  cases action with
  | command issued =>
    have next := (Command.next session.store issued).symm.trans ready
    rcases LoadState.next_ready.mp next with already | publishes
    · exact absurd already unloaded
    · exact absurd publishes (own issued rfl)
  | subscribe | create | supplyNames | supplyConfig => exact absurd ready unloaded
  | poll handle now => exact ⟨handle, now, rfl⟩
  | drop handle =>
    cases held : session.attempt? handle with
    | none => simp [act, drop_none held, unloaded] at ready
    | some attempt =>
      simp only [act, Outcome.map_state, drop_some held] at ready
      cases attempt with
      | created fetches => exact absurd ready unloaded
      | fetching guard first fetches =>
        simp only [Attempt.drop, LoadGuard.drop] at ready
        split at ready
        · rw [Store.recordFailure_unloaded _ unloaded] at ready
          cases ready
        · exact absurd ready unloaded

private theorem loaded_after (actions : List Session.Action)
    (own : ∀ command, .command command ∈ actions → ¬ command.Publishes)
    (ready : (new.after actions).store.snapshot.loadState = .ready) :
    ∃ earlier handle now later names, actions = earlier ++ .poll handle now :: later ∧
      LoadedBy earlier handle now names ∧
      (new.after actions).store.snapshot.ifnames = firstOccurrences [] names := by
  induction actions using List.reverseRecOn with
  | nil => cases ready
  | append_singleton before action ih =>
    rw [after_append] at ready ⊢
    by_cases already : (new.after before).store.snapshot.loadState = .ready
    · obtain ⟨earlier, handle, now, later, names, rfl, loaded, ifnames⟩ :=
        ih (fun command issued => own command (List.mem_append_left _ issued)) already
      refine ⟨earlier, handle, now, later ++ [action], names, by simp, loaded, ?_⟩
      exact (act_ifnames _ action already).2.trans ifnames
    · obtain ⟨handle, now, rfl⟩ :=
        act_loads (fun command same => own command (by simp [same])) already ready
      obtain ⟨names, loaded, ifnames⟩ := loadedBy already ready
      exact ⟨before, handle, now, [], names, rfl, loaded, ifnames⟩

/-- Of every list of names a join keeps each name where it stands first, and warns about its other
places one by one. In every run whose results come from attempts, a ready store holds what is kept
of the names that one attempt was told, and knows those names and no others. -/
theorem names_reported :
    (∀ names payload,
      KeepsFirst names (Loaded.join names payload).ifnames (repeatedOccurrences [] names) ∧
        warnings (joinEvents names payload) =
          (repeatedOccurrences [] names).map .repeatedName) ∧
    ∀ actions, (∀ command, .command command ∈ actions → ¬ command.Publishes) →
      (new.after actions).store.snapshot.loadState = .ready →
      ∃ names, Reported actions (new.after actions).store.snapshot names := by
  refine ⟨fun names payload => ⟨keepsFirst names, warnings_joinEvents names payload⟩, ?_⟩
  intro actions own ready
  obtain ⟨earlier, handle, now, later, names, split, loaded, ifnames⟩ :=
    loaded_after actions own ready
  refine ⟨names, ⟨earlier, handle, now, later, split, loaded⟩, ?_, fun name => ?_⟩
  · rw [ifnames]
    exact keepsFirst names
  · rw [Snapshot.reports, ifnames, List.contains_iff_mem, (keepsFirst names).members]

/-- A host that repeats a name, told between a look and a selection. -/
def repeatingRun : List Session.Action :=
  [.create, .poll 0 1, .supplyNames 0 (.ok ["eth1", "eth0", "eth1", "lo"]),
    .command (.select "eth7"), .supplyConfig 0 (.ok (.wrapped .empty)), .poll 0 2, .poll 0 3]

theorem repeatingRun_reported :
    (∀ command, .command command ∈ repeatingRun → ¬ command.Publishes) ∧
      (new.after repeatingRun).store.snapshot.loadState = .ready ∧
      (∃ names, Reported repeatingRun (new.after repeatingRun).store.snapshot names) ∧
      (new.after repeatingRun).store.snapshot.ifnames = ["eth1", "eth0", "lo"] ∧
      (new.after repeatingRun).store.snapshot.reports "eth7" = false := by
  have own : ∀ command, .command command ∈ repeatingRun → ¬ command.Publishes := by
    simp [repeatingRun, Command.Publishes]
  exact ⟨own, rfl, names_reported.2 repeatingRun own rfl, rfl, rfl⟩

end Session

end InterfaceSync
