import InterfaceSync.Proofs.Attempts
import InterfaceSync.Proofs.Lifecycle
import Mathlib.Data.List.Induction

/-! One attempt to load, with its two replies coming in either order between looks and commands. What
the attempt waits for depends on which replies are there, never on how they came; nothing of them
shows before the look that ends it, and that look publishes everything or a failure. -/

namespace InterfaceSync

private theorem SyncError.root_ofTransport (cause : TransportError) :
    (SyncError.ofTransport cause).root = .ofTransport cause := by
  simp only [SyncError.ofTransport]
  split
  · rfl
  · split <;> rfl

theorem SyncError.root_ofApi (error : ApiError) : (SyncError.ofApi error).root = .ofApi error := by
  cases error with
  | transport cause => exact SyncError.root_ofTransport cause
  | invalidUrl | tls | status | undecodable => rfl

theorem SyncError.status?_ofApi (error : ApiError) :
    (SyncError.ofApi error).status? = error.status? := by
  cases error with
  | transport cause =>
    cases cause with
    | body late => cases late <;> rfl
    | connect | timeout | closed | builder | status => rfl
  | invalidUrl | tls | status | undecodable => rfl

theorem LoadFailure.ofError_failedRead (resource : Resource) (error : ApiError) :
    LoadFailure.ofError (Fetches.failedRead resource error) =
      ⟨some resource.name, (SyncError.ofApi error).message, error.status?⟩ := by
  have root : (Fetches.failedRead resource error).root = .ofApi error := SyncError.root_ofApi error
  have status : (Fetches.failedRead resource error).status? = error.status? := by
    rw [← SyncError.status?_ofApi, SyncError.status?, root, SyncError.status?, SyncError.root_ofApi]
  change LoadFailure.mk (some resource.name) (Fetches.failedRead resource error).root.message
    (Fetches.failedRead resource error).status? = _
  rw [root, status]

structure Replies where
  names : Except ApiError (List String)
  config : Except ApiError Payload

namespace Replies

def FailsWith (replies : Replies) (error : ApiError) : Resource → Prop
  | .ifnames => replies.names = .error error
  | .config => replies.config = .error error

/-- The replies that are there are enough to end an attempt: one is an error, or both are there. -/
def Decided (replies : Replies) (arrived : Resource → Prop) : Prop :=
  (∃ resource error, replies.FailsWith error resource ∧ arrived resource) ∨
    ∀ resource, arrived resource

private theorem undecided {replies : Replies} {arrived : Resource → Prop} {resource : Resource}
    (missing : ¬ arrived resource)
    (unfailed : ∀ error, arrived resource.other → ¬ replies.FailsWith error resource.other) :
    ¬ replies.Decided arrived := by
  rintro (⟨failing, error, failed, there⟩ | all)
  · by_cases same : failing = resource
    · exact missing (same ▸ there)
    · have other : failing = resource.other := by
        cases resource <;> cases failing <;> simp [Resource.other] at same ⊢
      subst other
      exact unfailed error there failed
  · exact missing (all resource)

end Replies

def Fetch.Follows {α : Type} (reply : Except ApiError α) (arrived : Prop) : Fetch α → Prop
  | .waiting => ¬ arrived
  | .arrived answer => arrived ∧ reply = answer
  | .taken value => arrived ∧ reply = .ok value

inductive Fetch.Finding {α : Type} (reply : Except ApiError α) (arrived : Prop) :
    Except ApiError (Fetch α) → Prop
  | nothing (missing : ¬ arrived) : Finding reply arrived (.ok .waiting)
  | value {value : α} (there : arrived) (succeeded : reply = .ok value) :
      Finding reply arrived (.ok (.taken value))
  | error {error : ApiError} (there : arrived) (failed : reply = .error error) :
      Finding reply arrived (.error error)

namespace Fetch

variable {α : Type} {fetch : Fetch α} {reply : Except ApiError α} {arrived : Prop}

theorem Follows.look (follows : fetch.Follows reply arrived) : Finding reply arrived fetch.look := by
  cases fetch with
  | waiting => exact .nothing follows
  | taken value => exact .value follows.1 follows.2
  | arrived answer =>
    cases answer with
    | ok value => exact .value follows.1 follows.2
    | error error => exact .error follows.1 follows.2

private theorem Follows.supply (follows : fetch.Follows reply arrived) :
    (fetch.supply reply).Follows reply True := by
  cases fetch with
  | waiting | arrived => exact ⟨trivial, rfl⟩
  | taken value => exact ⟨trivial, follows.2⟩

end Fetch

structure Fetches.Follow (fetches : Fetches) (replies : Replies) (arrived : Resource → Prop) :
    Prop where
  names : fetches.names.Follows replies.names (arrived .ifnames)
  config : fetches.config.Follows replies.config (arrived .config)

inductive Fetches.Finding (replies : Replies) (arrived : Resource → Prop) :
    Except SyncError Fetches.Progress → Prop
  | pending {fetches : Fetches} (undecided : ¬ replies.Decided arrived)
      (follow : fetches.Follow replies arrived) : Finding replies arrived (.ok (.pending fetches))
  | joined {names : List String} {payload : Payload} (there : ∀ resource, arrived resource)
      (named : replies.names = .ok names) (configured : replies.config = .ok payload) :
      Finding replies arrived (.ok (.joined names payload))
  | error {resource : Resource} {error : ApiError} (there : arrived resource)
      (failed : replies.FailsWith error resource) :
      Finding replies arrived (.error (failedRead resource error))

namespace Fetches

variable {fetches : Fetches} {replies : Replies} {arrived : Resource → Prop}

private theorem Follow.lookNames (follow : fetches.Follow replies arrived) :
    ∃ found, Fetch.Finding replies.names (arrived .ifnames) found ∧
      fetches.lookNames = found.mapError (failedRead .ifnames) :=
  ⟨_, follow.names.look, rfl⟩

private theorem Follow.lookConfig (follow : fetches.Follow replies arrived) :
    ∃ found, Fetch.Finding replies.config (arrived .config) found ∧
      fetches.lookConfig = found.mapError (failedRead .config) :=
  ⟨_, follow.config.look, rfl⟩

/-- Whichever read is looked at first, a look finds an error if there is one, both results if they are
there, and nothing otherwise. -/
theorem Follow.lookFrom (follow : fetches.Follow replies arrived) (first : Resource) :
    Finding replies arrived (Fetches.lookFrom first fetches) := by
  obtain ⟨foundNames, findsNames, names_eq⟩ := follow.lookNames
  obtain ⟨foundConfig, findsConfig, config_eq⟩ := follow.lookConfig
  have failedNames : ∀ error, arrived .ifnames → replies.names = .error error →
      Finding replies arrived (.error (failedRead .ifnames error)) :=
    fun _ there failed => .error there failed
  have failedConfig : ∀ error, arrived .config → replies.config = .error error →
      Finding replies arrived (.error (failedRead .config error)) :=
    fun _ there failed => .error there failed
  simp only [Fetches.lookFrom, names_eq, config_eq]
  -- Which read comes first matters only if both have failed.
  cases findsNames with
  | error there failed =>
    cases findsConfig with
    | error there' failed' =>
      cases first with
      | ifnames => exact failedNames _ there failed
      | config => exact failedConfig _ there' failed'
    | nothing | value => cases first <;> exact failedNames _ there failed
  | nothing missing =>
    cases findsConfig with
    | error there' failed' => cases first <;> exact failedConfig _ there' failed'
    | nothing missing' =>
      have undecided : ¬ replies.Decided arrived :=
        Replies.undecided missing fun _ there => absurd there missing'
      cases first <;> exact .pending undecided ⟨missing, missing'⟩
    | value there' succeeded =>
      have undecided : ¬ replies.Decided arrived :=
        Replies.undecided missing fun _ _ failed => by cases succeeded.symm.trans failed
      cases first <;> exact .pending undecided ⟨missing, there', succeeded⟩
  | value there succeeded =>
    cases findsConfig with
    | error there' failed' => cases first <;> exact failedConfig _ there' failed'
    | nothing missing' =>
      have undecided : ¬ replies.Decided arrived :=
        Replies.undecided missing' fun _ _ failed => by cases succeeded.symm.trans failed
      cases first <;> exact .pending undecided ⟨⟨there, succeeded⟩, missing'⟩
    | value there' succeeded' =>
      have all : ∀ resource, arrived resource := by
        rintro (_ | _)
        · exact there
        · exact there'
      cases first <;> exact .joined all succeeded succeeded'

end Fetches

def Attempt.fetches : Attempt → Fetches
  | .created fetches => fetches
  | .fetching _ _ fetches => fetches

@[simp] theorem Attempt.fetches_supplyNames (reply : Except ApiError (List String))
    (attempt : Attempt) : (attempt.supplyNames reply).fetches =
      { attempt.fetches with names := attempt.fetches.names.supply reply } := by
  cases attempt <;> rfl

@[simp] theorem Attempt.fetches_supplyConfig (reply : Except ApiError Payload) (attempt : Attempt) :
    (attempt.supplyConfig reply).fetches =
      { attempt.fetches with config := attempt.fetches.config.supply reply } := by
  cases attempt <;> rfl

def Attempt.Current (store : Store) : Attempt → Prop
  | .created _ => store.snapshot.loadState.Idle
  | .fetching guard _ _ => guard = .arm ∧ store.snapshot.loadState = .loading

namespace Attempt.Current

variable {attempt : Attempt} {store : Store}

private theorem unloaded (current : attempt.Current store) : store.snapshot.loadState ≠ .ready := by
  cases attempt with
  | created fetches => exact (LoadState.idle_iff.mp current).1
  | fetching guard first fetches => simp [current.2]

private theorem announced (current : attempt.Current store) :
    store.startLoad.state.snapshot = { store.snapshot with loadState := .loading } := by
  cases attempt with
  | created fetches => rw [Store.startLoad_idle current]; rfl
  | fetching guard first fetches => rw [Store.startLoad_loading current.2, ← current.2]

private theorem poll (current : attempt.Current store) :
    ∃ first, ∀ now, attempt.poll store now =
      Attempt.advance .arm first attempt.fetches store.startLoad.state now := by
  cases attempt with
  | created fetches =>
    exact ⟨.ifnames, fun now => by rw [Attempt.poll_idle fetches now current,
      Store.startLoad_idle current]; rfl⟩
  | fetching guard first fetches =>
    obtain ⟨rfl, loading⟩ := current
    exact ⟨first, fun now => by rw [Store.startLoad_loading loading]; rfl⟩

end Attempt.Current

/-- What happens to an attempt, or to the store, while the attempt waits. -/
inductive LoadEvent
  | arrive (resource : Resource)
  | look (now : Time)
  | command (issued : Command) (own : issued.isLoading = false)

namespace LoadEvent

def action (handle : Nat) (replies : Replies) : LoadEvent → Session.Action
  | .arrive .ifnames => .supplyNames handle replies.names
  | .arrive .config => .supplyConfig handle replies.config
  | .look now => .poll handle now
  | .command issued _ => .command issued

def select (selected : Option Ifname) : LoadEvent → Option Ifname
  | .command issued _ => issued.selection?.getD selected
  | _ => selected

end LoadEvent

def Arrived (events : List LoadEvent) (resource : Resource) : Prop :=
  .arrive resource ∈ events

private theorem Fetches.follow_waiting (replies : Replies) : Fetches.waiting.Follow replies
    (Arrived []) :=
  ⟨List.not_mem_nil, List.not_mem_nil⟩

def Replies.Undecided (replies : Replies) (events : List LoadEvent) : Prop :=
  ∀ earlier now later, events = earlier ++ .look now :: later →
    ¬ replies.Decided (Arrived earlier)

/-- An attempt that waits in a session, as far along as the replies that are there let it be. -/
structure Session.Waiting (session : Session) (handle : Nat) (replies : Replies)
    (arrived : Resource → Prop) : Prop where
  consistent : session.store.snapshot.Consistent
  held : ∃ attempt, session.attempt? handle = some attempt ∧ attempt.Current session.store ∧
    attempt.fetches.Follow replies arrived

namespace Session.Waiting

variable {session : Session} {handle : Nat} {replies : Replies} {arrived : Resource → Prop}

private theorem update (waiting : session.Waiting handle replies arrived)
    (change : Attempt → Attempt) {arrived' : Resource → Prop}
    (stays : ∀ attempt, attempt.Current session.store → (change attempt).Current session.store)
    (follow : ∀ attempt, attempt.fetches.Follow replies arrived →
      (change attempt).fetches.Follow replies arrived') :
    (session.setAttempt handle ((session.attempt? handle).map change)).Waiting handle replies
      arrived' := by
  obtain ⟨attempt, held, current, follows⟩ := waiting.held
  refine ⟨waiting.consistent, change attempt, ?_, stays attempt current, follow attempt follows⟩
  rw [held, Option.map_some, attempt?_setAttempt (.inl (handle_lt held)), if_pos rfl]

private theorem arrive (waiting : session.Waiting handle replies arrived) (resource : Resource) :
    (session.act ((LoadEvent.arrive resource).action handle replies)).state.Waiting handle replies
      (fun other => arrived other ∨ other = resource) := by
  cases resource with
  | ifnames =>
    refine waiting.update (·.supplyNames replies.names) (fun attempt current => ?_)
      (fun attempt follow => ?_)
    · cases attempt <;> exact current
    · exact ⟨by simpa using follow.names.supply, by simpa using follow.config⟩
  | config =>
    refine waiting.update (·.supplyConfig replies.config) (fun attempt current => ?_)
      (fun attempt follow => ?_)
    · cases attempt <;> exact current
    · exact ⟨by simpa using follow.names, by simpa using follow.config.supply⟩

private theorem command (waiting : session.Waiting handle replies arrived) {issued : Command}
    (own : issued.isLoading = false) :
    (session.act (.command issued)).state.Waiting handle replies arrived := by
  obtain ⟨attempt, held, current, follow⟩ := waiting.held
  have state := Command.loadState_kept session.store own
  refine ⟨Store.after_consistent session.store [issued] waiting.consistent, attempt, held, ?_, follow⟩
  cases attempt with
  | created fetches => exact (congrArg LoadState.Idle state).mpr current
  | fetching guard first fetches => exact ⟨current.1, state.trans current.2⟩

theorem look (waiting : session.Waiting handle replies arrived) :
    ∃ attempt first fetches found, session.attempt? handle = some attempt ∧
      session.store.startLoad.state.snapshot =
        { session.store.snapshot with loadState := .loading } ∧
      Fetches.lookFrom first fetches = found ∧ Fetches.Finding replies arrived found ∧
      ∀ now, attempt.poll session.store now =
        Attempt.advance .arm first fetches session.store.startLoad.state now := by
  obtain ⟨attempt, held, current, follow⟩ := waiting.held
  obtain ⟨first, looked⟩ := current.poll
  exact ⟨attempt, first, attempt.fetches, _, held, current.announced, rfl, follow.lookFrom first,
    looked⟩

theorem look_pending (waiting : session.Waiting handle replies arrived)
    (undecided : ¬ replies.Decided arrived) (now : Time) :
    (session.poll handle now).answer = some .pending ∧
      (session.poll handle now).state.store = session.store.startLoad.state ∧
      (session.poll handle now).state.Waiting handle replies arrived := by
  obtain ⟨attempt, first, fetches, found, held, announced, seen, finding, looked⟩ := waiting.look
  cases finding with
  | joined there => exact absurd (.inr there) undecided
  | error there failed => exact absurd (.inl ⟨_, _, failed, there⟩) undecided
  | @pending next _ follow =>
    have looked := looked now
    rw [Attempt.advance, seen] at looked
    rw [poll_pending held looked]
    refine ⟨rfl, rfl, ?_, .fetching .arm first.other next, ?_, ?_, follow⟩
    · exact Store.after_consistent session.store [.startLoad] waiting.consistent
    · exact (attempt?_setAttempt (.inl (handle_lt held)) handle).trans (if_pos rfl)
    · exact ⟨rfl, by rw [announced]⟩

private theorem look_joined (waiting : session.Waiting handle replies arrived)
    {names : List String} {payload : Payload} (there : ∀ resource, arrived resource)
    (named : replies.names = .ok names) (configured : replies.config = .ok payload) (now : Time) :
    let loaded := (Loaded.join names payload).snapshot session.store.snapshot.current now
    (session.poll handle now).answer = some (.ready (.ok loaded)) ∧
      (session.poll handle now).state.store =
        session.store.startLoad.state.publishSnapshot loaded := by
  obtain ⟨attempt, first, fetches, found, held, announced, seen, finding, looked⟩ := waiting.look
  cases finding with
  | pending undecided => exact absurd (.inr there) undecided
  | @error resource error _ failed =>
    cases resource with
    | ifnames => cases named.symm.trans failed
    | config => cases configured.symm.trans failed
  | joined _ named' configured' =>
    cases named.symm.trans named'
    cases configured.symm.trans configured'
    have looked := looked now
    rw [Attempt.advance, seen] at looked
    have unloaded : session.store.startLoad.state.snapshot.loadState ≠ .ready := by simp [announced]
    obtain ⟨answer, state⟩ := Store.finishLoad_ok names payload now unloaded
    rw [announced] at answer state
    obtain ⟨ended, after⟩ := poll_finish held looked
    exact ⟨by rw [ended, answer], by rw [after, state]⟩

private theorem look_failed (waiting : session.Waiting handle replies arrived)
    (decided : replies.Decided arrived)
    (failing : ∃ resource error, replies.FailsWith error resource) (now : Time) :
    ∃ resource error, arrived resource ∧ replies.FailsWith error resource ∧
      (session.poll handle now).answer =
        some (.ready (.error (.loadFailed resource.name (.ofApi error)))) ∧
      (session.poll handle now).state.store = session.store.startLoad.state.publishSnapshot
        { session.store.snapshot with
          loadState := .failed
            ⟨some resource.name, (SyncError.ofApi error).message, error.status?⟩ } := by
  obtain ⟨attempt, first, fetches, found, held, announced, seen, finding, looked⟩ := waiting.look
  cases finding with
  | pending undecided => exact absurd decided undecided
  | joined _ named configured =>
    obtain ⟨resource, error, failed⟩ := failing
    cases resource with
    | ifnames => cases named.symm.trans failed
    | config => cases configured.symm.trans failed
  | @error resource error there failed =>
    have looked := looked now
    rw [Attempt.advance, seen] at looked
    have unloaded : session.store.startLoad.state.snapshot.loadState ≠ .ready := by simp [announced]
    obtain ⟨answer, state⟩ :=
      Store.finishLoad_error (Fetches.failedRead resource error) now unloaded
    rw [announced, LoadFailure.ofError_failedRead] at state
    obtain ⟨ended, after⟩ := poll_finish held looked
    exact ⟨resource, error, there, failed, by rw [ended, answer]; rfl, by rw [after, state]⟩

private theorem act (waiting : session.Waiting handle replies arrived) (event : LoadEvent)
    (undecided : ∀ now, event = .look now → ¬ replies.Decided arrived) :
    let after := (session.act (event.action handle replies)).state
    after.Waiting handle replies (fun resource => arrived resource ∨ .arrive resource = event) ∧
      after.store.snapshot.current = event.select session.store.snapshot.current := by
  cases event with
  | arrive resource =>
    refine ⟨by simpa using waiting.arrive resource, ?_⟩
    cases resource <;> rfl
  | look now =>
    obtain ⟨_, store, waits⟩ := waiting.look_pending (undecided now rfl) now
    obtain ⟨_, _, _, _, _, announced, _⟩ := waiting.look
    refine ⟨by simpa [LoadEvent.action, Session.act] using waits, ?_⟩
    simp [LoadEvent.action, Session.act, store, announced, LoadEvent.select]
  | command issued own =>
    obtain ⟨published, transition, state⟩ := issued.run_transition session.store
    refine ⟨by simpa [LoadEvent.action] using waiting.command own, ?_⟩
    simp only [LoadEvent.action, Session.act, Session.perform, Outcome.map_state, state,
      Store.publishing_snapshot, transition.current, LoadEvent.select]

end Session.Waiting

theorem Session.after_waiting {session : Session} {handle : Nat} {replies : Replies}
    (waiting : session.Waiting handle replies (Arrived [])) (events : List LoadEvent)
    (undecided : replies.Undecided events) :
    let after := session.after (events.map (·.action handle replies))
    after.Waiting handle replies (Arrived events) ∧
      after.store.snapshot.current = events.foldl LoadEvent.select session.store.snapshot.current := by
  -- From the back: what a look finds depends on all that came before it.
  induction events using List.reverseRecOn with
  | nil => exact ⟨waiting, rfl⟩
  | append_singleton earlier event ih =>
    obtain ⟨waits, current⟩ := ih fun before now later split =>
      undecided before now (later ++ [event]) (by simp [split])
    have step := waits.act event fun now look => undecided earlier now [] (by rw [look])
    have arrived : Arrived (earlier ++ [event]) =
        fun resource => Arrived earlier resource ∨ .arrive resource = event := by
      funext resource
      simp [Arrived]
    simp only [List.map_append, List.map_cons, List.map_nil, Session.after_append,
      Session.after_cons, Session.after_nil, List.foldl_append, List.foldl_cons, List.foldl_nil,
      arrived, ← current]
    exact step

/-- What an attempt that waits shows, and what the next look at it does. -/
structure AtomicLoad (waiting : Session) (handle : Nat) (replies : Replies)
    (arrived : Resource → Prop) (selected : Option Ifname) : Prop where
  /-- Nothing of a load shows before it has ended. -/
  blank : waiting.store.snapshot.ifnames = [] ∧ waiting.store.snapshot.document = .empty ∧
    waiting.store.snapshot.loadedAt = none ∧ waiting.store.snapshot.current = selected
  /-- The load is announced by the first look. -/
  announced : waiting.store.startLoad.state.snapshot =
    { waiting.store.snapshot with loadState := .loading }
  /-- A look that finds no error and not both results does nothing more. -/
  pending : ∀ now, ¬ replies.Decided arrived →
    (waiting.poll handle now).answer = some .pending ∧
      (waiting.poll handle now).state.store = waiting.store.startLoad.state
  /-- A look that finds both results publishes both of them at once. -/
  published : ∀ names payload now, (∀ resource, arrived resource) →
    replies.names = .ok names → replies.config = .ok payload →
    let final : Snapshot := ⟨.ready, firstOccurrences [] names, payload.document, selected, some now⟩
    (waiting.poll handle now).answer = some (.ready (.ok final)) ∧
      (waiting.poll handle now).state.store = waiting.store.startLoad.state.publishSnapshot final
  /-- A look that finds an error publishes nothing but a failure, which is one that is there. -/
  failed : ∀ now, replies.Decided arrived → (∃ resource error, replies.FailsWith error resource) →
    ∃ resource error, arrived resource ∧ replies.FailsWith error resource ∧
      (waiting.poll handle now).answer =
        some (.ready (.error (.loadFailed resource.name (.ofApi error)))) ∧
      (waiting.poll handle now).state.store = waiting.store.startLoad.state.publishSnapshot
        { waiting.store.snapshot with
          loadState := .failed
            ⟨some resource.name, (SyncError.ofApi error).message, error.status?⟩ }

theorem Session.Waiting.atomic {session : Session} {handle : Nat} {replies : Replies}
    {arrived : Resource → Prop} (waiting : session.Waiting handle replies arrived) :
    AtomicLoad session handle replies arrived session.store.snapshot.current := by
  obtain ⟨_, _, _, _, _, announced, _⟩ := waiting.look
  have unloaded : session.store.snapshot.loadState ≠ .ready := by
    obtain ⟨_, _, current, _⟩ := waiting.held
    exact current.unloaded
  obtain ⟨ifnames, document⟩ := waiting.consistent.blank unloaded
  have undated : session.store.snapshot.loadedAt = none := by
    simpa using fun dated => unloaded (waiting.consistent.dated.mp dated)
  refine ⟨⟨ifnames, document, undated, rfl⟩, announced, fun now undecided => ?_, ?_, ?_⟩
  · obtain ⟨answer, store, _⟩ := waiting.look_pending undecided now
    exact ⟨answer, store⟩
  · exact fun names payload now there named configured =>
      waiting.look_joined there named configured now
  · exact fun now decided failing => waiting.look_failed decided failing now

theorem Session.waiting_after {prior : List Session.Action} {handle : Nat} {replies : Replies}
    {events : List LoadEvent}
    (made : (Session.new.after prior).attempt? handle = some (.created .waiting))
    (idle : (Session.new.after prior).store.snapshot.loadState.Idle)
    (undecided : replies.Undecided events) :
    let start := Session.new.after prior
    let waiting := start.after (events.map (·.action handle replies))
    waiting.Waiting handle replies (Arrived events) ∧
      waiting.store.snapshot.current =
        events.foldl LoadEvent.select start.store.snapshot.current := by
  intro start
  obtain ⟨commands, reached⟩ := Session.new.after_commands prior
  have consistent : start.store.snapshot.Consistent := by
    rw [reached]
    exact Store.after_consistent _ _ Snapshot.consistent_initial
  have waiting : start.Waiting handle replies (Arrived []) :=
    ⟨consistent, _, made, idle, Fetches.follow_waiting replies⟩
  exact Session.after_waiting waiting events undecided

/-- Two replies come in in any order, between looks at the attempt and commands. Until a look finds an
error or both results, the attempt waits and nothing shows; that look then decides the load, by what
the replies are and what is selected, and by nothing else. -/
theorem Session.load_atomic (prior : List Session.Action) (handle : Nat) (replies : Replies)
    (events : List LoadEvent)
    (made : (Session.new.after prior).attempt? handle = some (.created .waiting))
    (idle : (Session.new.after prior).store.snapshot.loadState.Idle)
    (undecided : replies.Undecided events) :
    let start := Session.new.after prior
    AtomicLoad (start.after (events.map (·.action handle replies))) handle replies (Arrived events)
      (events.foldl LoadEvent.select start.store.snapshot.current) := by
  intro start
  obtain ⟨waits, current⟩ := Session.waiting_after made idle undecided
  rw [← current]
  exact waits.atomic

/-- The configuration comes before the names, with looks and a selection in between. -/
def LoadEvent.interleaved : List LoadEvent :=
  [.arrive .config, .look 1, .command (.select "eth1") rfl, .look 2, .arrive .ifnames]

def Replies.repeating : Replies := ⟨.ok ["eth0", "eth1", "eth0"], .ok (.wrapped .empty)⟩

theorem Session.interleaved_atomic :
    let start := Session.new.after [.create]
    let waiting := start.after (LoadEvent.interleaved.map (·.action 0 Replies.repeating))
    start.attempt? 0 = some (.created .waiting) ∧ start.store.snapshot.loadState.Idle ∧
      Replies.repeating.Undecided LoadEvent.interleaved ∧
      AtomicLoad waiting 0 Replies.repeating (Arrived LoadEvent.interleaved) (some "eth1") ∧
      (waiting.poll 0 3).answer =
        some (.ready (.ok ⟨.ready, ["eth0", "eth1"], .empty, some "eth1", some 3⟩)) := by
  intro start waiting
  have idle : start.store.snapshot.loadState.Idle := .inl rfl
  have undecided : Replies.repeating.Undecided LoadEvent.interleaved := by
    rintro earlier now later split (⟨resource, error, failed, _⟩ | all)
    · cases resource <;> cases failed
    · have named : LoadEvent.arrive .ifnames ∈ earlier := all .ifnames
      obtain ⟨before, between, rfl⟩ := List.append_of_mem named
      simp [LoadEvent.interleaved, List.cons_eq_append_iff] at split
  have atomic := Session.load_atomic [.create] 0 Replies.repeating LoadEvent.interleaved rfl idle
    undecided
  refine ⟨rfl, idle, undecided, atomic, ?_⟩
  have there : ∀ resource, Arrived LoadEvent.interleaved resource := by
    rintro (_ | _) <;> simp [Arrived, LoadEvent.interleaved]
  exact (atomic.published _ _ 3 there rfl rfl).1

end InterfaceSync
