import InterfaceSync.Proofs.Edits
import InterfaceSync.Proofs.Results
import InterfaceSync.Proofs.RunStages

/-! Errors inside failed loads. An error is its root and the resources whose loads it is wrapped in,
and what the user is told goes by the root behind at most one of them. No error that a load, an edit
or a connection ends with has more. -/

namespace InterfaceSync

namespace SyncError

/-- An error wrapped in failed loads of some resources, the outermost one first. -/
def within (resources : List String) (error : SyncError) : SyncError :=
  resources.foldr .loadFailed error

/-- The resources of the failed loads around the root of an error, the outermost one first. -/
def resources : SyncError → List String
  | .loadFailed resource source => resource :: source.resources
  | _ => []

private theorem within_resources (error : SyncError) : error.root.within error.resources = error :=
    by
  induction error with
  | loadFailed resource source ih => exact congrArg (SyncError.loadFailed resource) ih
  | _ => rfl

theorem resources_root (error : SyncError) : error.root.resources = [] := by
  induction error with
  | loadFailed resource source ih => exact ih
  | _ => rfl

theorem root_bare {error : SyncError} (bare : error.resources = []) : error.root = error := by
  cases error with
  | loadFailed resource source => cases bare
  | _ => rfl

theorem resources_ofApi (cause : ApiError) : (SyncError.ofApi cause).resources = [] := by
  rw [← root_ofApi, resources_root]

private theorem resources_failedRead (resource : Resource) (cause : ApiError) :
    (Fetches.failedRead resource cause).resources = [resource.name] := by
  rw [Fetches.failedRead, resources, resources_ofApi]

end SyncError

private theorem Fetches.lookFrom_error {first : Resource} {fetches : Fetches} {error : SyncError}
    (failed : Fetches.lookFrom first fetches = .error error) :
    ∃ resource cause, error = failedRead resource cause := by
  have names : ∀ cause, fetches.lookNames = .error cause →
      ∃ resource reason, cause = failedRead resource reason := by
    intro cause failed
    obtain ⟨reason, _, same⟩ := mapError_error.mp failed
    exact ⟨.ifnames, reason, same⟩
  have config : ∀ cause, fetches.lookConfig = .error cause →
      ∃ resource reason, cause = failedRead resource reason := by
    intro cause failed
    obtain ⟨reason, _, same⟩ := mapError_error.mp failed
    exact ⟨.config, reason, same⟩
  cases first with
  | ifnames =>
    rcases bind_error.mp failed with failed | ⟨_, _, failed⟩
    · exact names error failed
    · rcases bind_error.mp failed with failed | ⟨_, _, failed⟩
      · exact config error failed
      · cases failed
  | config =>
    rcases bind_error.mp failed with failed | ⟨_, _, failed⟩
    · exact config error failed
    · rcases bind_error.mp failed with failed | ⟨_, _, failed⟩
      · exact names error failed
      · cases failed

theorem Store.finishLoad_failed {store : Store}
    {result : Except SyncError (List String × Payload)} {now : Time} {error : SyncError}
    (failed : (store.finishLoad result now).answer = .error error) : result = .error error := by
  cases result with
  | ok loaded => cases failed
  | error cause => simpa [Store.finishLoad] using failed

private theorem Attempt.advance_error {guard : LoadGuard} {first : Resource} {fetches : Fetches}
    {store : Store} {now : Time} {error : SyncError}
    (ended : (advance guard first fetches store now).answer = .ended (.error error)) :
    ∃ resource cause, error = Fetches.failedRead resource cause := by
  cases looked : Fetches.lookFrom first fetches with
  | error cause =>
    simp only [advance, looked, finish_answer, Progress.ended.injEq] at ended
    cases Store.finishLoad_failed ended
    exact Fetches.lookFrom_error looked
  | ok progress =>
    cases progress with
    | pending waiting => simp [advance, looked] at ended
    | joined names payload =>
      simp only [advance, looked, finish_answer, Progress.ended.injEq] at ended
      cases Store.finishLoad_failed ended

private theorem Attempt.poll_error {attempt : Attempt} {store : Store} {now : Time}
    {error : SyncError} (ended : (attempt.poll store now).answer = .ended (.error error)) :
    error = .loadInProgress ∨ ∃ resource cause, error = Fetches.failedRead resource cause := by
  cases attempt with
  | fetching guard first fetches => exact .inr (advance_error ended)
  | created fetches =>
    by_cases idle : store.snapshot.loadState.Idle
    · rw [poll_idle fetches now idle] at ended
      exact .inr (advance_error ended)
    · rcases LoadState.ready_or_loading idle with ready | loading
      · rw [poll_ready fetches now ready] at ended
        cases ended
      · rw [poll_loading fetches now loading] at ended
        cases ended
        exact .inl rfl

theorem Session.poll_error {session : Session} {handle : Nat} {now : Time} {error : SyncError}
    (ended : (session.poll handle now).answer = some (.ready (.error error))) :
    error = .loadInProgress ∨ ∃ resource cause, error = Fetches.failedRead resource cause := by
  cases held : session.attempt? handle with
  | none => simp [Session.poll, held] at ended
  | some attempt =>
    cases looked : (attempt.poll session.store now).answer with
    | pending waiting => simp [Session.poll, held, looked] at ended
    | ended result =>
      simp only [Session.poll, held, looked, Option.some.injEq, Poll.ready.injEq] at ended
      subst ended
      exact Attempt.poll_error looked

/-- How an error may come to a user: from a look at an attempt, an edit, a connection or a load over
a network. -/
inductive SyncError.Arises : SyncError → Prop
  | attempt {session : Session} {handle : Nat} {now : Time} {error : SyncError}
      (ended : (session.poll handle now).answer = some (.ready (.error error))) : Arises error
  | edit {store : Store} {expected : Option Ifname} {edited : InterfaceConfig} {error : SyncError}
      (refused : (store.fileEdit expected edited).answer = .error error) : Arises error
  | connection {machine : Cli.Machine} {settings : ClientSettings} {cause : ApiError}
      (failed : machine.connected settings = .error cause) : Arises (.ofApi cause)
  | load {machine : Cli.Machine} {client : Client} {error : SyncError}
      (failed : (machine.loading client).answer = .error error) : Arises error

private theorem SyncError.Arises.resources_length {error : SyncError} (arises : error.Arises) :
    error.resources.length ≤ 1 := by
  cases arises with
  | attempt ended =>
    rcases Session.poll_error ended with rfl | ⟨resource, cause, rfl⟩
    · exact Nat.zero_le 1
    · rw [resources_failedRead]
      exact Nat.le_refl 1
  | edit refused =>
    cases Store.fileEdit_error.mp refused <;> exact Nat.zero_le 1
  | connection failed =>
    rw [resources_ofApi]
    exact Nat.zero_le 1
  | @load machine client error failed =>
    rw [Cli.Machine.loading_eq] at failed
    obtain ⟨resource, cause, rfl⟩ := Cli.fetched_error (Store.finishLoad_failed failed)
    rw [resources_failedRead]
    exact Nat.le_refl 1

namespace Cli.Failure

private theorem ofSync_bare {error : SyncError} (bare : error.resources = []) :
    (ofSync error = .timeout ↔ error = .timeout) ∧
      (∀ url reason, ofSync error = .connectionFailed url reason ↔
        error = .connectionFailed url reason) ∧
      ((ofSync error).exitCode = 8 ↔ error = .timeout) ∧
      ((ofSync error).exitCode = 7 ↔ ∃ url reason, error = .connectionFailed url reason) := by
  cases error with
  | loadFailed resource source => cases bare
  | _ => simp [ofSync, exitCode]

/-- What the user is told of an error, as far as it is about the connection. The root decides if it
stands behind at most one failed load; behind more of them it is only part of a text. -/
structure Diagnosis (error : SyncError) : Prop where
  timeout : ofSync error = .timeout ↔ error.root = .timeout ∧ error.resources.length ≤ 1
  timeoutCode : (ofSync error).exitCode = 8 ↔
    error.root = .timeout ∧ error.resources.length ≤ 1
  connection : ∀ url reason, ofSync error = .connectionFailed url reason ↔
    error.root = .connectionFailed url reason ∧ error.resources.length ≤ 1
  connectionCode : (ofSync error).exitCode = 7 ↔
    (∃ url reason, error = .connectionFailed url reason) ∨
      error.resources ≠ [] ∧ ¬ (error.root = .timeout ∧ error.resources.length = 1)
  nested : 2 ≤ error.resources.length → ∃ resource source,
    error = .loadFailed resource source ∧ ofSync error = .loadFailed resource source.message

private theorem Diagnosis.bare {error : SyncError} (bare : error.resources = []) : Diagnosis error
    := by
  obtain ⟨timeout, connection, timeoutCode, connectionCode⟩ := ofSync_bare bare
  have root := SyncError.root_bare bare
  constructor <;> simp [bare, root, timeout, connection, timeoutCode, connectionCode]

theorem Diagnosis.wrapped (resource : String) (source : SyncError) :
    Diagnosis (.loadFailed resource source) := by
  cases source with
  | loadFailed inner innermost =>
    constructor <;> simp [ofSync, exitCode, SyncError.resources]
  | _ => constructor <;> simp [ofSync, exitCode, SyncError.resources, SyncError.root]

/-- An error is its root and the resources around it, in any number. What the user is told follows the
root through one of them and no further, and of an error that arises there is never more. -/
theorem diagnosed (error : SyncError) :
    error.root.within error.resources = error ∧ error.root.resources = [] ∧ Diagnosis error ∧
      (error.Arises →
        (ofSync error = .timeout ↔ error.root = .timeout) ∧
        ((ofSync error).exitCode = 8 ↔ error.root = .timeout) ∧
        ∀ url reason, ofSync error = .connectionFailed url reason ↔
          error.root = .connectionFailed url reason) := by
  have diagnosis : Diagnosis error := by
    cases error with
    | loadFailed resource source => exact .wrapped resource source
    | _ => exact .bare rfl
  refine ⟨error.within_resources, error.resources_root, diagnosis, fun arises => ?_⟩
  have shallow := arises.resources_length
  refine ⟨?_, ?_, fun url reason => ?_⟩
  · rw [diagnosis.timeout, and_iff_left shallow]
  · rw [diagnosis.timeoutCode, and_iff_left shallow]
  · rw [diagnosis.connection, and_iff_left shallow]

/-- The same cause behind one failed load and behind two. -/
theorem nestedTimeout_untold :
    let once := SyncError.timeout.within ["config"]
    let twice := SyncError.timeout.within ["ifnames", "config"]
    once.root = .timeout ∧ twice.root = .timeout ∧ ofSync once = .timeout ∧
      ofSync twice ≠ .timeout ∧ (ofSync once).exitCode = 8 ∧ (ofSync twice).exitCode = 7 := by
  decide

end Cli.Failure

end InterfaceSync
