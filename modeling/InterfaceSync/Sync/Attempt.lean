import InterfaceSync.Sync.Store
import InterfaceSync.Wire.Client

/-! Attempts to load. An attempt is made long before it ends: it is created, it starts when it is
first looked at, it waits for the names and the entries, and it ends with both of them, with the
first failure, or by being dropped. -/

namespace InterfaceSync

/-- One of the two reads of an attempt. What has been taken up cannot be replaced any more. -/
inductive Fetch (α : Type)
  | waiting
  | arrived (reply : Except ApiError α)
  | taken (value : α)

namespace Fetch

variable {α : Type}

/-- A reply comes in, in place of one that was not taken up yet. -/
def supply (fetch : Fetch α) (reply : Except ApiError α) : Fetch α :=
  match fetch with
  | .taken value => .taken value
  | _ => .arrived reply

/-- Takes up the reply, if there is one, unless it is an error. -/
def look : Fetch α → Except ApiError (Fetch α)
  | .arrived (.ok value) => .ok (.taken value)
  | .arrived (.error error) => .error error
  | fetch => .ok fetch

end Fetch

structure Fetches where
  names : Fetch (List String)
  config : Fetch Payload

namespace Fetches

def waiting : Fetches := ⟨.waiting, .waiting⟩

/-- How far the reads have come: not far enough, or to both results. -/
inductive Progress
  | pending (fetches : Fetches)
  | joined (names : List String) (payload : Payload)

def failedRead (resource : Resource) (error : ApiError) : SyncError :=
  .loadFailed resource.name (.ofApi error)

def lookNames (fetches : Fetches) : Except SyncError (Fetch (List String)) :=
  fetches.names.look.mapError (failedRead .ifnames)

def lookConfig (fetches : Fetches) : Except SyncError (Fetch Payload) :=
  fetches.config.look.mapError (failedRead .config)

def join : Fetches → Progress
  | ⟨.taken names, .taken payload⟩ => .joined names payload
  | fetches => .pending fetches

/-- Looks at both reads, at that of the given resource before the other. The first error ends the
attempt. -/
def lookFrom (first : Resource) (fetches : Fetches) : Except SyncError Progress :=
  match first with
  | .ifnames => do
    let names ← fetches.lookNames
    let config ← fetches.lookConfig
    return join ⟨names, config⟩
  | .config => do
    let config ← fetches.lookConfig
    let names ← fetches.lookNames
    return join ⟨names, config⟩

/-- The first look, which begins with the names. -/
def look (fetches : Fetches) : Except SyncError Progress :=
  lookFrom .ifnames fetches

end Fetches

def joinEvents (names : List String) (payload : Payload) : List Event :=
  let loaded := Loaded.join names payload
  (repeatedOccurrences [] names).map .repeatedName ++ payload.nullNames.map .nullEntry ++
    [.fetched loaded.ifnames.length loaded.document.size]

def Store.finishLoad (store : Store) (result : Except SyncError (List String × Payload))
    (now : Time) : Outcome Store (Except SyncError Snapshot) :=
  match result with
  | .ok (names, payload) =>
    let ⟨snapshot, store, events⟩ := store.publish (.join names payload) now
    ⟨.ok snapshot, store, joinEvents names payload ++ events⟩
  | .error error =>
    let ⟨_, store, events⟩ := store.recordFailure error
    ⟨.error error, store, events⟩

/-- What an attempt holds while its reads are under way, so that a load which was announced is never
forgotten. -/
structure LoadGuard where
  armed : Bool

namespace LoadGuard

def arm : LoadGuard := ⟨true⟩

/-- A guard that is given up while it is armed counts its load as failed. -/
def drop (guard : LoadGuard) (store : Store) : Outcome Store Unit :=
  if guard.armed then store.recordFailure .loadCancelled else ⟨(), store, []⟩

/-- Gives up a guard whose load came to an end by itself. -/
def disarm (guard : LoadGuard) (store : Store) : Outcome Store Unit :=
  { guard with armed := false }.drop store

end LoadGuard

/-- An attempt that has not ended. The two reads take turns in being looked at first. -/
inductive Attempt
  | created (fetches : Fetches)
  | fetching (guard : LoadGuard) (first : Resource) (fetches : Fetches)

namespace Attempt

/-- The result of a look at an attempt: the attempt as it waits on, or the end of it. -/
inductive Progress
  | pending (attempt : Attempt)
  | ended (result : Except SyncError Snapshot)

def supplyNames (reply : Except ApiError (List String)) : Attempt → Attempt
  | .created fetches => .created { fetches with names := fetches.names.supply reply }
  | .fetching guard first fetches =>
    .fetching guard first { fetches with names := fetches.names.supply reply }

def supplyConfig (reply : Except ApiError Payload) : Attempt → Attempt
  | .created fetches => .created { fetches with config := fetches.config.supply reply }
  | .fetching guard first fetches =>
    .fetching guard first { fetches with config := fetches.config.supply reply }

def finish (guard : LoadGuard) (store : Store) (result : Except SyncError (List String × Payload))
    (now : Time) : Outcome Store Progress :=
  let ⟨_, store, released⟩ := guard.disarm store
  let ⟨answer, store, events⟩ := store.finishLoad result now
  ⟨.ended answer, store, released ++ events⟩

def advance (guard : LoadGuard) (first : Resource) (fetches : Fetches) (store : Store)
    (now : Time) : Outcome Store Progress :=
  match Fetches.lookFrom first fetches with
  | .ok (.pending fetches) => ⟨.pending (.fetching guard first.other fetches), store, []⟩
  | .ok (.joined names payload) => finish guard store (.ok (names, payload)) now
  | .error error => finish guard store (.error error) now

def begins (attempt : Attempt) (store : Store) : Bool :=
  match attempt, store.startLoad.answer with
  | .created _, .ok true => true
  | _, _ => false

/-- Looks at an attempt. The first look announces the load, and ends the attempt at once if there is
nothing to load or another load is under way. -/
def poll (attempt : Attempt) (store : Store) (now : Time) : Outcome Store Progress :=
  match attempt with
  | .fetching guard first fetches => advance guard first fetches store now
  | .created fetches =>
    let ⟨answer, store, _⟩ := store.startLoad
    match answer with
    | .error error => ⟨.ended (.error error), store, []⟩
    | .ok false => ⟨.ended (.ok store.snapshot), store, []⟩
    | .ok true => advance .arm .ifnames fetches store now

/-- Gives up an attempt, and with it the guard of a load that has begun. -/
def drop (attempt : Attempt) (store : Store) : Outcome Store Unit :=
  match attempt with
  | .created _ => ⟨(), store, []⟩
  | .fetching guard _ _ => guard.drop store

end Attempt

end InterfaceSync
