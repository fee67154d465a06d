import InterfaceSync.Sync.Attempt

/-! Loading over a network. Both requests are made before either answer is used, unless the first
cannot even be sent. -/

namespace InterfaceSync

/-- The results of two reads that were made one beside the other. A failure of the names that is
known at once ends the load before the entries are asked for. -/
def Client.readBoth {m : Type → Type} [Monad m] (client : Client) (fetch : Url → m Exchange) :
    m (Except SyncError (List String × Payload) × List Event) := do
  let requested (reply : Reply) := reply.requested.toList.map Event.requested
  let names ← client.get fetch .ifnames
  match names.result, names.atOnce with
  | .error error, true => return (.error (Fetches.failedRead .ifnames error), requested names)
  | _, _ =>
    let config ← client.get fetch .config
    let result : Except SyncError (List String × Payload) := do
      let names ← (names.result.bind decodeNames).mapError (Fetches.failedRead .ifnames)
      let payload ← (config.result.bind decodePayload).mapError (Fetches.failedRead .config)
      return (names, payload)
    return (result, requested names ++ requested config)

/-- Loads a store over a network, from the announcement to the end. -/
def Store.load {m : Type → Type} [Monad m] (store : Store) (client : Client)
    (fetch : Url → m Exchange) (now : Time) :
    m (Outcome Store (Except SyncError Snapshot)) := do
  let ⟨answer, store, _⟩ := store.startLoad
  match answer with
  | .error error => return ⟨.error error, store, []⟩
  | .ok false => return ⟨.ok store.snapshot, store, []⟩
  | .ok true =>
    let (result, requests) ← client.readBoth fetch
    let ⟨answer, store, events⟩ := store.finishLoad result now
    return ⟨answer, store, requests ++ events⟩

end InterfaceSync
