import InterfaceSync.Sync.Store

/-! Subscriptions. A subscription remembers up to which version it has seen the snapshots; several
publications between two looks are one change. A look never waits: it gives a snapshot, or says
that there is none yet or never again. -/

namespace InterfaceSync

/-- A store as its subscribers see it: when it is gone, its last snapshot stays. -/
structure Source where
  store : Store
  gone : Bool
deriving Inhabited

inductive Poll (α : Type)
  | ready (value : α)
  | pending
  | closed
deriving DecidableEq, Repr

def Source.rest (source : Source) : Poll Snapshot :=
  if source.gone then .closed else .pending

/-- A subscription that keeps the snapshot it was last given. -/
structure Watcher where
  current : Snapshot
  seen : Nat
deriving Inhabited

namespace Watcher

/-- A new subscription counts the present snapshot as seen. -/
def subscribe (store : Store) : Watcher :=
  ⟨store.snapshot, store.version⟩

def take (store : Store) : Poll Snapshot × Watcher :=
  (.ready store.snapshot, ⟨store.snapshot, store.version⟩)

def changed (watcher : Watcher) (source : Source) : Poll Snapshot × Watcher :=
  if watcher.seen = source.store.version then (source.rest, watcher) else take source.store

/-- Asks for a snapshot at which loading has ended. Looking at one where it has not counts as seeing
it, although it is not given out. -/
def settled (watcher : Watcher) (source : Source) : Poll Snapshot × Watcher :=
  if source.store.snapshot.isSettled then take source.store
  else (source.rest, { watcher with seen := source.store.version })

end Watcher

/-- A subscription that is read as a stream; it has seen nothing before its first snapshot. -/
structure SnapshotFeed where
  seen : Option Nat
deriving Inhabited

namespace SnapshotFeed

def start : SnapshotFeed := ⟨none⟩

/-- The present snapshot at first, then each one that was not seen yet. -/
def next (stream : SnapshotFeed) (source : Source) : Poll Snapshot × SnapshotFeed :=
  if stream.seen = some source.store.version then (source.rest, stream)
  else (.ready source.store.snapshot, ⟨some source.store.version⟩)

end SnapshotFeed

end InterfaceSync
