import InterfaceSync.Sync.Event
import InterfaceSync.Sync.Snapshot

/-! The store: the snapshot that is published, and how many were published before it. A command
looks at the snapshot and either publishes a replacement or leaves everything as it is; there is
nothing in between that an observer could see. -/

namespace InterfaceSync

structure Store where
  snapshot : Snapshot
  version : Nat
deriving Inhabited

structure Outcome (σ α : Type) where
  answer : α
  state : σ
  events : List Event

namespace Outcome

variable {σ α β : Type}

def map (f : α → β) (outcome : Outcome σ α) : Outcome σ β :=
  ⟨f outcome.answer, outcome.state, outcome.events⟩

end Outcome

namespace Store

def new : Store := ⟨.initial, 0⟩

def publishSnapshot (store : Store) (snapshot : Snapshot) : Store :=
  ⟨snapshot, store.version + 1⟩

/-! Loading -/

/-- Announces a load. The answer is whether there is anything left to load. -/
def startLoad (store : Store) : Outcome Store (Except SyncError Bool) :=
  match store.snapshot.loadState with
  | .ready => ⟨.ok false, store, []⟩
  | .loading => ⟨.error .loadInProgress, store, []⟩
  | _ => ⟨.ok true, store.publishSnapshot { store.snapshot with loadState := .loading }, []⟩

/-- Publishes what was loaded. The first load to be published counts; the selection stays. -/
def publish (store : Store) (loaded : Loaded) (now : Time) : Outcome Store Snapshot :=
  if store.snapshot.isReady then ⟨store.snapshot, store, [.lateResult]⟩
  else
    let snapshot : Snapshot :=
      { loadState := .ready, ifnames := loaded.ifnames, document := loaded.document
        current := store.snapshot.current, loadedAt := some now }
    ⟨snapshot, store.publishSnapshot snapshot,
      [.loaded loaded.ifnames.length loaded.document.size]⟩

/-- Records that a load failed, unless one has succeeded. -/
def recordFailure (store : Store) (error : SyncError) : Outcome Store Unit :=
  if store.snapshot.isReady then ⟨(), store, []⟩
  else
    ⟨(), store.publishSnapshot { store.snapshot with loadState := .failed (.ofError error) },
      [.loadFailed error]⟩

/-! Selecting -/

/-- Makes an interface the current one, whether or not the host reported it. -/
def select (store : Store) (ifname : Ifname) : Outcome Store Unit :=
  if store.snapshot.current = some ifname then ⟨(), store, [.selected ifname]⟩
  else
    ⟨(), store.publishSnapshot { store.snapshot with current := some ifname }, [.selected ifname]⟩

def deselect (store : Store) : Outcome Store Unit :=
  if store.snapshot.current = none then ⟨(), store, []⟩
  else ⟨(), store.publishSnapshot { store.snapshot with current := none }, []⟩

/-! Editing -/

/-- Files a configuration under the current interface, if `expected` is none or that one. Nothing
is published if an equal configuration is stored there. -/
def fileEdit (store : Store) (expected : Option Ifname) (edited : InterfaceConfig) :
    Outcome Store (Except SyncError Document) :=
  let snapshot := store.snapshot
  if snapshot.isReady then
    match snapshot.current with
    | none => ⟨.error .noSelection, store, []⟩
    | some current =>
      match expected.filter (· != current) with
      | some expected => ⟨.error (.staleTarget expected current), store, []⟩
      | none =>
        if (snapshot.document.get? current).any (·.same edited) then
          ⟨.ok snapshot.document, store, [.editUnchanged current]⟩
        else
          let document := snapshot.document.withConfig current edited
          let unreported := if snapshot.reports current then [] else [Event.editUnreported current]
          ⟨.ok document, store.publishSnapshot { snapshot with document },
            unreported ++ [.editApplied current]⟩
  else ⟨.error .notReady, store, []⟩

def apply (store : Store) (edited : InterfaceConfig) : Outcome Store (Except SyncError Document) :=
  store.fileEdit none edited

/-- Stores a configuration for an interface, provided that it is still the current one. -/
def applyTo (store : Store) (expected : Ifname) (edited : InterfaceConfig) :
    Outcome Store (Except SyncError Document) :=
  store.fileEdit (some expected) edited

end Store

/-- The commands as values, so that whole histories can be spoken of. -/
inductive Command
  | startLoad
  | publish (loaded : Loaded) (now : Time)
  | recordFailure (error : SyncError)
  | select (ifname : Ifname)
  | deselect
  | apply (edited : InterfaceConfig)
  | applyTo (expected : Ifname) (edited : InterfaceConfig)

inductive Answer
  | done
  | began (fresh : Bool)
  | published (snapshot : Snapshot)
  | edited (document : Document)
  | refused (error : SyncError)

def Outcome.toAnswer {σ α : Type} (accepted : α → Answer)
    (outcome : Outcome σ (Except SyncError α)) : Outcome σ Answer :=
  outcome.map fun
    | .ok value => accepted value
    | .error error => .refused error

def Command.run (store : Store) : Command → Outcome Store Answer
  | .startLoad => store.startLoad.toAnswer .began
  | .publish loaded now => (store.publish loaded now).map .published
  | .recordFailure error => (store.recordFailure error).map fun _ => .done
  | .select ifname => (store.select ifname).map fun _ => .done
  | .deselect => store.deselect.map fun _ => .done
  | .apply edited => (store.apply edited).toAnswer .edited
  | .applyTo expected edited => (store.applyTo expected edited).toAnswer .edited

end InterfaceSync
