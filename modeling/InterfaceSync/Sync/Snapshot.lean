import InterfaceSync.Sync.Error
import InterfaceSync.Sync.Loaded

/-! One consistent view of a store: how far loading has come, what was loaded and edited, and which
interface is selected. -/

namespace InterfaceSync

structure LoadFailure where
  /-- The resource that failed, where the error names one. -/
  resource : Option String
  message : String
  status : Option Nat
deriving DecidableEq, Repr

/-- The outermost resource with the text of the innermost error. -/
def LoadFailure.ofError (error : SyncError) : LoadFailure where
  resource := match error with
    | .loadFailed resource _ => some resource
    | _ => none
  message := error.root.message
  status := error.status?

inductive LoadState
  | uninitialized
  | loading
  | ready
  | failed (failure : LoadFailure)
deriving DecidableEq, Repr, Inhabited

def LoadState.isReady : LoadState → Bool
  | .ready => true
  | _ => false

def LoadState.isFailed : LoadState → Bool
  | .failed _ => true
  | _ => false

/-- A point in time, as whoever publishes a load reads it off a clock. -/
abbrev Time := Nat

structure Snapshot where
  loadState : LoadState
  ifnames : List Ifname
  document : Document
  current : Option Ifname
  loadedAt : Option Time
deriving Inhabited

namespace Snapshot

def initial : Snapshot :=
  ⟨.uninitialized, [], .empty, none, none⟩

def isReady (snapshot : Snapshot) : Bool :=
  snapshot.loadState.isReady

def isSettled (snapshot : Snapshot) : Bool :=
  snapshot.loadState.isReady || snapshot.loadState.isFailed

def reports (snapshot : Snapshot) (ifname : Ifname) : Bool :=
  snapshot.ifnames.contains ifname

def stored? (snapshot : Snapshot) : Option InterfaceConfig :=
  snapshot.current.bind snapshot.document.get?

/-- The configuration to show: the empty one unless the selected interface has one stored. -/
def resolve (snapshot : Snapshot) : InterfaceConfig :=
  snapshot.stored?.getD .empty

def same (first second : Snapshot) : Bool :=
  first.loadState == second.loadState && first.ifnames == second.ifnames &&
    first.document.same second.document && first.current == second.current &&
    first.loadedAt == second.loadedAt

end Snapshot

end InterfaceSync
