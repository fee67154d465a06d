import InterfaceSync.Cli.Failure
import InterfaceSync.Cli.Options
import InterfaceSync.Sync.Store

/-! What the commands that need the API do to a store that has been loaded, and what they find. -/

namespace InterfaceSync.Cli

structure Summary where
  ifname : Ifname
  configured : Bool
  /-- How many fields the stored configuration has. -/
  keys : Nat
deriving DecidableEq, Repr

def Summary.of (snapshot : Snapshot) (ifname : Ifname) : Summary :=
  let stored := snapshot.document.get? ifname
  ⟨ifname, stored.isSome, (stored.map InterfaceConfig.fieldCount).getD 0⟩

def summarize (snapshot : Snapshot) : List Summary :=
  snapshot.ifnames.map (Summary.of snapshot)

inductive Finding
  | summaries (summaries : List Summary)
  | document (document : Document)
  | config (config : InterfaceConfig)

inductive Inquiry
  | list
  | view (ifname : Option Ifname)
  | edit (ifname : Ifname) (edited : InterfaceConfig)

/-- Selects an interface that the host reported and goes on with it. -/
def onKnown (store : Store) (ifname : Ifname)
    (next : Store → Outcome Store (Except Failure Finding)) :
    Outcome Store (Except Failure Finding) :=
  if store.snapshot.reports ifname then
    let ⟨_, store, selected⟩ := store.select ifname
    let ⟨answer, store, events⟩ := next store
    ⟨answer, store, selected ++ events⟩
  else ⟨.error (.notFound ifname), store, []⟩

def Inquiry.run (store : Store) : Inquiry → Outcome Store (Except Failure Finding)
  | .list => ⟨.ok (.summaries (summarize store.snapshot)), store, []⟩
  | .view none => ⟨.ok (.document store.snapshot.document), store, []⟩
  | .view (some ifname) =>
    onKnown store ifname fun store => ⟨.ok (.config store.snapshot.resolve), store, []⟩
  | .edit ifname edited =>
    onKnown store ifname fun store =>
      (store.applyTo ifname edited).map fun answer =>
        (answer.map Finding.document).mapError Failure.ofSync

end InterfaceSync.Cli
