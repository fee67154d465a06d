import InterfaceSync.Sync.Attempt
import InterfaceSync.Sync.Subscription

/-! Sessions: a store together with the attempts to load it. Attempts have handles, and their looks,
replies and ends may come in any order between the commands. -/

namespace InterfaceSync

structure Session where
  store : Store
  /-- Every attempt that was ever made, by its handle; those that have ended are gone. -/
  attempts : List (Option Attempt)
  /-- How many loads have begun; each of them asks for the names once. -/
  begun : Nat
deriving Inhabited

namespace Session

def new : Session := ⟨.new, [], 0⟩

def attempt? (session : Session) (handle : Nat) : Option Attempt :=
  (session.attempts[handle]?).join

/-- Makes an attempt without looking at it. Its handle is the number of earlier ones. -/
def create (session : Session) (fetches : Fetches) : Session :=
  { session with attempts := session.attempts ++ [some (.created fetches)] }

def nextHandle (session : Session) : Nat :=
  session.attempts.length

def setAttempt (session : Session) (handle : Nat) (attempt : Option Attempt) : Session :=
  { session with attempts := session.attempts.set handle attempt }

def supplyNames (session : Session) (handle : Nat) (reply : Except ApiError (List String)) :
    Session :=
  session.setAttempt handle ((session.attempt? handle).map (·.supplyNames reply))

def supplyConfig (session : Session) (handle : Nat) (reply : Except ApiError Payload) : Session :=
  session.setAttempt handle ((session.attempt? handle).map (·.supplyConfig reply))

/-- Looks at an attempt; `none` if there is none of that handle. -/
def poll (session : Session) (handle : Nat) (now : Time) :
    Outcome Session (Option (Poll (Except SyncError Snapshot))) :=
  match session.attempt? handle with
  | none => ⟨none, session, []⟩
  | some attempt =>
    let ⟨progress, store, events⟩ := attempt.poll session.store now
    let begun := session.begun + if attempt.begins session.store then 1 else 0
    match progress with
    | .pending attempt =>
      ⟨some .pending, { session.setAttempt handle (some attempt) with store, begun }, events⟩
    | .ended result =>
      ⟨some (.ready result), { session.setAttempt handle none with store, begun }, events⟩

/-- Gives up an attempt. The answer is whether there was one. -/
def drop (session : Session) (handle : Nat) : Outcome Session Bool :=
  match session.attempt? handle with
  | none => ⟨false, session, []⟩
  | some attempt =>
    let ⟨_, store, events⟩ := attempt.drop session.store
    ⟨true, { session.setAttempt handle none with store }, events⟩

def perform {α : Type} (session : Session) (command : Store → Outcome Store α) :
    Outcome Session α :=
  let ⟨answer, store, events⟩ := command session.store
  ⟨answer, { session with store }, events⟩

def subscribe (session : Session) : Outcome Session Watcher :=
  session.perform fun store => ⟨.subscribe store, store, []⟩

end Session

inductive Session.Action
  | command (command : Command)
  | subscribe
  | create
  | supplyNames (handle : Nat) (reply : Except ApiError (List String))
  | supplyConfig (handle : Nat) (reply : Except ApiError Payload)
  | poll (handle : Nat) (now : Time)
  | drop (handle : Nat)

def Session.act (session : Session) : Session.Action → Outcome Session Unit
  | .command command => (session.perform (Command.run · command)).map fun _ => ()
  | .subscribe => session.subscribe.map fun _ => ()
  | .create => ⟨(), session.create .waiting, []⟩
  | .supplyNames handle reply => ⟨(), session.supplyNames handle reply, []⟩
  | .supplyConfig handle reply => ⟨(), session.supplyConfig handle reply, []⟩
  | .poll handle now => (session.poll handle now).map fun _ => ()
  | .drop handle => (session.drop handle).map fun _ => ()

end InterfaceSync
