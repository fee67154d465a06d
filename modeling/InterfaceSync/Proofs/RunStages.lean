import InterfaceSync.Proofs.AtomicLoad
import InterfaceSync.Proofs.MachineRuns

/-! The stages of a run that needs the API: settings, profile, base, client, the value of an edit,
the load, and the name. The first stage that fails decides how the run ends, and what a run leaves
of the machine is what its stages up to that one do. -/

namespace InterfaceSync.Cli

/-- How a run ends: at the first of its stages that fails, or with an answer. -/
inductive Ending
  | noSettings (error : SettingsError)
  | noProfile (error : SettingsError)
  | badBase (error : SettingsError)
  | unconnected (error : ApiError)
  | unreadable (client : Client) (error : FileError)
  | notJson (client : Client)
  | unloaded (client : Client) (error : SyncError)
  | unreported (client : Client) (ifname : Ifname)
  | answered (client : Client) (inquiry : Inquiry) (snapshot : Snapshot)

namespace Ending

def failure? : Ending → Option Failure
  | .noSettings error => some (.ofSettings error)
  | .noProfile error => some (.ofSettings error)
  | .badBase error => some (.ofSettings error)
  | .unconnected error => some (.ofSync (.ofApi error))
  | .unreadable _ error => some (.file error)
  | .notJson _ => some (.notJson "expected a JSON value")
  | .unloaded _ error => some (.ofSync error)
  | .unreported _ ifname => some (.notFound ifname)
  | .answered _ _ _ => none

def result (ending : Ending) : Except Failure Unit :=
  match ending.failure? with
  | some failure => .error failure
  | none => .ok ()

def exitStatus : Ending → Nat
  | .noSettings _ => 1
  | .noProfile _ => 2
  | .badBase _ => 2
  | .unconnected _ => 7
  | .unreadable _ _ => 1
  | .notJson _ => 2
  | .unloaded _ error => if error.root = .timeout then 8 else 7
  | .unreported _ _ => 4
  | .answered _ _ _ => 0

def loads : Ending → Bool
  | .unloaded _ _ => true
  | .unreported _ _ => true
  | .answered _ _ _ => true
  | _ => false

end Ending

end InterfaceSync.Cli

namespace InterfaceSync

def Document.edited (document : Document) (ifname : Ifname) (config : InterfaceConfig) : Document :=
  if (document.get? ifname).any (·.same config) then document
  else document.withConfig ifname config

theorem Store.select_snapshot (store : Store) (ifname : Ifname) :
    (store.select ifname).state.snapshot = { store.snapshot with current := some ifname } := by
  rw [Store.select]
  split
  next same => rw [← same]
  next => rfl

/-- An edit is never refused once its interface has been selected in a store that is ready. -/
theorem Store.applyTo_selected {store : Store} (ready : store.snapshot.loadState = .ready)
    (ifname : Ifname) (edited : InterfaceConfig) :
    ((store.select ifname).state.applyTo ifname edited).answer =
      .ok (store.snapshot.document.edited ifname edited) := by
  have selected := store.select_snapshot ifname
  generalize (store.select ifname).state = after at selected
  have meant : Meant (some ifname) ifname := fun _ same => (Option.some.inj same).symm
  have ready' : after.snapshot.loadState = .ready := by rw [selected]; exact ready
  have current : after.snapshot.current = some ifname := by rw [selected]
  have document : after.snapshot.document = store.snapshot.document := by rw [selected]
  rw [← document, Document.edited]
  cases stored : after.snapshot.document.get? ifname with
  | none =>
    have different : ∀ config, after.snapshot.document.get? ifname = some config →
        config.same edited = false := by simp [stored]
    exact (Store.fileEdit_changed ready' current meant different).1
  | some config =>
    by_cases same : config.same edited = true
    · rw [Store.applyTo, Store.fileEdit_unchanged ready' current meant stored same]
      simp [same]
    · have different : ∀ other, after.snapshot.document.get? ifname = some other →
          other.same edited = false := by simpa [stored] using same
      rw [Store.applyTo, (Store.fileEdit_changed ready' current meant different).1]
      simp [same]

end InterfaceSync

namespace InterfaceSync.Cli

/-- The name that has to be reported for an inquiry to be answered. -/
def Inquiry.ifname? : Inquiry → Option Ifname
  | .list => none
  | .view ifname => ifname
  | .edit ifname _ => some ifname

/-- What is found in a snapshot that reports the name of the inquiry. -/
def Inquiry.found (snapshot : Snapshot) : Inquiry → Finding
  | .list => .summaries (summarize snapshot)
  | .view none => .document snapshot.document
  | .view (some ifname) => .config ((snapshot.document.get? ifname).getD .empty)
  | .edit ifname edited => .document (snapshot.document.edited ifname edited)

private theorem onKnown_unreported {store : Store} {ifname : Ifname}
    (unreported : store.snapshot.reports ifname = false)
    (next : Store → Outcome Store (Except Failure Finding)) :
    onKnown store ifname next = ⟨.error (.notFound ifname), store, []⟩ := by
  simp [onKnown, unreported]

private theorem onKnown_reported {store : Store} {ifname : Ifname}
    (reported : store.snapshot.reports ifname = true)
    (next : Store → Outcome Store (Except Failure Finding)) :
    (onKnown store ifname next).answer = (next (store.select ifname).state).answer := by
  simp [onKnown, reported]

private theorem Inquiry.run_unreported {store : Store} {inquiry : Inquiry} {ifname : Ifname}
    (names : inquiry.ifname? = some ifname) (unreported : store.snapshot.reports ifname = false) :
    inquiry.run store = ⟨.error (.notFound ifname), store, []⟩ := by
  cases inquiry with
  | list => cases names
  | view name =>
    cases names
    rw [Inquiry.run, onKnown_unreported unreported]
  | edit name edited =>
    cases names
    rw [Inquiry.run, onKnown_unreported unreported]

private theorem Inquiry.run_reported {store : Store} (ready : store.snapshot.loadState = .ready)
    {inquiry : Inquiry}
    (reported : ∀ ifname ∈ inquiry.ifname?, store.snapshot.reports ifname = true) :
    (inquiry.run store).answer = .ok (inquiry.found store.snapshot) := by
  cases inquiry with
  | list => rfl
  | view name =>
    cases name with
    | none => rfl
    | some ifname =>
      rw [Inquiry.run, onKnown_reported (reported ifname rfl), store.select_snapshot]
      rfl
  | edit ifname edited =>
    rw [Inquiry.run, onKnown_reported (reported ifname rfl), Outcome.map_answer,
      Store.applyTo_selected ready]
    rfl

namespace Machine

variable (machine : Machine) (client : Client)

def fetched : Except SyncError (List String × Payload) :=
  (client.readBoth (m := Id) machine.network).1

theorem fetched_eq :
    machine.fetched client = do
      let names ← ((client.reply machine.network .ifnames).result.bind
        Client.decodeNames).mapError (Fetches.failedRead .ifnames)
      let payload ← ((client.reply machine.network .config).result.bind
        Client.decodePayload).mapError (Fetches.failedRead .config)
      return (names, payload) := by
  have reply (resource : Resource) :
      client.get (m := Id) machine.network resource = client.reply machine.network resource := rfl
  unfold fetched Client.readBoth
  simp only [reply]
  obtain ⟨requested, result, atOnce⟩ := client.reply machine.network .ifnames
  cases result with
  | ok body => rfl
  | error cause => cases atOnce <;> rfl

def snapshotOf (loaded : List String × Payload) : Snapshot :=
  (Loaded.join loaded.1 loaded.2).snapshot none machine.clock

def begun : Store := Store.new.startLoad.state

theorem begun_unloaded : begun.snapshot.loadState ≠ .ready := by
  simp [begun, Store.startLoad, Store.new, Snapshot.initial]

theorem loading_eq :
    machine.loading client =
      let finished := begun.finishLoad (machine.fetched client) machine.clock
      ⟨finished.answer, finished.state,
        (client.readBoth (m := Id) machine.network).2 ++ finished.events⟩ := by
  have ready : Store.new.startLoad.answer = .ok true := rfl
  simp only [loading, Store.load, ready]
  rfl

theorem loading_ok {loaded : List String × Payload}
    (fetched : machine.fetched client = .ok loaded) :
    (machine.loading client).answer = .ok (machine.snapshotOf loaded) ∧
      (machine.loading client).state.snapshot = machine.snapshotOf loaded := by
  obtain ⟨answer, state⟩ := Store.finishLoad_ok loaded.1 loaded.2 machine.clock begun_unloaded
  rw [loading_eq, fetched]
  exact ⟨answer, congrArg Store.snapshot state⟩

private theorem loading_error {error : SyncError} (fetched : machine.fetched client = .error error)
    : (machine.loading client).answer = .error error := by
  rw [loading_eq, fetched]
  exact (Store.finishLoad_error error machine.clock begun_unloaded).1

variable (environment : List (String × String)) (options : Options) (command : ApiCommand)

/-- The end that a run comes to once it has a client. -/
def endingOver : Ending :=
  match machine.inquired command with
  | .error (.file error) => .unreadable client error
  | .error _ => .notJson client
  | .ok inquiry =>
    match machine.fetched client with
    | .error error => .unloaded client error
    | .ok loaded =>
      match inquiry.ifname?.filter (! (machine.snapshotOf loaded).reports ·) with
      | some ifname => .unreported client ifname
      | none => .answered client inquiry (machine.snapshotOf loaded)

/-- The end that the stages of a run lead to, each of them looked at only after the ones before. -/
def ending : Ending :=
  match settings machine machine environment with
  | .error error => .noSettings error
  | .ok settings =>
    match options.profileIn settings with
    | .error error => .noProfile error
    | .ok profile =>
      match (options.overrule profile).clientSettings settings.defaults with
      | .error error => .badBase error
      | .ok clientSettings =>
        match machine.connected clientSettings with
        | .error error => .unconnected error
        | .ok client => machine.endingOver client command

/-- The run of a command, with the machine that it leaves. -/
def running : Except Failure Unit × Machine :=
  machine.acts (run (machine.host environment) ⟨options, .api command⟩)

def contacted : Machine :=
  machine.logged [.connected client.base]

/-- The machine after a load, whether or not it succeeded. -/
def loadedOver : Machine :=
  (machine.asked (client.sentInLoad machine.network)).logged (machine.loading client).events

private theorem runs_answer (origin : Machine) (settings : ClientSettings) (inquiry : Inquiry) :
    machine.runs (answer (origin.host environment) settings client inquiry) =
      match (machine.loading client).answer with
      | .error error => (.error (.ofSync error), machine.loadedOver client)
      | .ok _ =>
        let told := inquiry.run (machine.loading client).state
        (told.answer, (machine.loadedOver client).logged told.events) := by
  have now : machine.acts (origin.host environment).now = (machine.clock, machine) := rfl
  simp only [answer, runs_bind, runs_liftM, runs_lift, now, acts_load, acts_logAll, runs_orFail]
  cases (machine.loading client).answer with
  | error error => rfl
  | ok snapshot =>
    cases (inquiry.run (machine.loading client).state).answer <;> rfl

/-- What an answer leaves of a machine: the output, and a warning behind an edit. -/
def told (inquiry : Inquiry) (snapshot : Snapshot) : Machine :=
  let shown := ((inquiry.found snapshot).render options.output)
  let printed := { machine with
    printed := machine.printed ++
      if options.quiet || shown.isEmpty then "" else shown ++ "\n" }
  match inquiry with
  | .edit _ _ =>
    { printed with
      notices := printed.notices ++
        if options.quiet then ""
        else warningLine ((machine.host environment).isColored options.color) editWarning }
  | _ => printed

def left : Ending → Machine
  | .noSettings _ => machine
  | .noProfile _ => machine
  | .badBase _ => machine
  | .unconnected _ => machine
  | .unreadable client _ => machine.contacted client
  | .notJson client => machine.contacted client
  | .unloaded client _ => (machine.contacted client).loadedOver client
  | .unreported client _ => (machine.contacted client).loadedOver client
  | .answered client inquiry snapshot =>
    told (((machine.contacted client).loadedOver client).logged
      (inquiry.run (machine.loading client).state).events) environment options inquiry snapshot

/-- What a run does once it has a client. -/
def proceed (host : Host (StateM Machine)) (settings : ClientSettings) (client : Client) :
    Program Unit := do
  let inquiry ← inquiry host command
  let finding ← answer host settings client inquiry
  host.printUnlessEmpty options (finding.render options.output)
  match inquiry with
  | .edit _ _ =>
    host.notifyUnlessQuiet options (warningLine (host.isColored options.color) editWarning)
  | _ => return

theorem runApi_eq (host : Host (StateM Machine)) :
    runApi host options command =
      resolve host options >>= fun settings =>
        connect host settings >>= proceed options command host settings := rfl

theorem inquired_error {failure : Failure} (failed : machine.inquired command = .error failure) :
    (∃ error, failure = .file error) ∨ failure = .notJson "expected a JSON value" := by
  cases command with
  | list => cases failed
  | view ifname => cases failed
  | edit ifname value =>
    simp only [inquired, given] at failed
    cases read : machine.valueText value with
    | error error =>
      rw [read] at failed
      cases failed
      exact .inl ⟨error, rfl⟩
    | ok text =>
      simp only [read, Except.mapError, Except.bind, configOf] at failed
      cases parsed : Json.parse? text with
      | none =>
        rw [parsed] at failed
        cases failed
        exact .inr rfl
      | some json =>
        rw [parsed] at failed
        cases failed

private theorem runs_told (origin : Machine) (inquiry : Inquiry) (snapshot : Snapshot) :
    machine.runs (do
      (origin.host environment).printUnlessEmpty options
        ((inquiry.found snapshot).render options.output)
      match inquiry with
      | .edit _ _ =>
        (origin.host environment).notifyUnlessQuiet options
          (warningLine ((origin.host environment).isColored options.color) editWarning)
      | _ => return) = (.ok (), machine.told environment options inquiry snapshot) := by
  simp only [runs_bind, runs_liftM, acts_printUnlessEmpty]
  cases inquiry with
  | list => rfl
  | view ifname => rfl
  | edit ifname edited =>
    simp only [runs_liftM, acts_notifyUnlessQuiet]
    rfl

private theorem contacted_inquired :
    (machine.contacted client).inquired command = machine.inquired command := by
  cases command <;> rfl

theorem contacted_loading :
    (machine.contacted client).loading client = machine.loading client := rfl

private theorem runs_proceed (settings : ClientSettings) :
    (machine.contacted client).runs
        (proceed options command (machine.host environment) settings client) =
      ((machine.endingOver client command).result,
        machine.left environment options (machine.endingOver client command)) := by
  simp only [proceed, runs_bind, runs_inquiry, contacted_inquired, endingOver]
  cases asked : machine.inquired command with
  | error failure =>
    rcases machine.inquired_error command asked with ⟨error, rfl⟩ | rfl <;> rfl
  | ok inquiry =>
    simp only [runs_answer, contacted_loading]
    cases fetched : machine.fetched client with
    | error error =>
      rw [machine.loading_error client fetched]
      rfl
    | ok loaded =>
      obtain ⟨answer, snapshot⟩ := machine.loading_ok client fetched
      have ready : (machine.loading client).state.snapshot.loadState = .ready := by
        rw [snapshot]
        rfl
      rw [answer]
      dsimp only
      cases unknown : inquiry.ifname?.filter (! (machine.snapshotOf loaded).reports ·) with
      | some ifname =>
        obtain ⟨names, unreported⟩ := Option.filter_eq_some_iff.mp unknown
        have refused := Inquiry.run_unreported names
          (show (machine.loading client).state.snapshot.reports ifname = false by
            rw [snapshot]
            simpa using unreported)
        simp only [refused]
        simp [logged, left, Ending.result, Ending.failure?]
      | none =>
        have reported : ∀ ifname ∈ inquiry.ifname?,
            (machine.loading client).state.snapshot.reports ifname = true := by
          rw [snapshot]
          simpa using Option.filter_eq_none_iff.mp unknown
        have found := Inquiry.run_reported ready reported
        rw [snapshot] at found
        rw [found]
        exact runs_told _ environment options machine inquiry (machine.snapshotOf loaded)

theorem clientSettings_eq (settings : Settings) :
    options.clientSettings settings =
      match options.profileIn settings with
      | .error error => .error error
      | .ok profile => (options.overrule profile).clientSettings settings.defaults := by
  unfold Options.clientSettings
  cases options.profileIn settings <;> rfl

theorem running_eq :
    machine.running environment options command =
      ((machine.ending environment options command).result,
        machine.left environment options (machine.ending environment options command)) := by
  have program : machine.running environment options command =
      machine.runs (runApi (machine.host environment) options command) := rfl
  rw [program, runApi_eq, runs_bind, runs_resolve]
  unfold ending
  cases settings machine machine environment with
  | error error => rfl
  | ok settings =>
    simp only [Except.bind, clientSettings_eq]
    cases options.profileIn settings with
    | error error => rfl
    | ok profile =>
      dsimp only
      cases (options.overrule profile).clientSettings settings.defaults with
      | error error => rfl
      | ok clientSettings =>
        simp only [Except.mapError, runs_bind, runs_connect]
        cases machine.connected clientSettings with
        | error error => rfl
        | ok client =>
          exact machine.runs_proceed client environment options command clientSettings

end Machine

theorem fetched_error {machine : Machine} {client : Client} {error : SyncError}
    (failed : machine.fetched client = .error error) :
    ∃ resource cause, error = Fetches.failedRead resource cause := by
  rw [Machine.fetched_eq] at failed
  generalize (client.reply machine.network .ifnames).result.bind Client.decodeNames = names
    at failed
  generalize (client.reply machine.network .config).result.bind Client.decodePayload = config
    at failed
  cases names with
  | error cause =>
    cases failed
    exact ⟨_, _, rfl⟩
  | ok names =>
    cases config with
    | error cause =>
      cases failed
      exact ⟨_, _, rfl⟩
    | ok payload => cases failed

def exitStatus : Except Failure Unit → Nat
  | .ok _ => 0
  | .error failure => failure.exitCode

namespace Machine

variable (machine : Machine) (environment : List (String × String)) (options : Options)
  (command : ApiCommand)

end Machine

end InterfaceSync.Cli
