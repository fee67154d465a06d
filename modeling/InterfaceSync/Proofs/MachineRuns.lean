import InterfaceSync.Cli.Machine
import InterfaceSync.Cli.Run

/-! Programs on a machine, step by step. A program either goes on with a value or ends with a
failure, and each of its steps is said as what it gives and what it leaves of the machine. -/

namespace InterfaceSync.Cli

abbrev Program (α : Type) := ExceptT Failure (StateM Machine) α

namespace Machine

section
variable {α β : Type} (machine : Machine)

/-- What a program gives on a machine, and the machine that it leaves. -/
def runs (program : Program α) : Except Failure α × Machine :=
  program.run.run machine

def acts (action : StateM Machine α) : α × Machine :=
  action.run machine

@[simp] theorem runs_pure (value : α) : machine.runs (pure value) = (.ok value, machine) := rfl

theorem runs_bind (program : Program α) (next : α → Program β) :
    machine.runs (program >>= next) =
      match machine.runs program with
      | (.ok value, after) => after.runs (next value)
      | (.error failure, after) => (.error failure, after) := by
  have step : machine.runs (program >>= next) =
      ExceptT.bindCont next (machine.runs program).1 (machine.runs program).2 := rfl
  rw [step]
  obtain ⟨result, after⟩ := machine.runs program
  cases result <;> rfl

@[simp] theorem runs_liftM (action : StateM Machine α) :
    machine.runs (liftM action : Program α) =
      (.ok (machine.acts action).1, (machine.acts action).2) := rfl

@[simp] theorem runs_lift (action : StateM Machine α) :
    machine.runs (ExceptT.lift action) =
      (.ok (machine.acts action).1, (machine.acts action).2) := rfl

@[simp] theorem runs_orFail {ε : Type} (restate : ε → Failure) (result : Except ε α) :
    machine.runs (orFail restate result) = (result.mapError restate, machine) := rfl

@[simp] theorem acts_pure (value : α) : machine.acts (pure value) = (value, machine) := rfl

theorem acts_bind (action : StateM Machine α) (next : α → StateM Machine β) :
    machine.acts (action >>= next) =
      (machine.acts action).2.acts (next (machine.acts action).1) := rfl

theorem acts_modifyGet (f : Machine → α × Machine) : machine.acts (modifyGet f) = f machine := rfl

end

variable (origin machine : Machine) (environment : List (String × String))

def firstText (paths : List String) : Option String :=
  paths.findSome? fun path => (machine.readFile path).toOption

def settingsText (path : String) : Option String :=
  machine.firstText ((origin.host environment).candidates path)

private theorem acts_findFile (paths : List String) :
    machine.acts ((origin.host environment).findFile paths) =
      (paths.find? machine.isFile, machine) := by
  induction paths with
  | nil => rfl
  | cons path paths ih =>
    have step : machine.acts ((origin.host environment).findFile (path :: paths)) =
        machine.acts (if machine.isFile path then pure (some path)
          else (origin.host environment).findFile paths) := rfl
    rw [step, List.find?_cons]
    cases machine.isFile path
    · exact ih
    · rfl

private theorem readFile_of_isFile {path : String} (found : machine.isFile path = true) :
    ∃ text, machine.readFile path = .ok text := by
  cases read : machine.readFile path with
  | ok text => exact ⟨text, rfl⟩
  | error error => simp [isFile, read] at found

private theorem firstText_eq (paths : List String) :
    machine.firstText paths =
      (paths.find? machine.isFile).bind fun path => (machine.readFile path).toOption := by
  induction paths with
  | nil => rfl
  | cons path paths ih =>
    rw [firstText, List.findSome?_cons, List.find?_cons]
    cases read : machine.readFile path with
    | ok text => simp [isFile, read, Except.toOption]
    | error error => simpa [isFile, read, Except.toOption, firstText] using ih

theorem acts_readOptional (path : String) :
    machine.acts ((origin.host environment).readOptional path) =
      (.ok (settingsText origin machine environment path), machine) := by
  simp only [Host.readOptional, acts_bind, acts_findFile, settingsText, firstText_eq]
  cases found : ((origin.host environment).candidates path).find? machine.isFile with
  | none => rfl
  | some path =>
    obtain ⟨text, read⟩ := machine.readFile_of_isFile (List.find?_some found)
    have step : machine.acts ((origin.host environment).readFile path) =
        (machine.readFile path, machine) := rfl
    simp only [acts_bind, step, read, Except.toOption, Option.bind_some]
    rfl

theorem runs_settingsContent (path : String) :
    machine.runs ((origin.host environment).settingsContent path) =
      (.ok (settingsText origin machine environment path), machine) := by
  simp only [Host.settingsContent, runs_bind, runs_liftM, acts_readOptional]
  rfl

def logged (events : List Event) : Machine :=
  { machine with events := machine.events ++ events }

theorem acts_logAll (events : List Event) :
    machine.acts ((origin.host environment).logAll events) = ((), machine.logged events) := by
  induction events generalizing machine with
  | nil => simp [Host.logAll, logged]
  | cons event events ih =>
    have step : machine.acts ((origin.host environment).logAll (event :: events)) =
        (machine.logged [event]).acts ((origin.host environment).logAll events) := rfl
    rw [step, ih]
    simp [logged]

theorem acts_printUnlessEmpty (options : Options) (output : String) :
    machine.acts ((origin.host environment).printUnlessEmpty options output) =
      ((), { machine with printed := machine.printed ++
        if options.quiet || output.isEmpty then "" else output ++ "\n" }) := by
  rw [Host.printUnlessEmpty]
  split
  · simp
  · rfl

theorem acts_notifyUnlessQuiet (options : Options) (text : String) :
    machine.acts ((origin.host environment).notifyUnlessQuiet options text) =
      ((), { machine with notices := machine.notices ++
        if options.quiet then "" else text }) := by
  rw [Host.notifyUnlessQuiet]
  split
  · simp
  · rfl

def settings : Except SettingsError Settings :=
  Settings.load
    (settingsText origin machine environment (origin.host environment).settingsPath) environment

private theorem runs_loadSettings :
    machine.runs (origin.host environment).loadSettings =
      ((settings origin machine environment).mapError .ofSettings, machine) := by
  simp only [Host.loadSettings, runs_bind, runs_settingsContent, runs_orFail]
  rfl

theorem runs_resolve (options : Options) :
    machine.runs (resolve (origin.host environment) options) =
      (((settings origin machine environment).bind options.clientSettings).mapError .ofSettings,
        machine) := by
  simp only [resolve, runs_bind, runs_loadSettings]
  cases settings origin machine environment <;> rfl

/-- The client for some settings, if the certificates that it needs are there. -/
def connected (settings : ClientSettings) : Except ApiError Client :=
  Client.connect (m := Id) settings machine.readFile

/-- What connecting comes to, once it is known whether there are certificates to be trusted. -/
def trusting (settings : ClientSettings) : Option String → Except ApiError Client
  | some reason => .error (.tls reason)
  | none => .ok ⟨settings.apiBase⟩

theorem connected_customCa {settings : ClientSettings} {path : String}
    (trust : settings.trust = .customCa path) :
    machine.connected settings = trusting settings (trustFailure? (machine.readFile path)) := by
  unfold connected Client.connect
  rw [trust]
  rfl

theorem acts_readFile (path : String) :
    machine.acts ((origin.host environment).readFile path) = (machine.readFile path, machine) := rfl

private theorem acts_connect (settings : ClientSettings) :
    machine.acts (Client.connect settings (origin.host environment).readFile) =
      (machine.connected settings, machine) := by
  cases trust : settings.trust with
  | customCa path =>
    rw [connected_customCa machine trust]
    unfold Client.connect
    rw [trust]
    simp only [acts_bind, acts_readFile]
    cases trustFailure? (machine.readFile path) <;> rfl
  | _ =>
    unfold connected Client.connect
    rw [trust]
    rfl

theorem runs_connect (settings : ClientSettings) :
    machine.runs (connect (origin.host environment) settings) =
      match machine.connected settings with
      | .ok client => (.ok client, machine.logged [.connected client.base])
      | .error error => (.error (.ofSync (.ofApi error)), machine) := by
  simp only [connect, runs_bind, runs_lift, acts_connect, runs_orFail]
  cases machine.connected settings <;> rfl

def valueText (value : String) : Except FileError String :=
  match value.toList with
  | '@' :: path => machine.readFile (.ofList path)
  | _ => .ok value

private theorem valueText_atPath {value : String} {path : List Char}
    (atPath : value.toList = '@' :: path) :
    machine.valueText value = machine.readFile (.ofList path) := by
  simp only [valueText, atPath]

private theorem valueText_inline {value : String} (inline : ∀ path, value.toList ≠ '@' :: path) :
    machine.valueText value = .ok value := by
  unfold valueText
  split
  next path atPath => exact absurd atPath (inline path)
  next => rfl

def configOf (text : String) : Except Failure InterfaceConfig :=
  match Json.parse? text with
  | some json => .ok (.ofJson json)
  | none => .error (.notJson "expected a JSON value")

def given (value : String) : Except Failure InterfaceConfig :=
  ((machine.valueText value).mapError .file).bind configOf

private theorem runs_configOf (text : String) :
    machine.runs (match Json.parse? text with
      | some json => pure (.ofJson json)
      | none => throw (.notJson "expected a JSON value")) = (configOf text, machine) := by
  unfold configOf
  cases Json.parse? text <;> rfl

private theorem runs_readValue (value : String) :
    machine.runs (readValue (origin.host environment) value) = (machine.given value, machine) := by
  unfold readValue
  split
  next path atPath =>
    rw [given, valueText_atPath machine atPath]
    simp only [runs_bind, runs_liftM, acts_readFile, runs_orFail]
    cases machine.readFile (String.ofList path) with
    | error error => rfl
    | ok text => exact runs_configOf machine text
  next inline =>
    rw [given, valueText_inline machine inline]
    simp only [runs_bind, runs_pure]
    exact runs_configOf machine value

/-- What is asked of a store, once the value of an edit is there. -/
def inquired : ApiCommand → Except Failure Inquiry
  | .list => .ok .list
  | .view ifname => .ok (.view ifname)
  | .edit ifname value => (machine.given value).map (.edit ifname)

theorem runs_inquiry (command : ApiCommand) :
    machine.runs (inquiry (origin.host environment) command) =
      (machine.inquired command, machine) := by
  cases command with
  | list => rfl
  | view ifname => rfl
  | edit ifname value =>
    simp only [inquiry, runs_bind, runs_readValue, inquired]
    cases machine.given value <;> rfl

def asked (urls : List Url) : Machine :=
  { machine with requests := machine.requests ++ urls }

end Machine

end InterfaceSync.Cli

namespace InterfaceSync.Client

variable (client : Client) (network : Url → Exchange)

def reply (resource : Resource) : Reply :=
  client.get (m := Id) network resource

def sent (resource : Resource) : List Url :=
  match client.endpoint resource with
  | .ok url => if isSendable url then [url.withoutCredentials] else []
  | .error _ => []

/-- Whether the names fail before the entries can be asked for. -/
def failsAtOnce : Bool :=
  match (client.reply network .ifnames).result with
  | .error _ => (client.reply network .ifnames).atOnce
  | .ok _ => false

def sentInLoad : List Url :=
  if client.failsAtOnce network then client.sent .ifnames
  else client.sent .ifnames ++ client.sent .config

end InterfaceSync.Client

namespace InterfaceSync.Cli.Machine

variable (origin machine : Machine) (environment : List (String × String))

private theorem acts_get (settings : ClientSettings) (client : Client) (resource : Resource) :
    machine.acts (client.get ((origin.host environment).fetch settings) resource) =
      (client.reply machine.network resource, machine.asked (client.sent resource)) := by
  unfold Client.reply Client.get Client.sent
  cases client.endpoint resource with
  | error cause => simp [asked]; rfl
  | ok url =>
    cases sendable : Client.isSendable url
    · simp [asked, sendable]; rfl
    · simp [asked, sendable]; rfl

private theorem acts_readBoth (settings : ClientSettings) (client : Client) :
    machine.acts (client.readBoth ((origin.host environment).fetch settings)) =
      (client.readBoth (m := Id) machine.network,
        machine.asked (client.sentInLoad machine.network)) := by
  have reply (resource : Resource) :
      client.get (m := Id) machine.network resource = client.reply machine.network resource := rfl
  unfold Client.readBoth Client.sentInLoad Client.failsAtOnce
  simp only [acts_bind, acts_get, reply]
  obtain ⟨requested, result, atOnce⟩ := client.reply machine.network .ifnames
  have both : ((machine.asked (client.sent .ifnames)).asked (client.sent .config)) =
      machine.asked (client.sent .ifnames ++ client.sent .config) := by
    simp [asked]
  have network : (machine.asked (client.sent .ifnames)).network = machine.network := rfl
  cases result with
  | ok body =>
    simp only [acts_bind, acts_get, acts_pure, both, network]
    rfl
  | error error =>
    cases atOnce with
    | true => rfl
    | false =>
      simp only [acts_bind, acts_get, acts_pure, both, network]
      rfl

/-- What a load comes to over the network of the machine. -/
def loading (client : Client) : Outcome Store (Except SyncError Snapshot) :=
  Store.new.load (m := Id) client machine.network machine.clock

theorem acts_load (settings : ClientSettings) (client : Client) :
    machine.acts (Store.new.load client ((origin.host environment).fetch settings) machine.clock) =
      (machine.loading client, machine.asked (client.sentInLoad machine.network)) := by
  unfold loading
  have ready : Store.new.startLoad.answer = .ok true := rfl
  simp only [Store.load, ready, acts_bind, acts_readBoth]
  rfl

end InterfaceSync.Cli.Machine
