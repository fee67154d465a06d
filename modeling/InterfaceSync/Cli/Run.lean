import InterfaceSync.Cli.Host
import InterfaceSync.Cli.Output
import InterfaceSync.Json.Reader
import InterfaceSync.Settings.Load
import InterfaceSync.Sync.NetworkLoad
import InterfaceSync.Toml.Writer

/-! Running a command. Settings come first, then the client, then the value of an edit, and the API
is only asked when all of them are in order. -/

namespace InterfaceSync.Cli

/-! Settings -/

/-- The profile that the options choose. A base on the command line makes up for a missing one. -/
def Options.profileIn (options : Options) (settings : Settings) : Except SettingsError Profile :=
  match settings.profile (settings.activeProfile options.profile), options.apiBase with
  | .ok profile, _ => .ok profile
  | .error _, some apiBase => .ok (.ofBase apiBase)
  | .error error, none => .error error

/-- A profile in which the options count before its own entries. -/
def Options.overrule (options : Options) (profile : Profile) : Profile where
  apiBase := options.apiBase.getD profile.apiBase
  timeout := options.timeout <|> profile.timeout
  caCert := profile.caCert
  insecure := if options.insecure then some true else profile.insecure

/-- How the API is reached, given all the settings. -/
def Options.clientSettings (options : Options) (settings : Settings) :
    Except SettingsError ClientSettings := do
  let profile ← options.profileIn settings
  (options.overrule profile).clientSettings settings.defaults

variable {m : Type → Type} [Monad m]

def orFail {ε α : Type} (restate : ε → Failure) (result : Except ε α) : ExceptT Failure m α :=
  ExceptT.mk (pure (result.mapError restate))

namespace Host

/-- The content of a settings file. One that cannot be read is as bad as one that is malformed. -/
def settingsContent (host : Host m) (path : String) : ExceptT Failure m (Option String) := do
  let content ← host.readOptional path
  orFail (fun _ => .ofSettings (.unfit .malformed [])) content

def loadSettings (host : Host m) : ExceptT Failure m Settings := do
  let content ← host.settingsContent host.settingsPath
  orFail .ofSettings (Settings.load content host.environment)

/-- Prints an answer with a line end, unless there is nothing to print. -/
def printUnlessEmpty (host : Host m) (options : Options) (output : String) : m Unit :=
  if options.quiet || output.isEmpty then pure () else host.print (output ++ "\n")

def notifyUnlessQuiet (host : Host m) (options : Options) (text : String) : m Unit :=
  if options.quiet then pure () else host.notify text

def logAll (host : Host m) : List Event → m Unit
  | [] => pure ()
  | event :: events => do
    host.log event
    host.logAll events

def isColored (host : Host m) : ColorMode → Bool
  | .always => true
  | .never => false
  | .auto => host.hasColors && (host.environment.lookup "NO_COLOR").isNone

def askFor (host : Host m) (given : Option String) (question usual : String) :
    ExceptT Failure m String := do
  match given with
  | some answer => return answer
  | none =>
    match ← host.ask question usual with
    | some answer => return answer
    | none => throw (.invalid "interactive" "prompt failed: IO error: not a terminal")

end Host

/-! Commands about the settings -/

/-- The settings of a file with a profile more, which becomes the default one. -/
def withDefaultProfile (settings : Settings) (name : String) (profile : Profile) : Settings :=
  { settings.withProfile name profile with defaultProfile := some name }

/-- Puts a new profile into a settings file. Only what the file itself says goes back into it. -/
def initSettings (host : Host m) (options : Options) (new : NewProfile) :
    ExceptT Failure m Unit := do
  let path := new.file.getD host.settingsPath
  host.notifyUnlessQuiet options (settingsPathLine path)
  let name ← host.askFor new.name "Profile name" Settings.fallbackProfile
  let url ← host.askFor new.url "API base URL" ClientSettings.developmentBase.text
  let _ ← orFail .ofSettings (readApiBase url)
  let content ← host.settingsContent path
  let settings ← orFail .ofSettings (Settings.loadFile content)
  let profile := { Profile.ofBase url with caCert := new.caCert }
  let written ← orFail .ofSettings (Toml.write (withDefaultProfile settings name profile))
  orFail .file (← host.writeFile path written)
  host.notifyUnlessQuiet options (writtenLines path name)

def runSettings (host : Host m) (options : Options) : SettingsCommand → ExceptT Failure m Unit
  | .path => host.printUnlessEmpty options host.settingsPath
  | .view => do
    host.printUnlessEmpty options (renderSettings options.output (← host.loadSettings))
  | .init profile => initSettings host options profile

/-! Commands that need the API -/

def readValue (host : Host m) (value : String) : ExceptT Failure m InterfaceConfig := do
  let text ← match value.toList with
    | '@' :: path => orFail .file (← host.readFile (.ofList path))
    | _ => pure value
  match Json.parse? text with
  | some json => return .ofJson json
  | none => throw (.notJson "expected a JSON value")

def inquiry (host : Host m) : ApiCommand → ExceptT Failure m Inquiry
  | .list => return .list
  | .view ifname => return .view ifname
  | .edit ifname value => return .edit ifname (← readValue host value)

/-- How the settings and the options say that the API is reached. -/
def resolve (host : Host m) (options : Options) : ExceptT Failure m ClientSettings := do
  orFail .ofSettings (options.clientSettings (← host.loadSettings))

def connect (host : Host m) (settings : ClientSettings) : ExceptT Failure m Client := do
  let connected ← ExceptT.lift (Client.connect settings host.readFile)
  let client ← orFail (fun error => .ofSync (.ofApi error)) connected
  host.log (.connected client.base)
  return client

def answer (host : Host m) (settings : ClientSettings) (client : Client) (inquiry : Inquiry) :
    ExceptT Failure m Finding := do
  let now ← host.now
  let ⟨loaded, store, events⟩ ← ExceptT.lift (Store.new.load client (host.fetch settings) now)
  host.logAll events
  let _ ← orFail .ofSync loaded
  let ⟨answer, _, events⟩ := inquiry.run store
  host.logAll events
  orFail id answer

def runApi (host : Host m) (options : Options) (command : ApiCommand) :
    ExceptT Failure m Unit := do
  let settings ← resolve host options
  let client ← connect host settings
  let inquiry ← inquiry host command
  let finding ← answer host settings client inquiry
  host.printUnlessEmpty options (finding.render options.output)
  match inquiry with
  | .edit _ _ =>
    host.notifyUnlessQuiet options (warningLine (host.isColored options.color) editWarning)
  | _ => return

/-- Runs a command. Settings are looked after without the API. -/
def run (host : Host m) (invocation : Invocation) : m (Except Failure Unit) :=
  match invocation.command with
  | .settings command => (runSettings host invocation.options command).run
  | .api command => (runApi host invocation.options command).run

end InterfaceSync.Cli
