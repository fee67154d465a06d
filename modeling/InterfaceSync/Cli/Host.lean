import InterfaceSync.FileError
import InterfaceSync.Path
import InterfaceSync.Sync.Event
import InterfaceSync.Sync.Snapshot
import InterfaceSync.Wire.Trust

/-! What the program needs from the machine that it runs on. -/

namespace InterfaceSync.Cli

structure Host (m : Type → Type) where
  /-- All the variables of the environment. -/
  environment : List (String × String)
  /-- The home directory of the user's account, if it is known. -/
  accountHome : Option String
  /-- The working directory and the directories around it, the innermost one first. -/
  directories : List String
  /-- Whether messages beside the output go to a terminal that is to have colours. -/
  hasColors : Bool
  isFile : String → m Bool
  readFile : String → m (Except FileError String)
  /-- Writes a file. Missing directories around it are made first. -/
  writeFile : String → String → m (Except FileError Unit)
  /-- Makes a request in the way that the settings of the client say. -/
  fetch : ClientSettings → Url → m Exchange
  now : m Time
  /-- Asks the user a question that has a usual answer, if there is a user to ask. -/
  ask : (question usual : String) → m (Option String)
  print : String → m Unit
  /-- Prints beside the output. -/
  notify : String → m Unit
  log : Event → m Unit

namespace Host

variable {m : Type → Type}

def home? (host : Host m) : Option String :=
  (host.environment.lookup "HOME").filter (! ·.isEmpty) <|> host.accountHome

/-- Where the settings are kept unless another file is named. -/
def settingsPath (host : Host m) : String :=
  let base := match (host.environment.lookup "XDG_CONFIG_HOME").filter Path.isAbsolute with
    | some directory => directory
    | none => Path.join (host.home?.getD ".") ".config"
  Path.join (Path.join base "nicconf") "config.toml"

/-- The first of some paths that is one of a file. -/
def findFile [Monad m] (host : Host m) : List String → m (Option String)
  | [] => pure none
  | path :: paths => do
    if ← host.isFile path then return some path else host.findFile paths

/-- The paths that a path may stand for when it is read. A relative one is looked for in the working
directory and then in those around it. -/
def candidates (host : Host m) (path : String) : List String :=
  if Path.isAbsolute path then [path] else host.directories.map (Path.join · path)

def readOptional [Monad m] (host : Host m) (path : String) :
    m (Except FileError (Option String)) := do
  match ← host.findFile (host.candidates path) with
  | none => return .ok none
  | some found => return (← host.readFile found).map some

end Host

end InterfaceSync.Cli
