import InterfaceSync.Cli.Host

/-! A machine that is held in memory: its files, its network, and all that was printed, logged and
asked for. Runs on it can be compared and spoken about. A path is followed name by name, so all
that it passes through must be there. -/

namespace InterfaceSync.Cli

/-- The names on the way from the root to a file or a directory. -/
abbrev Location := List String

namespace Location

/-- The location of a path from the root on, where all that the path passes through is there. -/
def ofPath (path : String) : Location :=
  (Path.names path).foldl (fun location name =>
    if name == "." then location
    else if name == ".." then location.dropLast
    else location ++ [name]) []

def toPath (location : Location) : String :=
  "/" ++ "/".intercalate location

/-- A location and those around it, the innermost one first. -/
def outwards (location : Location) : List Location :=
  (List.range (location.length + 1)).reverse.map location.take

/-- How many bytes a name may have. -/
def nameLimit : Nat := 255

/-- The location of a name in a directory. A dot stands for the directory itself, and two for the
one around it. -/
def step (location : Location) (name : String) : Except FileError Location :=
  if name == "." then .ok location
  else if name == ".." then .ok location.dropLast
  else if nameLimit < name.utf8ByteSize then .error .nameTooLong
  else .ok (location ++ [name])

end Location

inductive Entry
  | directory
  | file (content : String)
deriving DecidableEq, Repr

structure Machine where
  files : List (Location × String)
  /-- The working directory. -/
  directory : Location
  /-- Directories that were made, beside those that were there. They stand for those around them,
  too. -/
  made : List Location
  network : Url → Exchange
  clock : Time
  /-- Everything that was asked for, in order. -/
  requests : List Url
  printed : String
  notices : String
  events : List Event

namespace Machine

def ofFiles (files : List (Location × String)) (directory : Location)
    (network : Url → Exchange) : Machine :=
  ⟨files, directory, [], network, 0, [], "", "", []⟩

/-- Directories are those that hold a file, those around the working directory, and those that were
made. -/
def isDirectory (machine : Machine) (location : Location) : Bool :=
  location.isPrefixOf machine.directory || machine.made.any location.isPrefixOf ||
    machine.files.any fun (file, _) => location.isPrefixOf file && location != file

def content? (machine : Machine) (location : Location) : Option String :=
  machine.files.lookup location

def entry? (machine : Machine) (location : Location) : Option Entry :=
  match machine.content? location with
  | some content => some (.file content)
  | none => if machine.isDirectory location then some .directory else none

/-! Following paths -/

def enter (machine : Machine) (location : Location) (name : String) :
    Except FileError Location := do
  let inner ← location.step name
  match machine.entry? inner with
  | some .directory => return inner
  | some (.file _) => throw .notDirectory
  | none => throw .notFound

def walk (machine : Machine) (start : Location) (names : List String) :
    Except FileError Location :=
  names.foldlM machine.enter start

def start (machine : Machine) (path : String) : Location :=
  if Path.isAbsolute path then [] else machine.directory

def holdsNull (name : String) : Bool :=
  name.toList.contains '\x00'

/-- How many bytes a path may have. -/
def pathLimit : Nat := 4095

/-- The directory that the last name of a path is to be found in. -/
def around (machine : Machine) (path : String) : Except FileError Location :=
  if holdsNull path then .error .nullInName
  else if path.isEmpty then .error .notFound
  else if pathLimit < path.utf8ByteSize then .error .nameTooLong
  else machine.walk (machine.start path) (Path.names path).dropLast

/-- The location that a path leads to, at which nothing needs to be. -/
def locate (machine : Machine) (path : String) : Except FileError Location := do
  let around ← machine.around path
  match (Path.names path).getLast? with
  | some name => around.step name
  | none => return around

/-! Reading and writing -/

/-- A slash behind the last name asks for a directory. -/
def readFile (machine : Machine) (path : String) : Except FileError String := do
  match machine.entry? (← machine.locate path) with
  | some (.file content) => if path.endsWith "/" then throw .notDirectory else return content
  | some .directory => throw .isDirectory
  | none => throw .notFound

def isFile (machine : Machine) (path : String) : Bool :=
  match machine.readFile path with
  | .ok _ => true
  | .error _ => false

def makeDirectory (machine : Machine) (location : Location) : Machine :=
  { machine with made := location :: machine.made.filter (! ·.isPrefixOf location) }

/-- Makes all directories that are missing where some names lead from a location. A file in place
of the last one, or behind one that had to be made, holds a name that is taken; any other file is
no directory to go through. The directories made before a failure stay. -/
def makeDirectories (machine : Machine) (location : Location) (wasMissing : Bool) :
    List String → Except FileError Unit × Machine
  | [] => (.ok (), machine)
  | name :: rest =>
    match location.step name with
    | .error error => (.error error, machine)
    | .ok inner =>
      match machine.entry? inner with
      | some .directory => machine.makeDirectories inner wasMissing rest
      | some (.file _) =>
        (.error (if wasMissing || rest.isEmpty then .exists else .notDirectory), machine)
      | none => (machine.makeDirectory inner).makeDirectories inner true rest

/-- Makes the directories that a path is in. -/
def prepare (machine : Machine) (path : String) : Except FileError Unit × Machine :=
  let parents := Path.parentNames path
  if parents.any holdsNull then (.error .nullInName, machine)
  else machine.makeDirectories (machine.start path) false parents

def setContent (location : Location) (content : String) :
    List (Location × String) → List (Location × String)
  | [] => [(location, content)]
  | (other, old) :: files =>
    if other = location then (location, content) :: files
    else (other, old) :: setContent location content files

/-- The machine with a file written, in a directory that is there. -/
def overwrite (machine : Machine) (path content : String) : Except FileError Machine := do
  let _ ← machine.around path
  if path.endsWith "/" then throw .isDirectory
  let location ← machine.locate path
  if machine.isDirectory location then throw .isDirectory
  return { machine with files := setContent location content machine.files }

/-- Writes a file. Missing directories around it are made first, and stay if that fails. -/
def writeFile (machine : Machine) (path content : String) : Except FileError Unit × Machine :=
  match machine.prepare path with
  | (.error error, prepared) => (.error error, prepared)
  | (.ok (), prepared) =>
    match prepared.overwrite path content with
    | .error error => (.error error, prepared)
    | .ok after => (.ok (), after)

/-- The machine as the program sees it, with the given variables of the environment. Nobody is
there to answer questions. -/
def host (machine : Machine) (environment : List (String × String)) : Host (StateM Machine) where
  environment := environment
  accountHome := some "/root"
  directories := machine.directory.outwards.map Location.toPath
  hasColors := false
  isFile path := do return (← get).isFile path
  readFile path := do return (← get).readFile path
  writeFile path content := modifyGet (·.writeFile path content)
  fetch _ url := modifyGet fun machine =>
    (machine.network url, { machine with requests := machine.requests ++ [url] })
  now := do return (← get).clock
  ask _ _ := return none
  print text := modify fun machine => { machine with printed := machine.printed ++ text }
  notify text := modify fun machine => { machine with notices := machine.notices ++ text }
  log event := modify fun machine => { machine with events := machine.events ++ [event] }

end Machine

end InterfaceSync.Cli
