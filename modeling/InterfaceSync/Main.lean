import InterfaceSync.Cli.Arguments
import InterfaceSync.Cli.Run
import InterfaceSync.Wire.Http
import Std.Async.DNS
import Std.Async.System
import Std.Async.TCP
import Std.Async.Timer

/-! The program: a command line, carried out on the machine that it is run on. Plain HTTP is spoken
here; other hosts cannot be reached. -/

namespace InterfaceSync.Cli

open Std.Async

/-! Files -/

def fileError (error : IO.Error) : FileError :=
  match error with
  | .noFileOrDirectory _ _ _ => .notFound
  | .permissionDenied _ _ _ => .notPermitted
  | .alreadyExists _ _ _ => .exists
  | .inappropriateType _ 20 _ => .notDirectory
  | .inappropriateType _ 21 _ => .isDirectory
  | .invalidArgument _ 36 _ => .nameTooLong
  | .userError _ => .notText
  | other => .other (toString other)

def withFile {α : Type} (path : String) (action : IO α) : IO (Except FileError α) := do
  if path.toList.contains '\x00' then return .error .nullInName
  try return .ok (← action) catch error => return .error (fileError error)

def readText (path : String) : IO (Except FileError String) :=
  withFile path (IO.FS.readFile path)

/-- A path that leads to something that can be read, or could be with more rights. -/
def isFilePath (path : String) : IO Bool := do
  match ← readText path with
  | .error .notFound => return false
  | .error .notDirectory => return false
  | .error .isDirectory => return false
  | _ => return true

def writeText (path content : String) : IO (Except FileError Unit) :=
  withFile path do
    if let some directory := Path.parent? path then IO.FS.createDirAll directory
    IO.FS.writeFile path content

/-! Network -/

partial def receive (socket : TCP.Socket.Client) (received : ByteArray) : Async ByteArray := do
  match ← socket.recv? 65536 with
  | some bytes => receive socket (received ++ bytes)
  | none => return received

def socketAddress (address : Std.Net.IPAddr) (port : Nat) : Std.Net.SocketAddress :=
  match address with
  | .v4 address => .v4 ⟨address, port.toUInt16⟩
  | .v6 address => .v6 ⟨address, port.toUInt16⟩

def openConnection (target : Http.Target) : Async TCP.Socket.Client := do
  let addresses ← DNS.getAddrInfo target.host (toString target.port)
  match addresses[0]? with
  | some address =>
    let socket ← TCP.Socket.Client.mk
    socket.connect (socketAddress address target.port)
    return socket
  | none => throw (.userError "unknown host")

def converse (target : Http.Target) : Async Exchange := do
  let connected ← try some <$> openConnection target catch _ => pure none
  match connected with
  | none => return .refused
  | some socket =>
    try
      socket.send target.request.toUTF8
      return Http.exchange (← receive socket .empty)
    catch _ => return .closed

def silence (seconds : Nat) : Async Exchange := do
  sleep (.ofNat (1000 * seconds))
  return .silent

def fetchPlain (settings : ClientSettings) (url : Url) : IO Exchange := do
  match Http.Target.ofUrl? url with
  | some target => (Async.race (converse target) (silence settings.timeout)).block
  | none => return .unreachable

/-! The host -/

def outwards : Nat → String → List String
  | 0, directory => [directory]
  | steps + 1, directory =>
    match Path.parent? directory with
    | some parent => directory :: outwards steps parent
    | none => [directory]

def askUser (question usual : String) : IO (Option String) := do
  let errors ← IO.getStderr
  if ← errors.isTty then
    errors.putStr s!"{question} [{usual}]: "
    errors.flush
    let line ← (← IO.getStdin).getLine
    let answer := String.ofList (line.toList.filter (· != '\n'))
    return some (if answer.isEmpty then usual else answer)
  else return none

def logEvent (verbosity : Nat) (event : Event) : IO Unit :=
  if event.level.verbosity ≤ verbosity then IO.eprintln event.line else pure ()

def Host.ofSystem (environment : List (String × String)) (verbosity : Nat) : IO (Host IO) := do
  let directory := toString (← IO.currentDir)
  let account ← Std.Internal.UV.System.osGetPasswd
  return {
    environment
    accountHome := account.homedir
    directories := outwards directory.length directory
    hasColors := ← (← IO.getStderr).isTty
    isFile := isFilePath
    readFile := readText
    writeFile := writeText
    fetch := fetchPlain
    now := IO.monoMsNow
    ask := askUser
    print := fun text => IO.print text
    notify := fun text => IO.eprint text
    log := logEvent verbosity }

def reportFailure (failure : Failure) : IO Unit := do
  if let some code := failure.code? then IO.eprintln code
  IO.eprintln s!"  × {failure.message}"
  if let some help := failure.help? then IO.eprintln s!"  help: {help}"

def reportHalt (halt : Halt) : IO Unit :=
  match halt.output? with
  | some output => IO.print output
  | none => IO.eprintln halt.message

/-- Runs a command line and gives the exit status. -/
def runSystem (arguments : List String) : IO Nat := do
  let environment := (← Std.Internal.UV.System.osEnviron).toList
  match Invocation.parse environment arguments with
  | .error halt =>
    reportHalt halt
    return halt.exitCode
  | .ok invocation =>
    let host ← Host.ofSystem environment invocation.options.verbosity
    match ← run host invocation with
    | .ok _ => return 0
    | .error failure =>
      reportFailure failure
      return failure.exitCode

end InterfaceSync.Cli

def main (arguments : List String) : IO UInt32 := do
  return (← InterfaceSync.Cli.runSystem arguments).toUInt32
