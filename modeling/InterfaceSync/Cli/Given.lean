import InterfaceSync.Cli.Options

/-! Options as they are given, on a command line or by variables of the environment. An option that
takes a value is given at most once in one place. -/

namespace InterfaceSync.Cli

inductive Halt
  /-- Help is asked for. -/
  | help
  /-- The version of a command is asked for. -/
  | version (command : String)
  /-- A command is missing, and so is everything else. -/
  | nothingGiven
  | missingCommand
  | unknownCommand
  | unknownArgument
  | missingArgument
  | missingValue
  /-- A value is not among the ones that are possible. -/
  | unknownValue
  | malformedValue
  /-- A value is given to an option that takes none. -/
  | surplusValue
  | repeated
deriving DecidableEq, Repr

namespace Halt

def programVersion : String := "0.1.0"

/-- What is printed on the standard output; help is not. -/
def output? : Halt → Option String
  | .version command => some s!"{command} {programVersion}\n"
  | _ => none

/-- Asking for something about the program is no error. -/
def exitCode : Halt → Nat
  | .help => 0
  | .version _ => 0
  | _ => 2

def message : Halt → String
  | .help => "Usage: nicconf [OPTIONS] <list|show|edit|config>"
  | .version command => s!"{command} {programVersion}"
  | .nothingGiven => "a command is needed"
  | .missingCommand => "a command is needed"
  | .unknownCommand => "there is no such command"
  | .unknownArgument => "unexpected argument"
  | .missingArgument => "an argument is missing"
  | .missingValue => "an option needs a value"
  | .unknownValue => "a value is not possible"
  | .malformedValue => "a value is not well-formed"
  | .surplusValue => "an option takes no value"
  | .repeated => "an option is given more than once"

end Halt

inductive Switch
  | verbose
  | quiet
  | insecure
  | help
  | version
deriving DecidableEq, Repr

inductive ValueOption
  | profile
  | apiBase
  | output
  | color
  | timeout
  | name
  | url
  | caCert
  | file
deriving DecidableEq, Repr

structure Given where
  profile : Option String := none
  apiBase : Option String := none
  output : Option OutputFormat := none
  color : Option ColorMode := none
  verbosity : Nat := 0
  quiet : Bool := false
  insecure : Option Bool := none
  timeout : Option Nat := none
  name : Option String := none
  url : Option String := none
  caCert : Option String := none
  file : Option String := none
deriving DecidableEq, Repr

/-! Values -/

def readChoice {α : Type} (choice? : String → Option α) (value : String) : Except Halt α :=
  match choice? value with
  | some choice => .ok choice
  | none => .error .unknownValue

def readBool : String → Except Halt Bool
  | "true" => .ok true
  | "false" => .ok false
  | _ => .error .unknownValue

/-- A number of seconds that fits into 64 bits; a plus sign may stand in front. -/
def readSeconds (value : String) : Except Halt Nat :=
  let digits := match value.toList with
    | '+' :: digits => digits
    | digits => digits
  let seconds := digits.foldl (fun sum c => 10 * sum + (c.toNat - '0'.toNat)) 0
  if !digits.isEmpty && digits.all Char.isDigit && seconds ≤ 18446744073709551615 then .ok seconds
  else .error .malformedValue

/-- A path is not empty. -/
def readPath (value : String) : Except Halt String :=
  if value.isEmpty then .error .unknownValue else .ok value

namespace Given

/-- The value of an option that must not be there already. -/
def once {α : Type} (present : Option α) (value : Except Halt α) : Except Halt (Option α) :=
  if present.isSome then .error .repeated else value.map some

def put (given : Given) (value : String) : ValueOption → Except Halt Given
  | .profile => do return { given with profile := ← once given.profile (.ok value) }
  | .apiBase => do return { given with apiBase := ← once given.apiBase (.ok value) }
  | .output => do
    return { given with output := ← once given.output (readChoice OutputFormat.ofName? value) }
  | .color => do
    return { given with color := ← once given.color (readChoice ColorMode.ofName? value) }
  | .timeout => do return { given with timeout := ← once given.timeout (readSeconds value) }
  | .name => do return { given with name := ← once given.name (.ok value) }
  | .url => do return { given with url := ← once given.url (.ok value) }
  | .caCert => do return { given with caCert := ← once given.caCert (readPath value) }
  | .file => do return { given with file := ← once given.file (readPath value) }

/-- Adds a switch, which may ask for something about a command instead. -/
def turnOn (given : Given) (command : String) : Switch → Except Halt Given
  | .verbose => .ok { given with verbosity := given.verbosity + 1 }
  | .quiet => if given.quiet then .error .repeated else .ok { given with quiet := true }
  | .insecure => do return { given with insecure := ← once given.insecure (.ok true) }
  | .help => .error .help
  | .version => .error (.version command)

def isEmpty (given : Given) : Bool :=
  given == {}

/-- The options of two places, of which the first one counts. -/
def orElse (first second : Given) : Given where
  profile := first.profile <|> second.profile
  apiBase := first.apiBase <|> second.apiBase
  output := first.output <|> second.output
  color := first.color <|> second.color
  verbosity := if first.verbosity = 0 then second.verbosity else first.verbosity
  quiet := first.quiet || second.quiet
  insecure := first.insecure <|> second.insecure
  timeout := first.timeout <|> second.timeout
  name := first.name <|> second.name
  url := first.url <|> second.url
  caCert := first.caCert <|> second.caCert
  file := first.file <|> second.file

/-- The options of variables. A variable is not looked at if its option is among `given`. -/
def ofVariables (environment : List (String × String)) (given : Given) : Except Halt Given := do
  let value {α : Type} (present : Option α) (name : String) (read : String → Except Halt α) :
      Except Halt (Option α) :=
    match present, environment.lookup name with
    | none, some text => (read text).map some
    | _, _ => .ok none
  let profile ← value given.profile "NICCONF_PROFILE" .ok
  let apiBase ← value given.apiBase "NICCONF_API_BASE" .ok
  let output ← value given.output "NICCONF_OUTPUT" (readChoice OutputFormat.ofName?)
  let insecure ← value given.insecure "NICCONF_INSECURE" readBool
  let timeout ← value given.timeout "NICCONF_TIMEOUT" readSeconds
  return { profile, apiBase, output, insecure, timeout }

/-- The options that count when no others are given. -/
def toOptions (given : Given) : Options where
  profile := given.profile
  apiBase := given.apiBase
  output := given.output.getD .table
  color := given.color.getD .auto
  verbosity := given.verbosity
  quiet := given.quiet
  insecure := given.insecure.getD false
  timeout := given.timeout

def toNewProfile (given : Given) : NewProfile :=
  ⟨given.name, given.url, given.caCert, given.file⟩

end Given

end InterfaceSync.Cli
