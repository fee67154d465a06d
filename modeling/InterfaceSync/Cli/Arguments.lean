import InterfaceSync.Cli.Given
import InterfaceSync.Text.Split

/-! Reading a command line. Commands are nested, and options may stand behind any of them. The
arguments are read from left to right; what was given to the inner command is checked before what
was given to the outer one. -/

namespace InterfaceSync.Cli

inductive Scope
  | program
  | list
  | view
  | edit
  | settings
  | settingsPath
  | settingsView
  | settingsInit
deriving DecidableEq, Repr

namespace Scope

def title : Scope → String
  | .program => "nicconf"
  | .list => "nicconf-list"
  | .view => "nicconf-show"
  | .edit => "nicconf-edit"
  | .settings => "nicconf-config"
  | .settingsPath => "nicconf-config-path"
  | .settingsView => "nicconf-config-show"
  | .settingsInit => "nicconf-config-init"

def inner? : Scope → String → Option Scope
  | .program, "list" => some .list
  | .program, "ls" => some .list
  | .program, "show" => some .view
  | .program, "edit" => some .edit
  | .program, "config" => some .settings
  | .settings, "path" => some .settingsPath
  | .settings, "show" => some .settingsView
  | .settings, "init" => some .settingsInit
  | _, _ => none

def isGroup : Scope → Bool
  | .program => true
  | .settings => true
  | _ => false

/-- Groups have one more command inside, which explains the others. -/
def isHelp (scope : Scope) (word : String) : Bool :=
  scope.isGroup && word == "help"

def operandLimit : Scope → Nat
  | .view => 1
  | .edit => 2
  | _ => 0

def explain (scope : Scope) : List String → Halt
  | [] => .help
  | word :: rest =>
    match scope.inner? word with
    | some inner => inner.explain rest
    | none => if scope.isHelp word && rest.isEmpty then .help else .unknownCommand

end Scope

inductive OptionName
  | switch (switch : Switch)
  | value (option : ValueOption)
deriving DecidableEq, Repr

namespace OptionName

def ofLong? (scope : Scope) : String → Option OptionName
  | "profile" => some (.value .profile)
  | "api-base" => some (.value .apiBase)
  | "output" => some (.value .output)
  | "color" => some (.value .color)
  | "timeout" => some (.value .timeout)
  | "verbose" => some (.switch .verbose)
  | "quiet" => some (.switch .quiet)
  | "insecure" => some (.switch .insecure)
  | "help" => some (.switch .help)
  | "version" => some (.switch .version)
  | other =>
    if scope = .settingsInit then
      match other with
      | "name" => some (.value .name)
      | "url" => some (.value .url)
      | "ca-cert" => some (.value .caCert)
      | "file" => some (.value .file)
      | _ => none
    else none

def ofShort? : Char → Option OptionName
  | 'p' => some (.value .profile)
  | 'a' => some (.value .apiBase)
  | 'o' => some (.value .output)
  | 'v' => some (.switch .verbose)
  | 'q' => some (.switch .quiet)
  | 'k' => some (.switch .insecure)
  | 'h' => some (.switch .help)
  | 'V' => some (.switch .version)
  | _ => none

end OptionName

inductive Word
  /-- Behind `--` there are no options. -/
  | separator
  | long (name : String) (value : Option String)
  | short (letters : List Char)
  | plain
deriving DecidableEq, Repr

def Word.ofChars : List Char → Word
  | ['-', '-'] => .separator
  | '-' :: '-' :: text =>
    let value := match text.dropWhile (· != '=') with
      | _ :: value => some (String.ofList value)
      | [] => none
    .long (.ofList (text.takeWhile (· != '='))) value
  | '-' :: letter :: letters => .short (letter :: letters)
  | _ => .plain

inductive Pending
  | nothing
  /-- The next argument is its value. -/
  | awaiting (option : ValueOption)
  | complete (option : ValueOption) (value : String)
deriving DecidableEq, Repr

structure Reading where
  scope : Scope
  given : Given := {}
  pending : Pending := .nothing
  operands : List String := []

namespace Reading

def isAwaiting (reading : Reading) : Bool :=
  match reading.pending with
  | .awaiting _ => true
  | _ => false

def settle (reading : Reading) : Except Halt Reading :=
  match reading.pending with
  | .nothing => .ok reading
  | .awaiting _ => .error .missingValue
  | .complete option value => do
    return { reading with given := ← reading.given.put value option, pending := .nothing }

def turnOn (reading : Reading) (switch : Switch) : Except Halt Reading := do
  let reading ← reading.settle
  return { reading with given := ← reading.given.turnOn reading.scope.title switch }

/-- An option whose value is part of the same argument is checked at once. -/
def attach (reading : Reading) (option : ValueOption) (value : String) : Except Halt Reading := do
  let reading ← reading.settle
  return { reading with given := ← reading.given.put value option }

def await (reading : Reading) (option : ValueOption) : Except Halt Reading := do
  return { ← reading.settle with pending := .awaiting option }

def long (reading : Reading) (name : String) (value : Option String) : Except Halt Reading :=
  match OptionName.ofLong? reading.scope name, value with
  | none, _ => .error .unknownArgument
  | some (.switch switch), none => reading.turnOn switch
  | some (.switch _), some _ => .error .surplusValue
  | some (.value option), some value => reading.attach option value
  | some (.value option), none => reading.await option

/-- Several letters in one argument. The rest behind an option that takes a value is its value, and
an equals sign may stand between the two. -/
def short (reading : Reading) : List Char → Except Halt Reading
  | [] => .ok reading
  | letter :: letters =>
    match OptionName.ofShort? letter, letters with
    | none, _ => .error .unknownArgument
    | some (.switch switch), letters => do (← reading.turnOn switch).short letters
    | some (.value option), [] => reading.await option
    | some (.value option), '=' :: value => reading.attach option (.ofList value)
    | some (.value option), value => reading.attach option (.ofList value)

def operand (behindSeparator : Bool) (reading : Reading) (word : String) : Except Halt Reading :=
  if reading.operands.length < reading.scope.operandLimit then do
    let reading ← reading.settle
    return { reading with operands := reading.operands ++ [word] }
  else if reading.scope.isGroup then
    let isCommand := (reading.scope.inner? word).isSome || reading.scope.isHelp word
    .error (if behindSeparator && isCommand then .unknownArgument else .unknownCommand)
  else .error .unknownArgument

/-- A plain argument, which is the value of an option that awaits one. -/
def plain (reading : Reading) (word : String) : Except Halt Reading :=
  match reading.pending with
  | .awaiting option => .ok { reading with pending := .complete option word }
  | _ => reading.operand false word

/-- The command that is given. Only groups and `edit` need more than their names. -/
def command (reading : Reading) (isEmpty : Bool) : Except Halt Command :=
  match reading.scope, reading.operands with
  | .list, _ => .ok (.api .list)
  | .view, operands => .ok (.api (.view operands.head?))
  | .edit, [ifname, value] => .ok (.api (.edit ifname value))
  | .edit, _ => .error .missingArgument
  | .settingsPath, _ => .ok (.settings .path)
  | .settingsView, _ => .ok (.settings .view)
  | .settingsInit, _ => .ok (.settings (.init reading.given.toNewProfile))
  | .program, _ => .error (if isEmpty then .nothingGiven else .missingCommand)
  | .settings, _ => .error (if isEmpty then .nothingGiven else .missingCommand)

end Reading

structure Request where
  given : Given
  fromVariables : Given
  command : Command

namespace Request

/-- Options on the command line count before variables. -/
def toInvocation (request : Request) : Invocation :=
  ⟨(request.given.orElse request.fromVariables).toOptions, request.command⟩

/-- Ends a command that has no further one inside. -/
def ofReading (environment : List (String × String)) (reading : Reading) :
    Except Halt Request := do
  let reading ← reading.settle
  let fromVariables ← Given.ofVariables environment reading.given
  let command ← reading.command (reading.given.isEmpty && fromVariables.isEmpty)
  return ⟨reading.given, fromVariables, command⟩

/-- Ends the command around another one, whose options count first. -/
def within (environment : List (String × String)) (reading : Reading) (inner : Request) :
    Except Halt Request := do
  let reading ← reading.settle
  let fromVariables ← Given.ofVariables environment reading.given
  return ⟨inner.given.orElse reading.given, inner.fromVariables.orElse fromVariables,
    inner.command⟩

def read (environment : List (String × String)) (reading : Reading) :
    List String → Except Halt Request
  | [] => ofReading environment reading
  | word :: words =>
    let inner? := if reading.isAwaiting then none else reading.scope.inner? word
    if !reading.isAwaiting && reading.scope.isHelp word then
      .error (reading.scope.explain words)
    else
      match inner? with
      | some scope => do
        within environment reading (← read environment { scope } words)
      | none =>
        match Word.ofChars word.toList with
        | .separator => do
          ofReading environment (← words.foldlM (Reading.operand true) reading)
        | .long name value => do read environment (← reading.long name value) words
        | .short letters => do read environment (← reading.short letters) words
        | .plain => do read environment (← reading.plain word) words

end Request

def Invocation.parse (environment : List (String × String)) (arguments : List String) :
    Except Halt Invocation :=
  (Request.read environment { scope := .program } arguments).map Request.toInvocation

end InterfaceSync.Cli
