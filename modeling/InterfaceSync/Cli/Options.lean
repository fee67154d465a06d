import InterfaceSync.Model.InterfaceConfig

/-! What the program can be told to do, and the options that go with any of it. -/

namespace InterfaceSync.Cli

inductive OutputFormat
  | table
  | json
  | jsonCompact
  | yaml
  | plain
deriving DecidableEq, Repr

def OutputFormat.ofName? : String → Option OutputFormat
  | "table" => some .table
  | "json" => some .json
  | "json-compact" => some .jsonCompact
  | "yaml" => some .yaml
  | "plain" => some .plain
  | _ => none

inductive ColorMode
  | auto
  | always
  | never
deriving DecidableEq, Repr

def ColorMode.ofName? : String → Option ColorMode
  | "auto" => some .auto
  | "always" => some .always
  | "never" => some .never
  | _ => none

structure Options where
  profile : Option String
  apiBase : Option String
  output : OutputFormat
  color : ColorMode
  verbosity : Nat
  quiet : Bool
  insecure : Bool
  /-- In seconds. -/
  timeout : Option Nat
deriving DecidableEq, Repr

/-- What a new profile is made of; the user is asked for a missing name or URL. -/
structure NewProfile where
  name : Option String
  url : Option String
  caCert : Option String
  /-- The settings file to write, if it is not the usual one. -/
  file : Option String
deriving DecidableEq, Repr

inductive ApiCommand
  | list
  /-- Prints one configuration or the whole document. -/
  | view (ifname : Option Ifname)
  /-- The value is JSON, or the path of a file of it behind an `@`. -/
  | edit (ifname : Ifname) (value : String)
deriving DecidableEq, Repr

inductive SettingsCommand
  | path
  | view
  | init (profile : NewProfile)
deriving DecidableEq, Repr

inductive Command
  | api (command : ApiCommand)
  | settings (command : SettingsCommand)
deriving DecidableEq, Repr

structure Invocation where
  options : Options
  command : Command
deriving DecidableEq, Repr

end InterfaceSync.Cli
