import InterfaceSync.Cli.Summary
import InterfaceSync.Settings.Display
import InterfaceSync.Text.Blank
import InterfaceSync.Text.Table
import InterfaceSync.Yaml.Writer

/-! What is printed, in each of the formats. The structured formats print a whole value; tables and
plain text differ from one kind of answer to the other. -/

namespace InterfaceSync.Cli

def OutputFormat.render (format : OutputFormat) (value : Json) (table plain : String) : String :=
  match format with
  | .table => table
  | .json => value.indented
  | .jsonCompact => value.compact
  | .yaml => Yaml.write value
  | .plain => plain

def inLines (lines : List String) : String :=
  "\n".intercalate lines

namespace Summary

def toJson (summary : Summary) : Json :=
  .object [
    ("ifname", .string summary.ifname), ("configured", .bool summary.configured),
    ("keys", .ofNat summary.keys)]

def toRow (summary : Summary) : List String :=
  [summary.ifname, if summary.configured then "yes" else "-", toString summary.keys]

end Summary

/-- A finding as it is printed. Documents and configurations have no columns. -/
def Finding.render (format : OutputFormat) : Finding → String
  | .summaries rows =>
    format.render (.array (rows.map Summary.toJson))
      (Table.render ["Interface", "Configured", "Keys"] (rows.map Summary.toRow))
      (inLines (rows.map (·.ifname)))
  | .document whole => format.render whole.toJson whole.toJson.indented (inLines whole.ifnames)
  | .config one => format.render one.value one.value.indented one.value.compact

/-! Settings -/

/-- A line that shows a text between quotes, as it is. -/
def quotedLine (key value : String) : String :=
  s!"{key} = \"{value}\""

def boolLine (key : String) (value : Bool) : String :=
  s!"{key} = {value}"

def natLine (key : String) (value : Nat) : String :=
  s!"{key} = {value}"

def profileLines (name : String) (profile : Profile) : List String :=
  ["", s!"[profiles.{name}]", quotedLine "api_base" profile.apiBase] ++
    (profile.timeout.map (natLine "timeout")).toList ++
    (profile.caCert.map (quotedLine "ca_cert")).toList ++
    (profile.insecure.map (boolLine "insecure")).toList

def settingsLines (settings : Settings) : List String :=
  (settings.defaultProfile.map (quotedLine "default_profile")).toList ++
    ["", "[defaults]", natLine "timeout" settings.defaults.timeout,
      boolLine "insecure" settings.defaults.insecure] ++
    settings.profiles.entries.flatMap fun (name, profile) => profileLines name profile

def renderSettings (format : OutputFormat) (settings : Settings) : String :=
  let table := String.ofList (trimBlanksRight (inLines (settingsLines settings)).toList)
  format.render settings.toJson table (inLines settings.profiles.names)

/-! Lines beside the output -/

/-- A warning, of which the first word may be bold and yellow. -/
def warningLine (colored : Bool) (message : String) : String :=
  let word := if colored then "\x1b[1m\x1b[33mwarning:\x1b[39m\x1b[0m" else "warning:"
  s!"{word} {message}\n"

def editWarning : String :=
  "edits are held in memory only and were not written back to the API"

def settingsPathLine (path : String) : String :=
  s!"Config path: {path}\n"

def writtenLines (path name : String) : String :=
  s!"✓ Configuration written to {path}\n  Active profile: {name}\n\n  Test it: nicconf list\n"

end InterfaceSync.Cli
