import InterfaceSync.Json.Reader
import InterfaceSync.Model.InterfaceConfig

/-! The body of an answer that holds the configuration. Servers send the entries either inside a
member called `nics` or directly. The two shapes are told apart on the members as they stand in the
text, before equal keys are merged. -/

namespace InterfaceSync

inductive Payload
  | wrapped (nics : NameMap Json)
  | bare (nics : NameMap Json)

namespace Payload

/-- The entries, whichever shape they came in. -/
def nics : Payload → NameMap Json
  | .wrapped nics => nics
  | .bare nics => nics

/-- The shape of a value as it was read. It is wrapped when exactly one member is called `nics` and
that one is an object; the other members are then ignored. Only objects are payloads. -/
def ofJson? : Json → Option Payload
  | .object members =>
    match members.filter (·.1 == "nics") with
    | [(_, .object nics)] => some (.wrapped (.ofList (Json.canonicalMembers nics)))
    | _ => some (.bare (.ofList (Json.canonicalMembers members)))
  | _ => none

def parse? (text : String) : Option Payload :=
  (Json.read? text).bind ofJson?

end Payload

/-- The names of the interfaces, as a text holds them: an array of strings. -/
def parseNames? (text : String) : Option (List String) :=
  (Json.read? text).bind Json.strings?

end InterfaceSync
