import InterfaceSync.Json.Writer
import InterfaceSync.Yaml.Scalar

/-! JSON values as YAML in block style. What is nested is indented by two columns, except that the
items of a list below a key stand in the column of the key. -/

namespace InterfaceSync.Yaml

/-- No sign stands before an exponent that is not negative. -/
def exponentStyle : ExponentStyle := ⟨[]⟩

def writeNumber : Json.Number → List Char
  | .whole value fits => Json.writeNumber (.whole value fits)
  | .float value => value.text exponentStyle

def endLine (text : List Char) : List Char :=
  if text.getLast?.any isBreak then text else text ++ ['\n']

/-- Whether a key can stand in front of a colon on the same line. -/
def isSimpleKey (key : String) : Bool :=
  key.utf8ByteSize ≤ 128 && !key.toList.any fun c => isBreak c || c == '\r' || c == '\x85'

mutual
/-- A value behind an indicator, on the same line; its further lines start at the given column. -/
def writeNode (column : Nat) : Json → List Char
  | .null => "null\n".toList
  | .bool true => "true\n".toList
  | .bool false => "false\n".toList
  | .number value => writeNumber value ++ ['\n']
  | .string value => endLine (writeText column value.toList)
  | .array [] => "[]\n".toList
  | .array (item :: items) =>
    '-' :: ' ' :: writeNode (column + 2) item ++ writeItems column items
  | .object [] => "\x7b\x7d\n".toList
  | .object ((key, value) :: members) =>
    writeKey column key ++ writeValue column (isSimpleKey key) value ++ writeMembers column members

def writeItems (column : Nat) : List Json → List Char
  | [] => []
  | item :: items =>
    margin column ++ '-' :: ' ' :: writeNode (column + 2) item ++ writeItems column items

def writeMembers (column : Nat) : List (String × Json) → List Char
  | [] => []
  | (key, value) :: members =>
    margin column ++ writeKey column key ++ writeValue column (isSimpleKey key) value ++
      writeMembers column members

/-- A key with its colon. A long one stands on lines of its own. -/
def writeKey (column : Nat) (key : String) : List Char :=
  if isSimpleKey key then writeText column key.toList ++ [':']
  else '?' :: ' ' :: endLine (writeText (column + 2) key.toList) ++ margin column ++ [':']

/-- The value of a key. Behind a simple key the parts of a container start on the next line. -/
def writeValue (column : Nat) (simple : Bool) : Json → List Char
  | .array items =>
    if items.isEmpty then " []\n".toList
    else if simple then '\n' :: writeItems column items
    else ' ' :: (writeItems (column + 2) items).drop (column + 2)
  | .object members =>
    if members.isEmpty then " \x7b\x7d\n".toList
    else if simple then '\n' :: writeMembers (column + 2) members
    else ' ' :: (writeMembers (column + 2) members).drop (column + 2)
  | .string value => ' ' :: endLine (writeText (column + 2) value.toList)
  | .number value => ' ' :: writeNumber value ++ ['\n']
  | .bool true => " true\n".toList
  | .bool false => " false\n".toList
  | .null => " null\n".toList
end

/-- The lines of a value that is a whole file. A text at its end whose last lines are empty is
closed by a mark. -/
def write (value : Json) : String :=
  let lines := match value with
    | .string text => endLine (writeText 2 text.toList)
    | value => writeNode 0 value
  .ofList (if ['\n', '\n'].isSuffixOf lines then lines ++ "...\n".toList else lines)

end InterfaceSync.Yaml
