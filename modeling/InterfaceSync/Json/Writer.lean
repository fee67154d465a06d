import InterfaceSync.Json.Value
import InterfaceSync.Decimal.Shortest

/-! The texts of a JSON value: compact, and indented by two spaces. Members are written in the
order in which the value holds them, which for canonical values is the order of their keys. -/

namespace InterfaceSync.Json

/-- JSON texts write the sign of an exponent that is not negative. -/
def exponentStyle : ExponentStyle := ⟨['+']⟩

/-- Only the quote, the backslash and control characters are escaped. -/
def escapeChar (c : Char) : List Char :=
  if c == '"' then ['\\', '"']
  else if c == '\\' then ['\\', '\\']
  else if c == '\n' then ['\\', 'n']
  else if c == '\r' then ['\\', 'r']
  else if c == '\t' then ['\\', 't']
  else if c == '\x08' then ['\\', 'b']
  else if c == '\x0c' then ['\\', 'f']
  else if c < ' ' then
    ['\\', 'u', '0', '0', Nat.digitChar (c.toNat / 16), Nat.digitChar (c.toNat % 16)]
  else [c]

def writeString (text : String) : List Char :=
  '"' :: text.toList.flatMap escapeChar ++ ['"']

def writeNumber : Number → List Char
  | .whole value _ =>
    if value < 0 then '-' :: Nat.toDigits 10 value.natAbs else Nat.toDigits 10 value.natAbs
  | .float value => value.text exponentStyle

/-- What stands between the parts of a container, given how deep it is nested: before each part,
before the end, and behind a key. -/
structure Spacing where
  beforePart : Nat → List Char
  beforeEnd : Nat → List Char
  afterKey : List Char

def Spacing.compact : Spacing :=
  ⟨fun _ => [], fun _ => [], []⟩

def Spacing.indented : Spacing :=
  let line (depth : Nat) := '\n' :: List.replicate (2 * depth) ' '
  ⟨fun depth => line (depth + 1), line, [' ']⟩

mutual
def writeWith (spacing : Spacing) (depth : Nat) : Json → List Char
  | .null => ['n', 'u', 'l', 'l']
  | .bool true => ['t', 'r', 'u', 'e']
  | .bool false => ['f', 'a', 'l', 's', 'e']
  | .number value => writeNumber value
  | .string value => writeString value
  | .array [] => ['[', ']']
  | .array (item :: items) =>
    '[' :: spacing.beforePart depth ++ writeWith spacing (depth + 1) item ++
      writeItems spacing depth items ++ spacing.beforeEnd depth ++ [']']
  | .object [] => ['{', '}']
  | .object ((key, value) :: members) =>
    '{' :: spacing.beforePart depth ++ writeString key ++ ':' :: spacing.afterKey ++
      writeWith spacing (depth + 1) value ++ writeMembers spacing depth members ++
      spacing.beforeEnd depth ++ ['}']

def writeItems (spacing : Spacing) (depth : Nat) : List Json → List Char
  | [] => []
  | item :: items =>
    ',' :: spacing.beforePart depth ++ writeWith spacing (depth + 1) item ++
      writeItems spacing depth items

def writeMembers (spacing : Spacing) (depth : Nat) : List (String × Json) → List Char
  | [] => []
  | (key, value) :: members =>
    ',' :: spacing.beforePart depth ++ writeString key ++ ':' :: spacing.afterKey ++
      writeWith spacing (depth + 1) value ++ writeMembers spacing depth members
end

def compact (value : Json) : String :=
  .ofList (writeWith .compact 0 value)

def indented (value : Json) : String :=
  .ofList (writeWith .indented 0 value)

end InterfaceSync.Json
