import InterfaceSync.Toml.Quoted
import InterfaceSync.Toml.Scalar
import InterfaceSync.Toml.Tree

/-! Reading a TOML file as a layer of settings. A file is a sequence of lines, each a header, an
assignment or blank; only values in brackets and texts in three quotes go over several lines. -/

namespace InterfaceSync.Toml

/-! Blanks and line ends -/

def skipSpaces (text : List Char) : List Char :=
  text.dropWhile isSpace

/-- The rest of a line from the mark of a comment on, if the comment is well-formed. -/
def skipComment : List Char → List Char
  | '#' :: rest => rest.dropWhile isPlain
  | text => text

/-- The next line, if nothing but a comment is left of this one. -/
def endLine? (text : List Char) : Option (List Char) :=
  match skipComment (skipSpaces text) with
  | [] => some []
  | '\n' :: rest => some rest
  | '\r' :: '\n' :: rest => some rest
  | _ => none

/-- Skips blanks, line ends and comments, as they may stand between the items of an array. -/
def skipLines : Nat → List Char → List Char
  | 0, text => text
  | fuel + 1, text =>
    match skipSpaces text with
    | '#' :: rest => skipLines fuel (rest.dropWhile isPlain)
    | '\n' :: rest => skipLines fuel rest
    | '\r' :: '\n' :: rest => skipLines fuel rest
    | text => text

/-! Keys -/

/-- How long a path of keys may be, and how deep values may be nested. -/
def maxDepth : Nat := 79

/-- A dotted key with the blanks around its parts. -/
def readPath : Nat → List Char → Option (List String × List Char)
  | 0, _ => none
  | fuel + 1, text => do
    let (key, rest) ← readKey (skipSpaces text)
    let key := String.ofList key
    match skipSpaces rest with
    | '.' :: rest =>
      let (path, rest) ← readPath fuel rest
      return (key :: path, rest)
    | rest => return ([key], rest)

/-! Values -/

/-- The key under which a date or a time stands in place of a value. -/
def momentKey : String := "$__toml_private_datetime"

def Numeral.toSetting : Numeral → Setting
  | .whole value => .whole value
  | .fraction => .fraction

def readScalar (text : List Char) : Option (Setting × List Char) :=
  match text with
  | '"' :: _ => (readText text).map fun (value, rest) => (.text (.ofList value), rest)
  | '\'' :: _ => (readText text).map fun (value, rest) => (.text (.ofList value), rest)
  | 't' :: 'r' :: 'u' :: 'e' :: rest => some (.truth true, rest)
  | 'f' :: 'a' :: 'l' :: 's' :: 'e' :: rest => some (.truth false, rest)
  | _ =>
    if startsMoment text then
      (skipMoment? text).map fun rest =>
        let value := text.take (text.length - rest.length)
        (.table [(momentKey, .text (.ofList value))], rest)
    else (readNumber text).map fun (value, rest) => (value.toSetting, rest)

mutual
/-- A value with the text behind it, given how many brackets may still be opened. The fuel bounds
the number of calls in a row. -/
def readValue (depth : Nat) : Nat → List Char → Option (Setting × List Char)
  | 0, _ => none
  | fuel + 1, text =>
    match text with
    | '[' :: rest =>
      match depth with
      | 0 => none
      | depth + 1 => (readItems depth fuel rest).map fun (items, rest) => (.list items, rest)
    | '\x7b' :: rest =>
      match depth with
      | 0 => none
      | depth + 1 =>
        match skipSpaces rest with
        | '\x7d' :: rest => some (.table [], rest)
        | rest => do
          let (entries, rest) ← readEntries depth fuel [] rest
          return (.table (Node.closeEntries entries), rest)
    | text => readScalar text

/-- The items of an array and its end. A comma may stand behind the last item. -/
def readItems (depth : Nat) : Nat → List Char → Option (List Setting × List Char)
  | 0, _ => none
  | fuel + 1, text =>
    match skipLines text.length text with
    | ']' :: rest => some ([], rest)
    | text => do
      let (item, rest) ← readValue depth fuel text
      match skipLines rest.length rest with
      | ',' :: rest =>
        let (items, rest) ← readItems depth fuel rest
        return (item :: items, rest)
      | ']' :: rest => return ([item], rest)
      | _ => none

/-- The assignments of a table on one line and its end, added to those already read. -/
def readEntries (depth : Nat) : Nat → Entries → List Char → Option (Entries × List Char)
  | 0, _, _ => none
  | fuel + 1, entries, text => do
    let (path, rest) ← readPath maxDepth text
    let rest ← expect '=' rest
    let (value, rest) ← readValue depth fuel (skipSpaces rest)
    let entries ← assign value path entries
    match skipSpaces rest with
    | ',' :: rest => readEntries depth fuel entries rest
    | '\x7d' :: rest => return (entries, rest)
    | _ => none
end

/-! Lines -/

/-- What has been read so far: all tables, and the path of the header that is in force. -/
structure Progress where
  root : Entries
  header : List String

def Progress.start : Progress := ⟨[], []⟩

def readHeader (progress : Progress) (text : List Char) : Option (Progress × List Char) :=
  match text with
  | '[' :: text => do
    let (path, rest) ← readPath maxDepth text
    let rest ← expect ']' (← expect ']' rest)
    return (⟨← openItem path progress.root, path⟩, rest)
  | text => do
    let (path, rest) ← readPath maxDepth text
    let rest ← expect ']' rest
    return (⟨← openTable path progress.root, path⟩, rest)

def readAssignment (progress : Progress) (text : List Char) : Option (Progress × List Char) := do
  let (path, rest) ← readPath maxDepth text
  let rest ← expect '=' rest
  let (value, rest) ← readValue maxDepth (2 * rest.length + 2) (skipSpaces rest)
  return ({ progress with root := ← changeTable progress.header (assign value path) progress.root },
    rest)

def readLine (progress : Progress) (text : List Char) : Option (Progress × List Char) :=
  match skipSpaces text with
  | [] => some (progress, [])
  | '#' :: rest => some (progress, '#' :: rest)
  | '\n' :: rest => some (progress, '\n' :: rest)
  | '\r' :: rest => some (progress, '\r' :: rest)
  | '[' :: rest => readHeader progress rest
  | text => readAssignment progress text

/-- Reads line after line. Every line but the last one takes a character, so the length of the text
is fuel enough. -/
def readFile : Nat → Progress → List Char → Option Progress
  | _, progress, [] => some progress
  | 0, _, _ => none
  | fuel + 1, progress, text => do
    let (progress, rest) ← readLine progress text
    readFile fuel progress (← endLine? rest)

/-- The layer that a file says, if it is well-formed. A byte order mark at its front does not
count. -/
def parse? (text : String) : Option Setting :=
  let chars := match text.toList with
    | '\uFEFF' :: rest => rest
    | chars => chars
  (readFile chars.length .start chars).map fun progress =>
    .table (Node.closeEntries progress.root)

end InterfaceSync.Toml
