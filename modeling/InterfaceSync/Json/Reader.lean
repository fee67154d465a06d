import InterfaceSync.Json.Significand
import InterfaceSync.Text.Hex

/-! Reading JSON. The grammar is the strict one: no byte order mark, no raw control characters in
strings, no lone halves of surrogate pairs, no leading zeros, at most 127 containers inside one
another, and nothing behind the value but blanks. Every reader takes the text from its front and
returns what it read with the text behind it. -/

namespace InterfaceSync.Json

def isBlank (c : Char) : Bool :=
  c == ' ' || c == '\n' || c == '\t' || c == '\r'

def skipBlanks (text : List Char) : List Char :=
  text.dropWhile isBlank

/-! Strings -/

def hexUnit? (a b c d : Char) : Option Nat := do
  return 4096 * (← Hex.digit? a) + 256 * (← Hex.digit? b) + 16 * (← Hex.digit? c) + (← Hex.digit? d)

def escaped? : Char → Option Char
  | '"' => some '"'
  | '\\' => some '\\'
  | '/' => some '/'
  | 'b' => some '\x08'
  | 'f' => some '\x0c'
  | 'n' => some '\n'
  | 'r' => some '\r'
  | 't' => some '\t'
  | _ => none

/-- A character outside the basic plane, written as two units. -/
def pair? (high low : Nat) : Option Char :=
  if 0xD800 ≤ high ∧ high < 0xDC00 ∧ 0xDC00 ≤ low ∧ low < 0xE000 then
    some (Char.ofNat (0x10000 + (high - 0xD800) * 1024 + (low - 0xDC00)))
  else none

/-- The rest of a string whose opening quote has been read. -/
def readChars : List Char → Option (List Char × List Char)
  | [] => none
  | '"' :: rest => some ([], rest)
  | '\\' :: 'u' :: a :: b :: c :: d :: rest =>
    match hexUnit? a b c d with
    | none => none
    | some unit =>
      if 0xD800 ≤ unit ∧ unit < 0xE000 then
        match rest with
        | '\\' :: 'u' :: e :: f :: g :: h :: rest =>
          match (hexUnit? e f g h).bind (pair? unit) with
          | some char => (readChars rest).map fun (chars, rest) => (char :: chars, rest)
          | none => none
        | _ => none
      else (readChars rest).map fun (chars, rest) => (Char.ofNat unit :: chars, rest)
  | '\\' :: letter :: rest =>
    match escaped? letter with
    | some char => (readChars rest).map fun (chars, rest) => (char :: chars, rest)
    | none => none
  | char :: rest =>
    if char == '\\' || char < ' ' then none
    else (readChars rest).map fun (chars, rest) => (char :: chars, rest)

/-! Numbers -/

def readDigits (text : List Char) : Option (List Char × List Char) :=
  match text.takeWhile Char.isDigit with
  | [] => none
  | digits => some (digits, text.dropWhile Char.isDigit)

/-- The whole part: a single zero, or digits that start with another one. -/
def readWhole : List Char → Option (List Char × List Char)
  | '0' :: rest =>
    match rest with
    | next :: _ => if next.isDigit then none else some (['0'], rest)
    | [] => some (['0'], rest)
  | text => readDigits text

def readFraction : List Char → Option (Option (List Char) × List Char)
  | '.' :: rest => (readDigits rest).map fun (digits, rest) => (some digits, rest)
  | text => some (none, text)

def readSign : List Char → Bool × List Char
  | '-' :: rest => (true, rest)
  | '+' :: rest => (false, rest)
  | text => (false, text)

def readPower : List Char → Option (Option Int × List Char)
  | letter :: rest =>
    if letter == 'e' || letter == 'E' then
      let (negative, rest) := readSign rest
      (readDigits rest).map fun (digits, rest) =>
        let size : Int := Nat.ofDigitChars 10 digits 0
        (some (if negative then -size else size), rest)
    else some (none, letter :: rest)
  | [] => some (none, [])

def readNumber (text : List Char) : Option (Number × List Char) := do
  let (negative, rest) := match text with
    | '-' :: rest => (true, rest)
    | _ => (false, text)
  let (whole, rest) ← readWhole rest
  let (fraction, rest) ← readFraction rest
  let (power, rest) ← readPower rest
  return (← numberOf negative whole fraction power, rest)

/-! Values -/

mutual
/-- A value with the text behind it, given how many containers may still be opened. The fuel
decreases with every call and bounds the number of calls in a row. -/
def readValue (depth : Nat) : Nat → List Char → Option (Json × List Char)
  | 0, _ => none
  | fuel + 1, text =>
    match skipBlanks text with
    | 'n' :: 'u' :: 'l' :: 'l' :: rest => some (.null, rest)
    | 't' :: 'r' :: 'u' :: 'e' :: rest => some (.bool true, rest)
    | 'f' :: 'a' :: 'l' :: 's' :: 'e' :: rest => some (.bool false, rest)
    | '"' :: rest => (readChars rest).map fun (chars, rest) => (.string (.ofList chars), rest)
    | '[' :: rest =>
      match depth, skipBlanks rest with
      | 0, _ => none
      | _, ']' :: rest => some (.array [], rest)
      | depth + 1, rest => (readItems depth fuel rest).map fun (items, rest) => (.array items, rest)
    | '{' :: rest =>
      match depth, skipBlanks rest with
      | 0, _ => none
      | _, '}' :: rest => some (.object [], rest)
      | depth + 1, rest =>
        (readMembers depth fuel rest).map fun (members, rest) => (.object members, rest)
    | text => (readNumber text).map fun (value, rest) => (.number value, rest)

/-- The items of an array that is not empty, and its end. -/
def readItems (depth : Nat) : Nat → List Char → Option (List Json × List Char)
  | 0, _ => none
  | fuel + 1, text =>
    match readValue depth fuel text with
    | none => none
    | some (item, rest) =>
      match skipBlanks rest with
      | ',' :: rest => (readItems depth fuel rest).map fun (items, rest) => (item :: items, rest)
      | ']' :: rest => some ([item], rest)
      | _ => none

/-- The members of an object that is not empty, in the order of the text, and its end. -/
def readMembers (depth : Nat) : Nat → List Char → Option (List (String × Json) × List Char)
  | 0, _ => none
  | fuel + 1, text =>
    match skipBlanks text with
    | '"' :: rest =>
      match readChars rest with
      | none => none
      | some (key, rest) =>
        match skipBlanks rest with
        | ':' :: rest =>
          match readValue depth fuel rest with
          | none => none
          | some (value, rest) =>
            match skipBlanks rest with
            | ',' :: rest =>
              (readMembers depth fuel rest).map fun (members, rest) =>
                ((.ofList key, value) :: members, rest)
            | '}' :: rest => some ([(.ofList key, value)], rest)
            | _ => none
        | _ => none
    | _ => none
end

/-- How many containers may stand inside one another. -/
def maxDepth : Nat := 127

/-- The value of a whole text, with the members of its objects as they stand there. Between two
calls for values at least one character is taken, so twice the length is fuel enough. -/
def read? (text : String) : Option Json :=
  let chars := text.toList
  match readValue maxDepth (2 * chars.length + 2) chars with
  | some (value, rest) => if (skipBlanks rest).isEmpty then some value else none
  | none => none

/-- The value of a text, where of equal keys the last one counts. -/
def parse? (text : String) : Option Json :=
  (read? text).map canonical

end InterfaceSync.Json
