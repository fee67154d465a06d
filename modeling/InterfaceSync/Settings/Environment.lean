import InterfaceSync.Settings.Layer
import InterfaceSync.Text.Blank
import InterfaceSync.Text.Hex
import InterfaceSync.Text.Split

/-! Settings from environment variables. The name of a variable is a path of keys, and its value is
read as a truth value, a table, a list, a quoted text, a character or a number, or else taken as a
text. -/

namespace InterfaceSync.Environment

/-! Names -/

/-- What every name starts with, in any case of letters. -/
def marker : List Char := "nicconf_".toList

/-- Two low lines separate keys, as a dot does. -/
def markSeparators : List Char → List Char
  | '_' :: '_' :: rest => '.' :: markSeparators rest
  | c :: rest => c :: markSeparators rest
  | [] => []

/-- The path of keys of a name, if the variable is for settings. Blanks around the name, and around
what stands behind the marker, do not count, and no key is empty. -/
def path? (name : String) : Option (List String) :=
  let lower := (trimBlanks name.toList).map Char.toLower
  if marker.isPrefixOf lower then
    let text := trimBlanks (markSeparators (lower.drop marker.length))
    let keys := splitWhere (· == '.') text
    if keys.any (·.isEmpty) then none else some (keys.map String.ofList)
  else none

/-! Values -/

def isAsciiBlank (c : Char) : Bool :=
  c == ' ' || c == '\t' || c == '\n' || c == '\x0c' || c == '\r'

def skipBlanks (text : List Char) : List Char :=
  text.dropWhile isAsciiBlank

def isSeparator (c : Char) : Bool :=
  c == ',' || c == '\x7b' || c == '\x7d' || c == '[' || c == ']'

def isKeyChar (c : Char) : Bool :=
  c.isAlphanum || c == '_' || c == '-'

/-- What an escape of one letter stands for. -/
def escaped? : Char → Option Char
  | '"' => some '"'
  | '\\' => some '\\'
  | 'b' => some '\x08'
  | 'f' => some '\x0c'
  | 'n' => some '\n'
  | 'r' => some '\r'
  | 't' => some '\t'
  | _ => none

/-- Characters that a quoted text may hold unescaped. -/
def isQuotable (c : Char) : Bool :=
  c == '\t' || ' ' ≤ c && c != '\x7f'

/-- What stands in front of the closing quote and behind it. A quote behind a backslash closes
nothing. -/
def splitQuote? : List Char → Option (List Char × List Char)
  | [] => none
  | '"' :: rest => some ([], rest)
  | '\\' :: c :: rest => (splitQuote? rest).map fun (inner, rest) => ('\\' :: c :: inner, rest)
  | c :: rest => (splitQuote? rest).map fun (inner, rest) => (c :: inner, rest)

/-- A text whose escapes are resolved. -/
def unescape? : List Char → Option (List Char)
  | [] => some []
  | '\\' :: 'u' :: a :: b :: c :: d :: rest => do
    return (← Hex.char? [a, b, c, d]) :: (← unescape? rest)
  | '\\' :: 'U' :: a :: b :: c :: d :: e :: f :: g :: h :: rest => do
    return (← Hex.char? [a, b, c, d, e, f, g, h]) :: (← unescape? rest)
  | '\\' :: letter :: rest => do
    return (← escaped? letter) :: (← unescape? rest)
  | c :: rest => do
    if c == '\\' || !isQuotable c then none
    return c :: (← unescape? rest)

/-- The characters at the front of a text that fit into a number of bytes. -/
def takeBytes : Nat → List Char → List Char
  | _, [] => []
  | size, c :: rest => if c.utf8Size ≤ size then c :: takeBytes (size - c.utf8Size) rest else []

/-- A quoted text whose opening quote has been read, with what stands behind its end. Of what is in
front of the first escape, as many bytes are kept as it has characters. -/
def readQuoted (text : List Char) : Option (List Char × List Char) := do
  let (inner, rest) ← splitQuote? text
  let plain := inner.takeWhile (· != '\\')
  let escaped := inner.dropWhile (· != '\\')
  if !plain.all isQuotable then none
  let front := if escaped.isEmpty then plain else takeBytes plain.length plain
  return (front ++ (← unescape? escaped), rest)

/-- Whether a text is a number with a point: digits on at least one side of it, and perhaps an
exponent. -/
def isFraction (text : List Char) : Bool :=
  let unsigned (text : List Char) := match text with
    | '+' :: rest => rest
    | '-' :: rest => rest
    | rest => rest
  let body := unsigned text
  match body.dropWhile Char.isDigit with
  | '.' :: rest =>
    let whole := body.takeWhile Char.isDigit
    let places := rest.takeWhile Char.isDigit
    let power := match rest.dropWhile Char.isDigit with
      | [] => true
      | c :: rest =>
        let digits := unsigned rest
        (c == 'e' || c == 'E') && !digits.isEmpty && digits.all Char.isDigit
    !(whole.isEmpty && places.isEmpty) && power
  | _ => false

def whole? (text : List Char) : Option Int :=
  let (negative, digits) := match text with
    | '-' :: rest => (true, rest)
    | '+' :: rest => (false, rest)
    | rest => (false, rest)
  let size := Nat.ofDigitChars 10 digits 0
  if digits.isEmpty || !digits.all Char.isDigit then none
  else if negative then (if size ≤ 9223372036854775808 then some (-size) else none)
  else if size ≤ 18446744073709551615 then some size else none

def scalar (text : List Char) : Setting :=
  let text := trimBlanks text
  if text.contains '.' && isFraction text then .fraction
  else
    match whole? text with
    | some value => .whole value
    | none => .text (.ofList text)

mutual
/-- A value with the text behind it and the blanks around it. The fuel bounds the depth. -/
def readValue : Nat → List Char → Option (Setting × List Char)
  | 0, _ => none
  | fuel + 1, text => do
    let (value, rest) ← match skipBlanks text with
      | 't' :: 'r' :: 'u' :: 'e' :: rest => some (Setting.truth true, rest)
      | 'f' :: 'a' :: 'l' :: 's' :: 'e' :: rest => some (.truth false, rest)
      | '"' :: rest => (readQuoted rest).map fun (text, rest) => (.text (.ofList text), rest)
      | '\'' :: c :: rest =>
        match rest with
        | '\'' :: rest => some (.text (.ofList [c]), rest)
        | _ => none
      | ['\''] => none
      | '[' :: rest => (readItems fuel rest).map fun (items, rest) => (.list items, rest)
      | '\x7b' :: rest =>
        (readEntries fuel rest).map fun (entries, rest) => (.table (sortEntries entries), rest)
      | text => some (scalar (text.takeWhile (! isSeparator ·)), text.dropWhile (! isSeparator ·))
    return (value, skipBlanks rest)

/-- The items of a list and its end. A comma may stand behind the last item. -/
def readItems : Nat → List Char → Option (List Setting × List Char)
  | 0, _ => none
  | _, ']' :: rest => some ([], rest)
  | fuel + 1, text => do
    let (item, rest) ← readValue fuel text
    match rest with
    | ',' :: rest =>
      let (items, rest) ← readItems fuel rest
      return (item :: items, rest)
    | ']' :: rest => return ([item], rest)
    | _ => none

def readEntries : Nat → List Char → Option (List (String × Setting) × List Char)
  | 0, _ => none
  | _, '\x7d' :: rest => some ([], rest)
  | fuel + 1, text => do
    let (key, rest) ← match skipBlanks text with
      | '"' :: rest => readQuoted rest
      | text =>
        match text.takeWhile isKeyChar with
        | [] => none
        | key => some (key, text.dropWhile isKeyChar)
    match skipBlanks rest with
    | '=' :: rest =>
      let (value, rest) ← readValue fuel rest
      let entry := (String.ofList key, value)
      match rest with
      | ',' :: rest =>
        let (entries, rest) ← readEntries fuel rest
        return (entry :: entries, rest)
      | '\x7d' :: rest => return ([entry], rest)
      | _ => none
    | _ => none
end

/-- The value of a variable. A text that cannot be read to its end is taken as it stands. -/
def value (text : String) : Setting :=
  let chars := text.toList
  match readValue (2 * chars.length + 2) chars with
  | some (value, []) => value
  | _ => .text text

/-- The layer that some variables make up. Of two variables for the same key the later one
counts. -/
def layer (environment : List (String × String)) : Setting :=
  environment.foldl (fun layer (name, text) =>
    match path? name with
    | some path => layer.merge (.nested path (value text))
    | none => layer) (.table [])

end InterfaceSync.Environment
