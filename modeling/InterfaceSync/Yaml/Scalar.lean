import InterfaceSync.Json.Reader

/-! Texts as YAML scalars. A text is written plainly if it then reads back as the same text; else it
is quoted, or written line by line if it has several lines. -/

namespace InterfaceSync.Yaml

/-! Words that mean something else than a text -/

def isNullWord (text : List Char) : Bool :=
  ["", "~", "null", "Null", "NULL"].contains (String.ofList text)

def isBoolWord (text : List Char) : Bool :=
  ["true", "True", "TRUE", "false", "False", "FALSE"].contains (String.ofList text)

def unsigned : List Char → List Char
  | '+' :: rest => rest
  | '-' :: rest => rest
  | text => text

/-- Infinity has a sign or none, and what is not a number has none. -/
def isSpecialNumber (text : List Char) : Bool :=
  [".inf", ".Inf", ".INF"].contains (String.ofList (unsigned text)) ||
    [".nan", ".NaN", ".NAN"].contains (String.ofList text)

/-- Whether a text is a whole number in base sixteen, eight or two that fits into 128 bits. -/
def isBasedNumber (text : List Char) : Bool :=
  let limit := match text with
    | '-' :: _ => Nat.pow 2 127 + 1
    | _ => Nat.pow 2 128
  let inBase (base : Nat) (digits : List Char) : Bool :=
    match digits.mapM Hex.digit? with
    | some values =>
      !values.isEmpty && values.all (· < base) &&
        values.foldl (fun total value => base * total + value) 0 < limit
    | none => false
  match unsigned text with
  | '0' :: 'x' :: digits => inBase 16 digits
  | '0' :: 'o' :: digits => inBase 8 digits
  | '0' :: 'b' :: digits => inBase 2 digits
  | _ => false

/-- Whether a text is a decimal within the range of floating-point numbers. There are digits on at
least one side of the point. -/
def isDecimal (text : List Char) : Bool :=
  let body := unsigned text
  let whole := body.takeWhile Char.isDigit
  let (places, rest) := match body.dropWhile Char.isDigit with
    | '.' :: rest => (rest.takeWhile Char.isDigit, rest.dropWhile Char.isDigit)
    | rest => ([], rest)
  match whole ++ places, Json.readPower rest with
  | [], _ => false
  | digits, some (power, []) =>
    let decimal : Decimal := ⟨Nat.ofDigitChars 10 digits 0, power.getD 0 - places.length⟩
    (Binary64.ofDecimal? false decimal.trim).isSome
  | _, _ => false

/-- A zero and further digits are no number for a reader, but may be taken for one. -/
def isZeroPadded (text : List Char) : Bool :=
  match unsigned text with
  | '0' :: digits => !digits.isEmpty && digits.all Char.isDigit
  | _ => false

/-- Whether a text could be taken for a value of another kind. -/
def isAmbiguous (text : List Char) : Bool :=
  isNullWord text || isBoolWord text || isSpecialNumber text || isBasedNumber text ||
    isDecimal text || isZeroPadded text

/-! Characters -/

def isBreak (c : Char) : Bool :=
  c == '\n' || c == '\u2028' || c == '\u2029'

def isBlank (c : Char) : Bool :=
  c == ' ' || c == '\t' || c == '\r' || c == '\x85' || c == '\x00' || isBreak c

/-- Characters that may stand in a file as they are. -/
def isPrintable (c : Char) : Bool :=
  c == '\n' || ' ' ≤ c && c ≤ '~' || '\xa0' ≤ c && c != '\ufeff' && c != '\ufffe' && c != '\uffff'

/-- Characters that cannot start a plain text. -/
def isIndicator (c : Char) : Bool :=
  "#,[]\x7b\x7d&*!|>'\"%@\x60".toList.contains c

/-! Styles -/

inductive Style
  | plain
  | singleQuoted
  | doubleQuoted
  | literal
deriving DecidableEq, Repr

def hasPair (first second : Char → Bool) : List Char → Bool
  | a :: b :: rest => first a && second b || hasPair first second (b :: rest)
  | _ => false

/-- The first and the last character of a text satisfy neither of the conditions. -/
def startsOrEnds (condition : Char → Bool) (text : List Char) : Bool :=
  text.head?.any condition || text.getLast?.any condition

/-- A text with one of these marks in it would read as something else if it were plain. -/
def hasMarks (text : List Char) : Bool :=
  let opening := match text with
    | '-' :: '-' :: '-' :: _ => true
    | '.' :: '.' :: '.' :: _ => true
    | c :: next =>
      isIndicator c || (c == '-' || c == '?' || c == ':') && next.head?.all isBlank
    | [] => false
  opening || hasPair (· == ':') isBlank text || text.getLast? == some ':' ||
    hasPair isBlank (· == '#') text

def isWritable (text : List Char) : Bool :=
  text.all isPrintable && !hasPair (· == ' ') isBreak text

def style (text : List Char) : Style :=
  if !isWritable text then .doubleQuoted
  else if text.contains '\n' then
    if text.getLast? == some ' ' then .doubleQuoted else .literal
  else if hasPair isBreak (· == ' ') text then .doubleQuoted
  else if isAmbiguous text || hasMarks text || text.any isBreak || startsOrEnds (· == ' ') text then
    .singleQuoted
  else .plain

/-! Writing -/

/-- A line at a column. -/
def margin (column : Nat) : List Char :=
  List.replicate column ' '

/-- The lines of a text, each from the given column on; empty lines are empty. -/
def writeLines (column : Nat) (atStart : Bool) : List Char → List Char
  | [] => []
  | c :: rest =>
    if isBreak c then c :: writeLines column true rest
    else if atStart then margin column ++ c :: writeLines column false rest
    else c :: writeLines column false rest

/-- A text between quotes, a quote inside written twice. -/
def writeSingleQuoted (column : Nat) (text : List Char) : List Char :=
  let doubled := text.flatMap fun c => if c == '\'' then ['\'', '\''] else [c]
  let ending := if text.getLast?.any isBreak then margin column else []
  '\'' :: writeLines column false doubled ++ ending ++ ['\'']

def hexDigits (count value : Nat) : List Char :=
  let digits := (Nat.toDigits 16 value).map Char.toUpper
  List.replicate (count - digits.length) '0' ++ digits

def escapeChar (c : Char) : List Char :=
  if c == '"' || c == '\\' then ['\\', c]
  else if isPrintable c && !isBreak c then [c]
  else
    '\\' :: match c with
      | '\x00' => ['0']
      | '\x07' => ['a']
      | '\x08' => ['b']
      | '\t' => ['t']
      | '\n' => ['n']
      | '\x0b' => ['v']
      | '\x0c' => ['f']
      | '\r' => ['r']
      | '\x1b' => ['e']
      | '\x85' => ['N']
      | '\u2028' => ['L']
      | '\u2029' => ['P']
      | c =>
        if c.toNat < 256 then 'x' :: hexDigits 2 c.toNat
        else if c.toNat < 65536 then 'u' :: hexDigits 4 c.toNat
        else 'U' :: hexDigits 8 c.toNat

def writeDoubleQuoted (text : List Char) : List Char :=
  '"' :: text.flatMap escapeChar ++ ['"']

/-- What stands above the lines of a text: whether they start with blanks, and what becomes of the
breaks at their end. -/
def literalHeader (text : List Char) : List Char :=
  let blanks := if text.head?.any fun c => c == ' ' || isBreak c then ['2'] else []
  let ending := match text.reverse with
    | last :: before =>
      if !isBreak last then ['-'] else if before.head?.all isBreak then ['+'] else []
    | [] => ['-']
  '|' :: blanks ++ ending

/-- The text of a scalar whose further lines start at the given column. -/
def writeText (column : Nat) (text : List Char) : List Char :=
  match style text with
  | .plain => text
  | .singleQuoted => writeSingleQuoted column text
  | .doubleQuoted => writeDoubleQuoted text
  | .literal => literalHeader text ++ '\n' :: writeLines column true text

end InterfaceSync.Yaml
