import InterfaceSync.Text.Hex

/-! Texts and keys of TOML files: how they are read, and in which of the quoted forms they are
written. Basic texts have escapes and literal ones have none; either may span lines in a form with
three quotes. -/

namespace InterfaceSync.Toml

/-! Reading -/

/-- Characters that may stand in a text as they are, quotes and backslashes apart. -/
def isPlain (c : Char) : Bool :=
  c == '\t' || ' ' ≤ c && c != '\x7f'

def isSpace (c : Char) : Bool :=
  c == ' ' || c == '\t'

def escaped? : Char → Option Char
  | '"' => some '"'
  | '\\' => some '\\'
  | 'b' => some '\x08'
  | 'f' => some '\x0c'
  | 'n' => some '\n'
  | 'r' => some '\r'
  | 't' => some '\t'
  | _ => none

def before (c : Char) : Option (List Char × List Char) → Option (List Char × List Char)
  | some (text, rest) => some (c :: text, rest)
  | none => none

def readBasic : List Char → Option (List Char × List Char)
  | [] => none
  | '"' :: rest => some ([], rest)
  | '\\' :: 'u' :: a :: b :: c :: d :: rest =>
    match Hex.char? [a, b, c, d] with
    | some char => before char (readBasic rest)
    | none => none
  | '\\' :: 'U' :: a :: b :: c :: d :: e :: f :: g :: h :: rest =>
    match Hex.char? [a, b, c, d, e, f, g, h] with
    | some char => before char (readBasic rest)
    | none => none
  | '\\' :: letter :: rest =>
    match escaped? letter with
    | some char => before char (readBasic rest)
    | none => none
  | c :: rest => if c != '\\' && isPlain c then before c (readBasic rest) else none

def readLiteral : List Char → Option (List Char × List Char)
  | [] => none
  | '\'' :: rest => some ([], rest)
  | c :: rest => if isPlain c then before c (readLiteral rest) else none

/-- Up to two quotes may stand directly in front of the three that end a text. -/
def endQuotes (quote : Char) : List Char → List Char × List Char
  | a :: b :: rest =>
    if a == quote && b == quote then ([quote, quote], rest)
    else if a == quote then ([quote], b :: rest)
    else ([], a :: b :: rest)
  | [a] => if a == quote then ([quote], []) else ([], [a])
  | [] => ([], [])

/-- Whether nothing but spaces stands in front of the end of the line. -/
def endsLine (text : List Char) : Bool :=
  match text.dropWhile isSpace with
  | '\n' :: _ => true
  | '\r' :: '\n' :: _ => true
  | _ => false

/-- A basic text of several lines behind its opening quotes. Behind a backslash at the end of a line
all blanks and line ends are left out, which `skipping` remembers. -/
def readLinesBasic (skipping : Bool) : List Char → Option (List Char × List Char)
  | [] => none
  | '"' :: '"' :: '"' :: rest => some (endQuotes '"' rest)
  | '\\' :: 'u' :: a :: b :: c :: d :: rest =>
    match Hex.char? [a, b, c, d] with
    | some char => before char (readLinesBasic false rest)
    | none => none
  | '\\' :: 'U' :: a :: b :: c :: d :: e :: f :: g :: h :: rest =>
    match Hex.char? [a, b, c, d, e, f, g, h] with
    | some char => before char (readLinesBasic false rest)
    | none => none
  | '\\' :: letter :: rest =>
    match escaped? letter with
    | some char => before char (readLinesBasic false rest)
    | none => if endsLine (letter :: rest) then readLinesBasic true (letter :: rest) else none
  | '\r' :: '\n' :: rest =>
    if skipping then readLinesBasic true rest else before '\n' (readLinesBasic false rest)
  | c :: rest =>
    if skipping && (isSpace c || c == '\n') then readLinesBasic true rest
    else if c == '\n' || c != '\\' && isPlain c then before c (readLinesBasic false rest)
    else none

/-- A literal text of several lines behind its opening quotes. -/
def readLinesLiteral : List Char → Option (List Char × List Char)
  | [] => none
  | '\'' :: '\'' :: '\'' :: rest => some (endQuotes '\'' rest)
  | '\r' :: '\n' :: rest => before '\n' (readLinesLiteral rest)
  | c :: rest => if c == '\n' || isPlain c then before c (readLinesLiteral rest) else none

/-- A line end directly behind opening quotes is not part of the text. -/
def dropLineEnd : List Char → List Char
  | '\n' :: rest => rest
  | '\r' :: '\n' :: rest => rest
  | text => text

def readText : List Char → Option (List Char × List Char)
  | '"' :: '"' :: '"' :: rest => readLinesBasic false (dropLineEnd rest)
  | '\'' :: '\'' :: '\'' :: rest => readLinesLiteral (dropLineEnd rest)
  | '"' :: rest => readBasic rest
  | '\'' :: rest => readLiteral rest
  | _ => none

def isBare (c : Char) : Bool :=
  c.isAlphanum || c == '_' || c == '-'

/-- A key, bare or quoted on one line. -/
def readKey : List Char → Option (List Char × List Char)
  | '"' :: rest => readBasic rest
  | '\'' :: rest => readLiteral rest
  | text =>
    match text.takeWhile isBare with
    | [] => none
    | key => some (key, text.dropWhile isBare)

/-! Writing -/

def isControl (c : Char) : Bool :=
  c != '\t' && c != '\n' && (c < ' ' || c == '\x7f')

def escapeChar (c : Char) : List Char :=
  if c == '"' then ['\\', '"']
  else if c == '\\' then ['\\', '\\']
  else if c == '\n' then ['\\', 'n']
  else if c == '\r' then ['\\', 'r']
  else if c == '\t' then ['\\', 't']
  else if c == '\x08' then ['\\', 'b']
  else if c == '\x0c' then ['\\', 'f']
  else if isControl c then
    ['\\', 'u', '0', '0', Hex.upperDigit (c.toNat / 16), Hex.upperDigit (c.toNat % 16)]
  else [c]

/-- The text between three basic quotes. Line ends are kept, and so are two quotes side by side, but
not a third one; `quotes` are the ones directly in front. -/
def escapeLines (quotes : Nat) : List Char → List Char
  | [] => []
  | c :: rest =>
    if c == '"' then
      if quotes < 2 then '"' :: escapeLines (quotes + 1) rest
      else '\\' :: '"' :: escapeLines 0 rest
    else if c == '\n' then '\n' :: escapeLines 0 rest
    else escapeChar c ++ escapeLines 0 rest

def longestRun (quote : Char) (text : List Char) : Nat :=
  (text.foldl (fun (longest, run) c =>
    if c == quote then (max longest (run + 1), run + 1) else (longest, 0)) (0, 0)).1

def writeBasic (text : List Char) : List Char :=
  '"' :: text.flatMap escapeChar ++ ['"']

def writeLiteral (text : List Char) : List Char :=
  '\'' :: text ++ ['\'']

/-- A text of several lines starts on a line of its own, and one line of text stands beside its
quotes. -/
def openLines (text : List Char) : List Char :=
  if text.contains '\n' then ['\n'] else []

def writeLinesBasic (text : List Char) : List Char :=
  "\"\"\"".toList ++ openLines text ++ escapeLines 0 text ++ "\"\"\"".toList

def writeLinesLiteral (text : List Char) : List Char :=
  "'''".toList ++ openLines text ++ text ++ "'''".toList

/-- Whether a form without escapes can hold a text on one line. -/
def fitsLine (text : List Char) : Bool :=
  !text.any fun c => c == '\n' || isControl c

/-- A text in the form that is easiest to read: without escapes where there is such a form, with
basic quotes before literal ones, and with one quote before three. -/
def writeText (text : List Char) : List Char :=
  let quotes := longestRun '"' text
  let apostrophes := longestRun '\'' text
  let clean := !text.any isControl
  if fitsLine text && quotes == 0 && !text.contains '\\' then writeBasic text
  else if fitsLine text && apostrophes == 0 then writeLiteral text
  else if clean && quotes ≤ 2 && !text.contains '\\' then writeLinesBasic text
  else if clean && apostrophes ≤ 2 then writeLinesLiteral text
  else if text.contains '\n' then writeLinesBasic text
  else writeBasic text

/-- A key is bare if it can be, and never spans lines. -/
def writeKey (key : List Char) : List Char :=
  if !key.isEmpty && key.all isBare then key
  else if fitsLine key && !key.contains '"' && !key.contains '\\' then writeBasic key
  else if fitsLine key && !key.contains '\'' then writeLiteral key
  else writeBasic key

end InterfaceSync.Toml
