import InterfaceSync.Decimal.Binary64

/-! Numbers and dates of TOML files. Only whole numbers are kept; the others are told apart from
what is no value at all. -/

namespace InterfaceSync.Toml

/-- Digits with single low lines between them, at least one digit. -/
def readDigits (isDigit : Char → Bool) : List Char → Option (List Char × List Char)
  | [] => none
  | c :: rest => if isDigit c then some (go [c] rest) else none
where
  go (digits : List Char) : List Char → List Char × List Char
    | '_' :: c :: rest =>
      if isDigit c then go (c :: digits) rest else (digits.reverse, '_' :: c :: rest)
    | c :: rest => if isDigit c then go (c :: digits) rest else (digits.reverse, c :: rest)
    | [] => (digits.reverse, [])

def isHexDigit (c : Char) : Bool :=
  c.isDigit || 'a' ≤ c && c ≤ 'f' || 'A' ≤ c && c ≤ 'F'

def isOctalDigit (c : Char) : Bool :=
  '0' ≤ c && c ≤ '7'

def isBinaryDigit (c : Char) : Bool :=
  c == '0' || c == '1'

def digitValue (c : Char) : Nat :=
  if c.isDigit then c.toNat - 48 else if c.isUpper then c.toNat - 55 else c.toNat - 87

def valueIn (base : Nat) (digits : List Char) : Nat :=
  digits.foldl (fun total c => base * total + digitValue c) 0

/-- Whole numbers have 64 bits with a sign. -/
def bounded? (value : Int) : Option Int :=
  if -9223372036854775808 ≤ value ∧ value ≤ 9223372036854775807 then some value else none

/-- The digits of a decimal number, where only zero starts with a zero. -/
def readWholeDigits : List Char → Option (List Char × List Char)
  | '0' :: rest => some (['0'], rest)
  | text => readDigits Char.isDigit text

def readSign : List Char → Bool × List Char
  | '-' :: rest => (true, rest)
  | '+' :: rest => (false, rest)
  | text => (false, text)

/-- What a number turned out to be. -/
inductive Numeral
  | whole (value : Int)
  | fraction
deriving DecidableEq, Repr

def readBased (base : Nat) (isDigit : Char → Bool) (text : List Char) :
    Option (Numeral × List Char) := do
  let (digits, rest) ← readDigits isDigit text
  return (.whole (← bounded? (valueIn base digits)), rest)

def readPlaces : List Char → Option (Option (List Char) × List Char)
  | '.' :: rest => (readDigits Char.isDigit rest).map fun (digits, rest) => (some digits, rest)
  | text => some (none, text)

def readPower : List Char → Option (Option Int × List Char)
  | c :: rest =>
    if c == 'e' || c == 'E' then
      let (negative, rest) := readSign rest
      (readDigits Char.isDigit rest).map fun (digits, rest) =>
        let size : Int := valueIn 10 digits
        (some (if negative then -size else size), rest)
    else some (none, c :: rest)
  | [] => some (none, [])

/-- A decimal number. One with a point or a power is refused if it lies above the finite ones. -/
def readDecimal (text : List Char) : Option (Numeral × List Char) := do
  let (negative, rest) := readSign text
  let (digits, rest) ← readWholeDigits rest
  let (places, rest) ← readPlaces rest
  let (power, rest) ← readPower rest
  match places, power with
  | none, none =>
    let size : Int := valueIn 10 digits
    return (.whole (← bounded? (if negative then -size else size)), rest)
  | _, _ =>
    let fraction := places.getD []
    let value : Decimal :=
      ⟨valueIn 10 (digits ++ fraction), power.getD 0 - (fraction.length : Int)⟩
    if negative || (Binary64.ofDecimal? false value.trim).isSome then return (.fraction, rest)
    else none

def readNumber (text : List Char) : Option (Numeral × List Char) :=
  match text with
  | '0' :: 'x' :: rest => readBased 16 isHexDigit rest
  | '0' :: 'o' :: rest => readBased 8 isOctalDigit rest
  | '0' :: 'b' :: rest => readBased 2 isBinaryDigit rest
  | _ =>
    match (readSign text).2 with
    | 'i' :: 'n' :: 'f' :: rest => some (.fraction, rest)
    | 'n' :: 'a' :: 'n' :: rest => some (.fraction, rest)
    | _ => readDecimal text

/-! Dates and times -/

/-- A number of exactly `count` digits between two bounds. -/
def readField (count low high : Nat) (text : List Char) : Option (Nat × List Char) :=
  let digits := text.take count
  let value := valueIn 10 digits
  if digits.length = count ∧ digits.all Char.isDigit ∧ low ≤ value ∧ value ≤ high then
    some (value, text.drop count)
  else none

def expect (mark : Char) : List Char → Option (List Char)
  | c :: rest => if c == mark then some rest else none
  | [] => none

def isLeapYear (year : Nat) : Bool :=
  year % 4 == 0 && (year % 100 != 0 || year % 400 == 0)

def daysIn (year month : Nat) : Nat :=
  match month with
  | 2 => if isLeapYear year then 29 else 28
  | 4 => 30
  | 6 => 30
  | 9 => 30
  | 11 => 30
  | _ => 31

def skipDate? (text : List Char) : Option (List Char) := do
  let (year, rest) ← readField 4 0 9999 text
  let (month, rest) ← readField 2 1 12 (← expect '-' rest)
  let (_, rest) ← readField 2 1 (daysIn year month) (← expect '-' rest)
  return rest

def skipTime? (text : List Char) : Option (List Char) := do
  let (_, rest) ← readField 2 0 23 text
  let (_, rest) ← readField 2 0 59 (← expect ':' rest)
  let (_, rest) ← readField 2 0 60 (← expect ':' rest)
  match rest with
  | '.' :: c :: places =>
    if c.isDigit then return places.dropWhile Char.isDigit else none
  | '.' :: [] => none
  | rest => return rest

def skipOffset? : List Char → Option (List Char)
  | 'Z' :: rest => some rest
  | 'z' :: rest => some rest
  | c :: rest =>
    if c == '+' || c == '-' then do
      let (_, rest) ← readField 2 0 23 rest
      let (_, rest) ← readField 2 0 59 (← expect ':' rest)
      return rest
    else some (c :: rest)
  | [] => some []

/-- Whether a text starts like a date or a time of day, and not like a number. -/
def startsMoment (text : List Char) : Bool :=
  match text with
  | a :: b :: c :: d :: e :: _ =>
    a.isDigit && b.isDigit && (c == ':' || c.isDigit && d.isDigit && e == '-')
  | a :: b :: c :: _ => a.isDigit && b.isDigit && c == ':'
  | _ => false

def skipMoment? (text : List Char) : Option (List Char) :=
  match text with
  | _ :: _ :: ':' :: _ => skipTime? text
  | _ => do
    match ← skipDate? text with
    | c :: next :: rest =>
      if c == 'T' || c == 't' then skipOffset? (← skipTime? (next :: rest))
      else if c == ' ' && next.isDigit then skipOffset? (← skipTime? (next :: rest))
      else return c :: next :: rest
    | [c] => if c == 'T' || c == 't' then none else return [c]
    | [] => return []

end InterfaceSync.Toml
