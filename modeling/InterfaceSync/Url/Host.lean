import InterfaceSync.Text.Split
import InterfaceSync.Url.Percent
import InterfaceSync.Url.Domain

/-! The host of a URL. Hosts of the special schemes are domains in their ASCII form or addresses;
those of other schemes are kept as they are written, apart from addresses in brackets. -/

namespace InterfaceSync

inductive UrlError
  | relative
  | emptyHost
  | invalidPort
  | invalidIpv4
  | invalidIpv6
  | invalidDomain
  | forbiddenHostChar
deriving DecidableEq, Repr

def UrlError.message : UrlError → String
  | .relative => "relative URL without a base"
  | .emptyHost => "empty host"
  | .invalidPort => "invalid port number"
  | .invalidIpv4 => "invalid IPv4 address"
  | .invalidIpv6 => "invalid IPv6 address"
  | .invalidDomain => "invalid international domain name"
  | .forbiddenHostChar => "invalid domain character"

inductive Host
  | domain (name : List Char)
  | ipv4 (address : Nat)
  | ipv6 (groups : List Nat)
deriving DecidableEq, Repr

namespace Host

/-! Addresses of four bytes -/

def isHex (c : Char) : Bool :=
  (Hex.digit? c).isSome

def isOctal (c : Char) : Bool :=
  '0' ≤ c && c ≤ '7'

def numberIn (base : Nat) (digits : List Char) : Nat :=
  digits.foldl (fun total c => base * total + (Hex.digit? c).getD 0) 0

/-- A part of an address: hexadecimal behind `0x`, octal behind another leading zero, else decimal.
A prefix without digits is zero. -/
def ipv4Number? (part : List Char) : Option Nat :=
  let inBase (base : Nat) (isDigit : Char → Bool) (digits : List Char) :=
    if digits.all isDigit then some (numberIn base digits) else none
  match part with
  | [] => none
  | '0' :: 'x' :: digits => inBase 16 isHex digits
  | '0' :: 'X' :: digits => inBase 16 isHex digits
  | '0' :: c :: digits => inBase 8 isOctal (c :: digits)
  | digits => inBase 10 Char.isDigit digits

/-- The parts of a dotted name; a final dot ends no further part. -/
def dottedParts (name : List Char) : List (List Char) :=
  let parts := splitWhere (· == '.') name
  if 1 < parts.length ∧ parts.getLast? = some [] then parts.dropLast else parts

/-- Whether a name is to be read as an address: its last part is a number. -/
def endsInNumber (name : List Char) : Bool :=
  match (dottedParts name).getLast? with
  | none => false
  | some last => (!last.isEmpty && last.all Char.isDigit) || (ipv4Number? last).isSome

/-- All parts but the last are one byte each, and the last one fills the bytes that remain. -/
def ipv4? (name : List Char) : Option Nat := do
  let parts := dottedParts name
  if 4 < parts.length then none
  let numbers ← parts.mapM ipv4Number?
  let bytes := numbers.dropLast
  let last := numbers.getLast?.getD 0
  if bytes.any (255 < ·) || Nat.pow 256 (4 - bytes.length) ≤ last then none
  return bytes.zipIdx.foldl (fun total (byte, i) => total + byte * Nat.pow 256 (3 - i)) last

def ipv4Text (address : Nat) : List Char :=
  let byte (i : Nat) := Nat.toDigits 10 (address / Nat.pow 256 i % 256)
  byte 3 ++ '.' :: byte 2 ++ '.' :: byte 1 ++ '.' :: byte 0

/-! Addresses of eight groups -/

def group? (part : List Char) : Option Nat :=
  if part.isEmpty || 4 < part.length || !part.all isHex then none else some (numberIn 16 part)

/-- A decimal byte without leading zeros. -/
def byte? (part : List Char) : Option Nat :=
  let value := numberIn 10 part
  if part.isEmpty || !part.all Char.isDigit || 255 < value then none
  else if 1 < part.length && part.head? == some '0' then none
  else some value

/-- The two groups of a dotted address at the end of a longer one. -/
def dottedGroups? (part : List Char) : Option (List Nat) := do
  match ← (splitWhere (· == '.') part).mapM byte? with
  | [a, b, c, d] => some [256 * a + b, 256 * c + d]
  | _ => none

/-- The groups of a text without `::`; only the last part may be dotted, and only where it ends the
address. -/
def groups? (dotted : Bool) (text : List Char) : Option (List Nat) :=
  if text.isEmpty then some []
  else
    let parts := splitWhere (· == ':') text
    let last := parts.getLast?.getD []
    if dotted && last.contains '.' then do
      return (← parts.dropLast.mapM group?) ++ (← dottedGroups? last)
    else parts.mapM group?

def splitGap? : List Char → Option (List Char × List Char)
  | ':' :: ':' :: rest => some ([], rest)
  | c :: rest => (splitGap? rest).map fun (before, behind) => (c :: before, behind)
  | [] => none

/-- Eight groups, or fewer with one `::` for at least one group of zeros. -/
def ipv6? (text : List Char) : Option (List Nat) := do
  match splitGap? text with
  | none =>
    let groups ← groups? true text
    if groups.length = 8 then some groups else none
  | some (before, behind) =>
    let before ← groups? false before
    let behind ← groups? true behind
    let gap := 8 - (before.length + behind.length)
    if gap = 0 then none else some (before ++ List.replicate gap 0 ++ behind)

/-- The first of the longest runs of zeros, as its start and length. -/
def longestGap (groups : List Nat) : Nat × Nat :=
  let runAt (i : Nat) := ((groups.drop i).takeWhile (· == 0)).length
  (List.range groups.length).foldl
    (fun best i => if best.2 < runAt i then (i, runAt i) else best) (0, 0)

/-- Groups in hexadecimal; the longest run of at least two zeros is left out. -/
def ipv6Text (groups : List Nat) : List Char :=
  let write (groups : List Nat) := [':'].intercalate (groups.map (Nat.toDigits 16))
  let (start, length) := longestGap groups
  if length < 2 then write groups
  else write (groups.take start) ++ ':' :: ':' :: write (groups.drop (start + length))

def text : Host → List Char
  | .domain name => name
  | .ipv4 address => ipv4Text address
  | .ipv6 groups => '[' :: ipv6Text groups ++ [']']

/-- The address in brackets that a text is, if it opens a bracket. -/
def bracketed? : List Char → Option (Except UrlError Host)
  | '[' :: rest =>
    some <|
      if rest.getLast? = some ']' then
        match ipv6? rest.dropLast with
        | some groups => .ok (.ipv6 groups)
        | none => .error .invalidIpv6
      else .error .invalidIpv6
  | _ => none

/-- The host of a special scheme. -/
def parse (text : List Char) : Except UrlError Host :=
  (bracketed? text).getD <|
    match (Percent.decode? text).bind Domain.toAscii? with
    | none => .error .invalidDomain
    | some [] => .error .emptyHost
    | some name =>
      if endsInNumber name then
        match ipv4? name with
        | some address => .ok (.ipv4 address)
        | none => .error .invalidIpv4
      else .ok (.domain name)

/-- The host of any other scheme. -/
def parseVerbatim (text : List Char) : Except UrlError Host :=
  (bracketed? text).getD <|
    if text.any ("\x00\t\n\r #/:<>?@[\\]^|".toList.contains ·) then .error .forbiddenHostChar
    else .ok (.domain (Percent.encode Percent.controls text))

end Host

end InterfaceSync
