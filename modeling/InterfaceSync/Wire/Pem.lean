import InterfaceSync.Text.Split
import InterfaceSync.Wire.Certificate

/-! Files of certificates: labelled sections of base64 between a `BEGIN` and an `END` line. Text
outside the sections is ignored. -/

namespace InterfaceSync.Pem

def sextet? (c : Char) : Option Nat :=
  if 'A' ≤ c ∧ c ≤ 'Z' then some (c.toNat - 65)
  else if 'a' ≤ c ∧ c ≤ 'z' then some (c.toNat - 71)
  else if '0' ≤ c ∧ c ≤ '9' then some (c.toNat + 4)
  else if c = '+' then some 62
  else if c = '/' then some 63
  else none

def oneByte? (a b : Char) : Option (List Nat) := do
  return [4 * (← sextet? a) + (← sextet? b) / 16]

def twoBytes? (a b c : Char) : Option (List Nat) := do
  let (b, c) := (← sextet? b, ← sextet? c)
  return [4 * (← sextet? a) + b / 16, b % 16 * 16 + c / 4]

/-- The bytes of a text without blanks. Only the last group of four may be padded or cut short. -/
def decodeBase64? : List Char → Option (List Nat)
  | [] => some []
  | [a, b] => oneByte? a b
  | [a, b, c] => twoBytes? a b c
  | [a, b, '=', '='] => oneByte? a b
  | [a, b, c, '='] => twoBytes? a b c
  | a :: b :: c :: d :: rest => do
    let (b, c) := (← sextet? b, ← sextet? c)
    let bytes := [4 * (← sextet? a) + b / 16, b % 16 * 16 + c / 4, c % 4 * 64 + (← sextet? d)]
    return bytes ++ (← decodeBase64? rest)
  | _ => none

structure Section where
  label : List Char
  bytes : List Nat
deriving DecidableEq, Repr

/-- Labels of the sections that are read; others are passed over. -/
def isKnown (label : List Char) : Bool :=
  ["CERTIFICATE", "PUBLIC KEY", "RSA PRIVATE KEY", "PRIVATE KEY", "EC PRIVATE KEY", "X509 CRL",
    "CERTIFICATE REQUEST", "ECHCONFIG"].contains (String.ofList label)

def after? (front text : List Char) : Option (List Char) :=
  if front.isPrefixOf text then some (text.drop front.length) else none

/-- The label of a line that opens a section. Behind it come five dashes, with blanks anywhere
between and behind them. -/
def label? (rest : List Char) : Option (List Char) :=
  let ending := (rest.reverse.takeWhile fun c => c == '-' || c == ' ').reverse
  let dashes := ending.dropWhile (· == ' ')
  if dashes.count '-' = 5 then some (rest.take (rest.length - dashes.length)) else none

def isFiller (c : Char) : Bool :=
  c == ' ' || c == '\t' || c == '\x0b' || c == '\x0c'

/-- The sections of the lines of a file; `none` where a line or the base64 is malformed, or the
last section has no end. `inside` is the label and the lines of the section that is open, the last
line first. Where another one opens before its end, its lines count as lines of that one. -/
def sectionsFrom (inside : Option (List Char × List (List Char))) :
    List (List Char) → Option (List Section)
  | [] => if inside.isSome then none else some []
  | line :: lines =>
    match after? "-----BEGIN ".toList line, inside with
    | some rest, _ =>
      match label? rest with
      | some label => sectionsFrom (some (label, (inside.map (·.2)).getD [])) lines
      | none => none
    | none, none => sectionsFrom none lines
    | none, some (label, before) =>
      if ("-----END ".toList ++ label ++ "-----".toList).isPrefixOf line then
        if isKnown label then do
          let bytes ← decodeBase64? (before.reverse.flatten.filter (! isFiller ·))
          return ⟨label, bytes⟩ :: (← sectionsFrom none lines)
        else sectionsFrom none lines
      else sectionsFrom (some (label, line :: before)) lines

def sections? (file : String) : Option (List Section) :=
  sectionsFrom none (splitWhere (fun c => c == '\n' || c == '\r') file.toList)

/-- Whether every certificate of a file can be trusted, of which there may be none. -/
def areCertificates (file : String) : Bool :=
  match sections? file with
  | none => false
  | some sections =>
    (sections.filter (·.label == "CERTIFICATE".toList)).all (Certificate.isTrustworthy ·.bytes)

end InterfaceSync.Pem
