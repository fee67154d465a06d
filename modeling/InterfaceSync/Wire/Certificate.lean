/-! Certificates that clients are to trust, in their encoding as bytes. An element of the encoding
is a tag, a length and its contents, and most contents are elements again. What is read must be
there, in order, and nothing else may follow it. -/

namespace InterfaceSync.Certificate

abbrev Reader := StateT (List Nat) Option

variable {α : Type}

def byte : Reader Nat
  | [] => none
  | first :: rest => some (first, rest)

/-- Lengths from here on are refused. -/
def lengthLimit : Nat := 65535

/-- The length of an element, in its shortest form. -/
def length : Reader Nat
  | 0x81 :: a :: rest => if 0x80 ≤ a then some (a, rest) else none
  | 0x82 :: a :: b :: rest =>
    let length := 256 * a + b
    if 0x100 ≤ length ∧ length < lengthLimit then some (length, rest) else none
  | a :: rest => if a < 0x80 then some (a, rest) else none
  | [] => none

def take (count : Nat) : Reader (List Nat) := fun bytes =>
  if count ≤ bytes.length then some (bytes.take count, bytes.drop count) else none

/-- The contents of the next element, which has the given tag. -/
def element (tag : Nat) : Reader (List Nat) := do
  if (← byte) ≠ tag then failure
  take (← length)

/-- What a reader makes of bytes that it reads to their end. -/
def whole? (reader : Reader α) (bytes : List Nat) : Option α :=
  match reader bytes with
  | some (value, []) => some value
  | _ => none

/-- Reads the contents of the next element to their end. -/
def inside (tag : Nat) (reader : Reader α) : Reader α := do
  StateT.lift (whole? reader (← element tag))

/-- Reads again and again, to the end of the bytes. Every reading takes some of them. -/
def many? (reader : Reader α) (bytes : List Nat) : Option (List α) :=
  if bytes.isEmpty then some []
  else
    match reader bytes with
    | none => none
    | some (value, rest) =>
      if rest.length < bytes.length then (many? reader rest).map (value :: ·) else none
termination_by bytes.length

/-! Tags -/

def truth : Nat := 0x01

def integer : Nat := 0x02

def bits : Nat := 0x03

def octets : Nat := 0x04

def identifier : Nat := 0x06

def sequence : Nat := 0x30

def versionTag : Nat := 0xA0

def extensionsTag : Nat := 0xA3

/-! Extensions -/

structure Extension where
  id : List Nat
  value : List Nat
deriving DecidableEq, Repr

/-- A mark that may be left out. It is not heeded, but it must be true or false. -/
def critical : Reader Unit := do
  if (← get).head? = some truth then
    let mark ← element truth
    if mark ≠ [0] ∧ mark ≠ [0xFF] then failure

def extension : Reader Extension :=
  inside sequence do
    let id ← element identifier
    critical
    return ⟨id, ← element octets⟩

def keyUsage : Nat := 15

/-- The numbers of the extensions that are looked at: what a key may be used for, other names, the
constraints on certificates and names below, lists of what is revoked, and purposes. -/
def knownNumbers : List Nat := [keyUsage, 17, 19, 30, 31, 37]

def Extension.known? (extension : Extension) : Option Nat :=
  match extension.id with
  | [0x55, 0x1D, number] => if knownNumbers.contains number then some number else none
  | _ => none

/-- Whether the value of an extension has the form that it should have. -/
def Extension.isSound (extension : Extension) : Bool :=
  match extension.known? with
  | none => true
  | some number => number == keyUsage || (whole? (element sequence) extension.value).isSome

/-- Extensions, none of the known ones twice. -/
def extensions : Reader Unit :=
  inside extensionsTag do
    let found ← StateT.lift (many? extension (← element sequence))
    if !found.all Extension.isSound || !decide (found.filterMap Extension.known?).Nodup then failure

/-! The certificate -/

def parties : Reader Unit := do
  discard (element sequence)
  discard (element sequence)
  discard (element sequence)
  discard (element sequence)

/-- The contents in their third version, which name the algorithm of the signature again. -/
def contents (algorithm : List Nat) : Reader Unit := do
  if (← inside versionTag (element integer)) ≠ [2] then failure
  discard (element integer)
  if (← element sequence) ≠ algorithm then failure
  parties
  if !(← get).isEmpty then extensions

/-- The contents in their first version, which has no extensions. -/
def firstContents : Reader Unit := do
  discard (element integer)
  discard (element sequence)
  parties

/-- The contents, the algorithm and the signature, all bits of which count. -/
def certificate : Reader Unit :=
  inside sequence do
    let encoded ← element sequence
    let algorithm ← element sequence
    if (← element bits).head? ≠ some 0 then failure
    if (whole? (contents algorithm) encoded).isNone && (whole? firstContents encoded).isNone then
      failure

/-- Whether some bytes are a certificate that can be trusted. -/
def isTrustworthy (bytes : List Nat) : Bool :=
  (whole? certificate bytes).isSome

end InterfaceSync.Certificate
