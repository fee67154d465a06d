import InterfaceSync.Text.Hex

/-! Percent encoding: characters of a set, and all outside ASCII, are written as the bytes of their
UTF-8 form. Each part of a URL has a set of its own. -/

namespace InterfaceSync.Percent

/-- Control characters and everything outside ASCII. -/
def controls (c : Char) : Bool :=
  c < ' ' || '~' < c

def fragment (c : Char) : Bool :=
  controls c || c == ' ' || c == '"' || c == '<' || c == '>' || c == '\x60'

def path (c : Char) : Bool :=
  fragment c || c == '#' || c == '?' || c == '\x7b' || c == '\x7d'

def userinfo (c : Char) : Bool :=
  path c || "/:;=@[\\]^|".toList.contains c

def query (c : Char) : Bool :=
  controls c || c == ' ' || c == '"' || c == '#' || c == '<' || c == '>'

/-- The set of the special schemes' queries. -/
def specialQuery (c : Char) : Bool :=
  query c || c == '\''

def encodeByte (byte : UInt8) : List Char :=
  ['%', Hex.upperDigit (byte.toNat / 16), Hex.upperDigit (byte.toNat % 16)]

def encodeChar (set : Char → Bool) (c : Char) : List Char :=
  if set c then (String.utf8EncodeChar c).flatMap encodeByte else [c]

def encode (set : Char → Bool) (text : List Char) : List Char :=
  text.flatMap (encodeChar set)

/-- The bytes that a text stands for. A percent sign that starts no escape stands for itself. -/
def bytes : List Char → List UInt8
  | [] => []
  | '%' :: high :: low :: rest =>
    match Hex.digit? high, Hex.digit? low with
    | some high, some low => .ofNat (16 * high + low) :: bytes rest
    | _, _ => 37 :: bytes (high :: low :: rest)
  | c :: rest => String.utf8EncodeChar c ++ bytes rest

/-- The text whose escapes are resolved, if the bytes are one. A text without percent signs is
itself. -/
def decode? (text : List Char) : Option (List Char) :=
  if text.contains '%' then
    (String.fromUTF8? ⟨(bytes text).toArray⟩).map String.toList
  else some text

end InterfaceSync.Percent
