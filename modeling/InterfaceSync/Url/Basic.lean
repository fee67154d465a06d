import InterfaceSync.Url.Host

/-! URLs in their normal form, and their text. -/

namespace InterfaceSync

/-- The path is a list of segments where the URL has a hierarchy, and one piece of text where it has
none, as in `mailto:a@b`. -/
inductive UrlPath
  | segments (segments : List (List Char))
  | text (text : List Char)
deriving DecidableEq, Repr

/-- What a scheme says about the rest of a URL. -/
inductive SchemeKind
  | special (defaultPort : Nat)
  | file
  | other
deriving DecidableEq, Repr

def SchemeKind.of (scheme : List Char) : SchemeKind :=
  match String.ofList scheme with
  | "http" => .special 80
  | "ws" => .special 80
  | "https" => .special 443
  | "wss" => .special 443
  | "ftp" => .special 21
  | "file" => .file
  | _ => .other

def SchemeKind.isSpecial : SchemeKind → Bool
  | .other => false
  | _ => true

/-- A URL in normal form: the scheme in lower case, no default port, no `.` and `..` segments, and
every part percent-encoded. Parts that are absent differ from parts that are empty. -/
structure Url where
  scheme : List Char
  username : List Char
  password : List Char
  host : Option Host
  port : Option Nat
  path : UrlPath
  query : Option (List Char)
  fragment : Option (List Char)
deriving DecidableEq, Repr

namespace Url

def credentialsText (url : Url) : List Char :=
  if url.username.isEmpty && url.password.isEmpty then []
  else if url.password.isEmpty then url.username ++ ['@']
  else url.username ++ ':' :: url.password ++ ['@']

def portText (url : Url) : List Char :=
  match url.port with
  | none => []
  | some port => ':' :: Nat.toDigits 10 port

/-- The text between the scheme and the path. A path that would read as a host is set off by a dot
segment. -/
def authorityText (url : Url) : List Char :=
  match url.host, url.path with
  | some host, _ => '/' :: '/' :: url.credentialsText ++ host.text ++ url.portText
  | none, .segments ([] :: _ :: _) => ['/', '.']
  | none, _ => []

def pathText (url : Url) : List Char :=
  match url.path with
  | .segments segments => segments.flatMap ('/' :: ·)
  | .text text => text

def suffixText (mark : Char) : Option (List Char) → List Char
  | none => []
  | some text => mark :: text

def chars (url : Url) : List Char :=
  url.scheme ++ ':' :: url.authorityText ++ url.pathText ++ suffixText '?' url.query ++
    suffixText '#' url.fragment

def text (url : Url) : String :=
  .ofList url.chars

/-- The URL as it is requested, without user name and password. They stay where there is no text to
take out: a name whose bytes are no text, or a password of that kind beside an empty name. -/
def withoutCredentials (url : Url) : Url :=
  match Percent.decode? url.username, Percent.decode? url.password with
  | none, _ => url
  | some [], none => url
  | some _, _ => { url with username := [], password := [] }

end Url

end InterfaceSync
