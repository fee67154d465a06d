import InterfaceSync.Url.Basic

/-! Reading a URL. The text is cut at its marks from the outside in: scheme, fragment, query,
authority, path; each part is then brought into its normal form on its own. -/

namespace InterfaceSync.Url

/-- Blanks and control characters around a URL, and line breaks and tabs inside, do not count. -/
def clean (text : List Char) : List Char :=
  let blank (c : Char) := decide (c ≤ ' ')
  let trimmed := ((text.dropWhile blank).reverse.dropWhile blank).reverse
  trimmed.filter fun c => !(c == '\t' || c == '\n' || c == '\r')

def isSchemeChar (c : Char) : Bool :=
  c.isAlphanum || c == '+' || c == '-' || c == '.'

/-- The scheme in lower case, and what stands behind its colon. -/
def splitScheme? (text : List Char) : Option (List Char × List Char) :=
  match text, text.dropWhile isSchemeChar with
  | first :: _, ':' :: rest =>
    if first.isAlpha then some ((text.takeWhile isSchemeChar).map Char.toLower, rest) else none
  | _, _ => none

def splitMark (mark : Char) (text : List Char) : List Char × Option (List Char) :=
  match text.dropWhile (· != mark) with
  | [] => (text, none)
  | _ :: behind => (text.takeWhile (· != mark), some behind)

/-! Paths -/

def isSlash (kind : SchemeKind) (c : Char) : Bool :=
  c == '/' || kind.isSpecial && c == '\\'

def isSingleDot (segment : List Char) : Bool :=
  match String.ofList (segment.map Char.toLower) with
  | "." => true
  | "%2e" => true
  | _ => false

def isDoubleDot (segment : List Char) : Bool :=
  match String.ofList (segment.map Char.toLower) with
  | ".." => true
  | ".%2e" => true
  | "%2e." => true
  | "%2e%2e" => true
  | _ => false

/-- A letter with a colon or a bar, the name of a drive. -/
def isDrive : List Char → Bool
  | [letter, mark] => letter.isAlpha && (mark == ':' || mark == '|')
  | _ => false

/-- The segments without the last one. A drive is never left. -/
def parentSegments (segments : List (List Char)) : List (List Char) :=
  if segments.getLast?.any isDrive then segments else segments.dropLast

/-- Resolves the segments to come against those before them. A dot segment at the end leaves an
empty one, so that the path ends in a slash. -/
def resolveSegments (kind : SchemeKind) (before : List (List Char)) :
    List (List Char) → List (List Char)
  | [] => before
  | segment :: rest =>
    let close (segments : List (List Char)) := if rest.isEmpty then segments ++ [[]] else segments
    if isDoubleDot segment then resolveSegments kind (close (parentSegments before)) rest
    else if isSingleDot segment then resolveSegments kind (close before) rest
    else
      let encoded := Percent.encode Percent.path segment
      match kind, before, encoded with
      | .file, [], [letter, '|'] =>
        resolveSegments kind [if letter.isAlpha then [letter, ':'] else encoded] rest
      | _, _, _ => resolveSegments kind (before ++ [encoded]) rest

/-- The segments of a path; its leading slash, if it has one, opens the first segment. -/
def parseSegments (kind : SchemeKind) (text : List Char) : List (List Char) :=
  let inner := match text with
    | c :: rest => if isSlash kind c then rest else text
    | [] => []
  let segments := resolveSegments kind [] (splitWhere (isSlash kind) inner)
  match kind with
  | .file =>
    let rest := segments.dropWhile (·.isEmpty)
    if rest.isEmpty then [[]] else rest
  | _ => segments

/-! Authorities -/

/-- User name and password, and the text behind the last `@`. -/
def splitCredentials (text : List Char) : List Char × List Char × List Char :=
  match splitLast? (· == '@') text with
  | none => ([], [], text)
  | some (credentials, rest) =>
    let (username, password) := splitMark ':' credentials
    (Percent.encode Percent.userinfo username,
      Percent.encode Percent.userinfo (password.getD []), rest)

/-- The host and the text behind the colon of the port, where a colon in brackets is part of the
host. -/
def splitPort (text : List Char) : List Char × Option (List Char) :=
  go false text
where
  go (inside : Bool) : List Char → List Char × Option (List Char)
    | [] => ([], none)
    | c :: rest =>
      if c == ':' && !inside then ([], some rest)
      else
        let (host, port) := go (if c == '[' then true else if c == ']' then false else inside) rest
        (c :: host, port)

/-- The port, unless it is empty or the default one. -/
def parsePort (kind : SchemeKind) (digits : List Char) : Except UrlError (Option Nat) :=
  let port := Nat.ofDigitChars 10 digits 0
  if !digits.all Char.isDigit || 65535 < port then .error .invalidPort
  else if digits.isEmpty || kind = .special port then .ok none
  else .ok (some port)

structure Authority where
  username : List Char
  password : List Char
  host : Option Host
  port : Option Nat
  /-- What stands behind the port from a backslash on; it belongs to the path. -/
  behind : List Char

/-- An empty host is refused where the scheme needs one, and elsewhere beside credentials or a
port. Behind a lone `@` it is refused unless the text ends there. -/
def parseAuthority (kind : SchemeKind) (text : List Char) (atEnd : Bool) :
    Except UrlError Authority := do
  let (username, password, rest) := splitCredentials text
  let (hostText, portText) := splitPort rest
  if hostText.isEmpty then
    if kind.isSpecial || portText.isSome || !username.isEmpty || !password.isEmpty ||
        text == ['@'] && !atEnd then
      throw .emptyHost
    return ⟨[], [], some (.domain []), none, []⟩
  let host ← if kind.isSpecial then Host.parse hostText else Host.parseVerbatim hostText
  let isInPort (c : Char) : Bool := c != '\\'
  let port ← parsePort kind ((portText.getD []).takeWhile isInPort)
  let behind := (portText.getD []).dropWhile isInPort
  return { username, password, host := some host, port, behind }

/-- The authority at the front of a text, up to the next slash, and what stands behind it. -/
def splitAuthority (kind : SchemeKind) (text : List Char) : List Char × List Char :=
  (text.takeWhile (! isSlash kind ·), text.dropWhile (! isSlash kind ·))

/-- The host of a file. A drive is part of the path, and the local host is none. -/
def parseFileHost (text : List Char) : Except UrlError Host :=
  if text.isEmpty then .ok (.domain [])
  else
    match Host.parse text with
    | .ok (.domain name) => .ok (.domain (if name = "localhost".toList then [] else name))
    | other => other

/-- Host and path of a URL whose scheme is `file`. -/
def parseFile (text : List Char) : Except UrlError (Host × List (List Char)) :=
  match text with
  | a :: b :: rest =>
    if isSlash .file a && isSlash .file b then
      let (hostText, pathText) := splitAuthority .file rest
      if isDrive hostText then .ok (.domain [], parseSegments .file rest)
      else do
        let host ← parseFileHost hostText
        return (host, parseSegments .file pathText)
    else .ok (.domain [], parseSegments .file text)
  | _ => .ok (.domain [], parseSegments .file text)

def parseQuery (kind : SchemeKind) (query : List Char) : List Char :=
  Percent.encode (if kind.isSpecial then Percent.specialQuery else Percent.query) query

/-- The URL that a text denotes. There is no base, so a text without a scheme denotes none. -/
def parseChars (text : List Char) : Except UrlError Url := do
  let some (scheme, rest) := splitScheme? (clean text) | throw .relative
  let kind := SchemeKind.of scheme
  let (rest, fragment) := splitMark '#' rest
  let (rest, query) := splitMark '?' rest
  let query := query.map (parseQuery kind)
  let fragment := fragment.map (Percent.encode Percent.fragment)
  let bare : Url :=
    { scheme, username := [], password := [], host := none, port := none,
      path := .segments [], query, fragment }
  let withAuthority (text : List Char) : Except UrlError Url := do
    let (authorityText, pathText) := splitAuthority kind text
    let atEnd := pathText.isEmpty && query.isNone && fragment.isNone
    let authority ← parseAuthority kind authorityText atEnd
    let behind := authority.behind
    let pathText := if behind.isEmpty then pathText else '/' :: behind ++ pathText
    let segments :=
      if pathText.isEmpty && !kind.isSpecial then [] else parseSegments kind pathText
    return { bare with
      username := authority.username
      password := authority.password
      host := authority.host
      port := authority.port
      path := .segments segments }
  match kind, rest with
  | .special _, rest => withAuthority (rest.dropWhile (isSlash kind))
  | .file, rest => do
    let (host, segments) ← parseFile rest
    return { bare with host := some host, path := .segments segments }
  | .other, '/' :: '/' :: rest => withAuthority rest
  | .other, '/' :: rest => return { bare with path := .segments (parseSegments kind ('/' :: rest)) }
  | .other, rest => return { bare with path := .text (Percent.encode Percent.controls rest) }

def parse (text : String) : Except UrlError Url :=
  parseChars text.toList

end InterfaceSync.Url
