import InterfaceSync.Text.Split
import InterfaceSync.Wire.Client

/-! Requests and answers of plain HTTP as they go over a connection. A request asks for the
connection to be closed, so the body of its answer is all that follows the head, unless the head
says how long it is. -/

namespace InterfaceSync.Http

/-- What to read and where, with the port of plain HTTP unless the URL names another one. -/
structure Target where
  host : String
  port : Nat
  /-- The host as the URL names it. -/
  authority : String
  path : String
deriving DecidableEq, Repr

/-- Brackets around an address do not belong to it. -/
def hostName (host : Host) : String :=
  .ofList (host.text.filter fun c => c != '[' && c != ']')

def Target.ofUrl? (url : Url) : Option Target :=
  if url.scheme == "http".toList then
    url.host.map fun host =>
      ⟨hostName host, url.port.getD 80, .ofList (host.text ++ url.portText),
        .ofList (url.pathText ++ Url.suffixText '?' url.query)⟩
  else none

def Target.request (target : Target) : String :=
  s!"GET {target.path} HTTP/1.0\r\nHost: {target.authority}\r\nAccept: */*\r\n" ++
    "Connection: close\r\n\r\n"

/-- The lines of a head end with an empty one; behind it comes the body. -/
def splitHead? : List UInt8 → Option (List UInt8 × List UInt8)
  | 13 :: 10 :: 13 :: 10 :: body => some ([], body)
  | byte :: rest => (splitHead? rest).map fun (head, body) => (byte :: head, body)
  | [] => none

/-- The status in the first line of a head, behind the version. -/
def status? (head : List UInt8) : Option Nat :=
  let word := ((head.dropWhile (· != 32)).dropWhile (· == 32)).takeWhile (· != 32)
  let digits := (word.takeWhile (· != 13)).map fun byte => Char.ofNat byte.toNat
  if digits.length = 3 ∧ digits.all Char.isDigit then some (Nat.ofDigitChars 10 digits 0) else none

/-- How long the body is to be, if a line of the head says so. -/
def bodyLength? (head : List UInt8) : Option Nat :=
  let lines := splitWhere (· == '\n') (head.map fun byte => Char.ofNat byte.toNat)
  lines.findSome? fun line =>
    let (name, value) := line.span (· != ':')
    let digits := value.filter Char.isDigit
    if name.map Char.toLower == "content-length".toList && !digits.isEmpty then
      some (Nat.ofDigitChars 10 digits 0)
    else none

/-- What an answer comes to. One that ends in its head is none. -/
def exchange (bytes : ByteArray) : Exchange :=
  match splitHead? bytes.toList with
  | none => .closed
  | some (head, body) =>
    match status? head with
    | none => .closed
    | some status =>
      let length := (bodyLength? head).getD body.length
      if body.length < length then .cut status false
      else .answered status ((String.fromUTF8? ⟨(body.take length).toArray⟩).getD "")

end InterfaceSync.Http
