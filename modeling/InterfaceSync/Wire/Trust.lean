import InterfaceSync.FileError
import InterfaceSync.Wire.Client
import InterfaceSync.Wire.Pem

/-! How a client is set up: where the API is, which certificates count, and how long a request may
take. A client comes about only if the certificates that it shall trust can be read. -/

namespace InterfaceSync

inductive TlsTrust
  | system
  /-- Those of the system and of the file at a path. -/
  | customCa (path : String)
  | anyCertificate
deriving DecidableEq, Repr

structure ClientSettings where
  apiBase : Url
  trust : TlsTrust
  /-- In seconds. -/
  timeout : Nat
deriving DecidableEq, Repr

namespace ClientSettings

/-- The root of the API on a development machine, `http://localhost:8000/api`. -/
def developmentBase : Url where
  scheme := "http".toList
  username := []
  password := []
  host := some (.domain "localhost".toList)
  port := some 8000
  path := .segments ["api".toList]
  query := none
  fragment := none

def development : ClientSettings :=
  ⟨developmentBase, .system, 30⟩

end ClientSettings

/-- Why the certificates of a file cannot be trusted, given what reading the file gave. -/
def trustFailure? (content : Except FileError String) : Option String :=
  match content with
  | .error error => some s!"failed to read CA cert: {error.message}"
  | .ok file =>
    if Pem.areCertificates file then none
    else some "failed to build HTTP client: builder error"

/-- The client for some settings. Only a file of certificates is looked at. -/
def Client.connect {m : Type → Type} [Monad m] (settings : ClientSettings)
    (readFile : String → m (Except FileError String)) : m (Except ApiError Client) :=
  match settings.trust with
  | .customCa path => do
    match trustFailure? (← readFile path) with
    | some reason => return .error (.tls reason)
    | none => return .ok ⟨settings.apiBase⟩
  | _ => pure (.ok ⟨settings.apiBase⟩)

end InterfaceSync
