import InterfaceSync.Model.InterfaceConfig

/-! The configuration document: which interface has which configuration. Interfaces that were never
configured are absent. Documents are values, so a change gives a new one and earlier ones stay as
they were. -/

namespace InterfaceSync

structure Document where
  nics : NameMap InterfaceConfig
deriving Inhabited

namespace Document

def empty : Document := ⟨.empty⟩

def get? (document : Document) (ifname : Ifname) : Option InterfaceConfig :=
  document.nics.get? ifname

def contains (document : Document) (ifname : Ifname) : Bool :=
  document.nics.contains ifname

def size (document : Document) : Nat :=
  document.nics.size

def isEmpty (document : Document) : Bool :=
  document.nics.isEmpty

def ifnames (document : Document) : List Ifname :=
  document.nics.names

def entries (document : Document) : List (Ifname × InterfaceConfig) :=
  document.nics.entries

/-- The document in which `ifname` has the given configuration and every other one is kept. -/
def withConfig (document : Document) (ifname : Ifname) (config : InterfaceConfig) : Document :=
  ⟨document.nics.insert ifname config⟩

@[simp] theorem get?_empty (ifname : Ifname) : empty.get? ifname = none := rfl

theorem get?_withConfig (document : Document) (ifname other : Ifname) (config : InterfaceConfig) :
    (document.withConfig ifname config).get? other =
      if other = ifname then some config else document.get? other :=
  document.nics.get?_insert ifname other config

/-- Of entries with the same name the last one counts. -/
def ofEntries (entries : List (Ifname × InterfaceConfig)) : Document :=
  ⟨.ofList entries⟩

theorem get?_ofEntries (entries : List (Ifname × InterfaceConfig)) (ifname : Ifname) :
    (ofEntries entries).get? ifname = entries.reverse.lookup ifname :=
  NameMap.get?_ofList entries ifname

def sameEntries : List (Ifname × InterfaceConfig) → List (Ifname × InterfaceConfig) → Bool
  | [], [] => true
  | (n, a) :: as, (m, b) :: bs => n == m && a.same b && sameEntries as bs
  | _, _ => false

def same (first second : Document) : Bool :=
  sameEntries first.entries second.entries

/-- A document is displayed as the bare object of its entries. -/
def toJson (document : Document) : Json :=
  .object (document.entries.map fun (ifname, config) => (ifname, config.value))

/-- The document of a bare object; its values may be anything. -/
def ofJson? : Json → Option Document
  | .object members => some (ofEntries (members.map fun (name, value) => (name, .ofJson value)))
  | _ => none

end Document

end InterfaceSync
