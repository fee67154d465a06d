import InterfaceSync.Settings.Layer

/-! Tables while a file is being read. A table may be opened once by its own header, may come about
before that as the parent of another one, and may be spelled out by dotted keys; which of these made
it decides what may still be added. -/

namespace InterfaceSync.Toml

inductive Origin
  /-- By its own header. -/
  | header
  /-- As the parent of a table with a header. -/
  | parent
  /-- By a dotted key. -/
  | dotted
deriving DecidableEq, Repr

inductive Node
  /-- A value that is complete. -/
  | value (setting : Setting)
  | table (origin : Origin) (entries : List (String × Node))
  /-- An array of tables, of which the newest one is open. -/
  | tables (closed : List (List (String × Node))) (newest : List (String × Node))
deriving Inhabited

abbrev Entries := List (String × Node)

namespace Node

mutual
/-- What a node says once the file has ended. -/
def close : Node → Setting
  | .value setting => setting
  | .table _ entries => .table (closeEntries entries)
  | .tables closed newest => .list (closeAll closed ++ [.table (closeEntries newest)])

def closeEntries : List (String × Node) → List (String × Setting)
  | [] => []
  | (key, node) :: rest => (key, close node) :: closeEntries rest

def closeAll : List (List (String × Node)) → List Setting
  | [] => []
  | entries :: rest => .table (closeEntries entries) :: closeAll rest
end

def changeOpen (change : Entries → Option Entries) : Node → Option Node
  | .value _ => none
  | .table origin entries => (change entries).map (.table origin)
  | .tables closed newest => (change newest).map (.tables closed)

end Node

/-- Applies a change to the node at the end of a path, going through newest tables and making the
tables on the way that are not there yet. -/
def changeAt (change : Option Node → Option Node) : List String → Entries → Option Entries
  | [], _ => none
  | [key], entries => do return insertEntry key (← change (entries.lookup key)) entries
  | key :: rest, entries => do
    let node := (entries.lookup key).getD (.table .parent [])
    return insertEntry key (← node.changeOpen (changeAt change rest)) entries

/-- The header of a table: it must not have been opened before. -/
def openTable (path : List String) (root : Entries) : Option Entries :=
  changeAt (fun
    | none => some (.table .header [])
    | some (.table .parent entries) => some (.table .header entries)
    | _ => none) path root

def openItem (path : List String) (root : Entries) : Option Entries :=
  changeAt (fun
    | none => some (.tables [] [])
    | some (.tables closed newest) => some (.tables (closed ++ [newest]) [])
    | _ => none) path root

/-- The tables that a dotted key may go through. -/
def Node.isOpenToKeys : Node → Bool
  | .table .header _ => false
  | .value _ => false
  | _ => true

/-- Whether a node was spelled out by dotted keys alone. -/
def Node.isDotted : Node → Bool
  | .table .dotted _ => true
  | _ => false

/-- Puts a value behind a dotted key into some entries. No key is given twice, and the last table on
the way must have been made by dotted keys. -/
def assign (value : Setting) : List String → Entries → Option Entries
  | [], _ => none
  | [key], entries =>
    if (entries.lookup key).isSome then none else some (insertEntry key (.value value) entries)
  | key :: rest, entries =>
    let node := (entries.lookup key).getD (.table .dotted [])
    if node.isOpenToKeys && (rest.length != 1 || node.isDotted) then do
      return insertEntry key (← node.changeOpen (assign value rest)) entries
    else none

def changeTable (header : List String) (change : Entries → Option Entries) (root : Entries) :
    Option Entries :=
  if header.isEmpty then change root
  else changeAt (fun node => node.bind (·.changeOpen change)) header root

end InterfaceSync.Toml
