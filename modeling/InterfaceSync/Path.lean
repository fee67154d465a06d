import InterfaceSync.Text.Split

/-! Paths of files, as texts with slashes between the names. -/

namespace InterfaceSync.Path

def isAbsolute (path : String) : Bool :=
  path.startsWith "/"

/-- A path below a directory. An absolute path stays as it is. -/
def join (directory path : String) : String :=
  if isAbsolute path || directory.isEmpty then path
  else if directory.endsWith "/" then directory ++ path
  else directory ++ "/" ++ path

def names (path : String) : List String :=
  ((splitWhere (· == '/') path.toList).filter (! ·.isEmpty)).map String.ofList

/-- The names of the directory that a path is in. A dot that stands for a directory itself is no
name. -/
def parentNames (path : String) : List String :=
  ((names path).filter (· != ".")).dropLast

/-- The directory that a path is in, if the path names one. -/
def parent? (path : String) : Option String :=
  match names path, parentNames path with
  | [], _ => none
  | _, [] => if isAbsolute path then some "/" else none
  | _, around => some ((if isAbsolute path then "/" else "") ++ "/".intercalate around)

end InterfaceSync.Path
