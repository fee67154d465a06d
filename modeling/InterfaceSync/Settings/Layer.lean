import InterfaceSync.NameMap

/-! Layers of settings before they are given a meaning. Files and variables both yield values of
this kind, and a layer is put on another one key by key. -/

namespace InterfaceSync

inductive Setting
  | text (value : String)
  | whole (value : Int)
  /-- A number that is not whole. No setting is one, so it is not kept. -/
  | fraction
  | truth (value : Bool)
  | list (items : List Setting)
  | table (entries : List (String × Setting))
deriving Inhabited

namespace Setting

mutual
/-- Puts an upper layer on a lower one. Tables are merged; anything else replaces what is below. -/
def merge (lower : Setting) : Setting → Setting
  | .table upper =>
    match lower with
    | .table lower => .table (mergeEntries lower upper)
    | _ => .table upper
  | .text value => .text value
  | .whole value => .whole value
  | .fraction => .fraction
  | .truth value => .truth value
  | .list items => .list items

def mergeEntries (lower : List (String × Setting)) :
    List (String × Setting) → List (String × Setting)
  | [] => lower
  | (key, upper) :: rest =>
    let value := match lower.lookup key with
      | some below => merge below upper
      | none => upper
    mergeEntries (insertEntry key value lower) rest
end

def nested (path : List String) (value : Setting) : Setting :=
  path.foldr (fun key value => .table [(key, value)]) value

end Setting

end InterfaceSync
