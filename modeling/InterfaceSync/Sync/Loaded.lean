import InterfaceSync.Model.Document
import InterfaceSync.Wire.Payload

/-! What a successful load yields: the names without repetitions, in the order of the host, and the
document without the entries that hold nothing. -/

namespace InterfaceSync

structure Loaded where
  ifnames : List Ifname
  document : Document
deriving Inhabited

/-- The first occurrences of names that are not among `seen`. -/
def firstOccurrences (seen : List Ifname) : List Ifname → List Ifname
  | [] => []
  | name :: rest =>
    if name ∈ seen then firstOccurrences seen rest
    else name :: firstOccurrences (name :: seen) rest

/-- The occurrences that `firstOccurrences` leaves out, in their order. -/
def repeatedOccurrences (seen : List Ifname) : List Ifname → List Ifname
  | [] => []
  | name :: rest =>
    if name ∈ seen then name :: repeatedOccurrences seen rest
    else repeatedOccurrences (name :: seen) rest

namespace Payload

def nullNames (payload : Payload) : List Ifname :=
  (payload.nics.entries.filter (·.2.isNull)).map (·.1)

/-- The entries that are not `null`; an interface without one has the empty configuration. -/
def document (payload : Payload) : Document :=
  ⟨payload.nics.filterMap fun value => if h : value.isNull = false then some ⟨value, h⟩ else none⟩

end Payload

def Loaded.join (names : List String) (payload : Payload) : Loaded :=
  ⟨firstOccurrences [] names, payload.document⟩

end InterfaceSync
