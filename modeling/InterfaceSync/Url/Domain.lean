import InterfaceSync.Text.Split
import InterfaceSync.Url.DomainLabel

/-! The ASCII form of a domain name. Its characters are mapped and composed; then labels that have
characters outside ASCII are encoded. -/

namespace InterfaceSync.Domain

/-- Characters that no domain may hold in its ASCII form. -/
def isForbidden (c : Char) : Bool :=
  c ≤ ' ' || c == '\x7f' || "#/:<>?@[\\]^|%".toList.contains c

/-- The form in which a domain is requested, if it has one. -/
def toAscii? (name : List Char) : Option (List Char) := do
  let labels ← (splitWhere (· == '.') (← normalize? name)).mapM resolveLabel?
  if !labels.all isSound then none
  if labels.any (·.any runsLeft) && !labels.all runsOneWay then none
  let ascii := ['.'].intercalate (← labels.mapM labelToAscii?)
  if ascii.any isForbidden then none else some ascii

end InterfaceSync.Domain
