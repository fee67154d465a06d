import InterfaceSync.Decimal.Binary64
import InterfaceSync.NameMap

/-! JSON values. Members of an object are kept as a list, in the order of the text when a value has
just been read; `canonical` puts them in the order of their keys, and two values are compared in
that form. -/

namespace InterfaceSync

/-- The whole numbers that stay whole when read: unsigned ones of 64 bits, and the negative ones
among the signed ones of 64 bits. -/
abbrev Json.Whole (value : Int) : Prop :=
  -9223372036854775808 ≤ value ∧ value ≤ 18446744073709551615

/-- A number is whole or floating, as it was written; the two kinds are never equal. -/
inductive Json.Number
  | whole (value : Int) (fits : Json.Whole value)
  | float (value : Binary64)
deriving DecidableEq

namespace Json.Number

def same : Number → Number → Bool
  | .whole a _, .whole b _ => a == b
  | .float a, .float b => a.same b
  | _, _ => false

end Json.Number

inductive Json
  | null
  | bool (value : Bool)
  | number (value : Json.Number)
  | string (value : String)
  | array (items : List Json)
  | object (members : List (String × Json))
deriving Inhabited

namespace Json

/-- The object with the given members. -/
def ofMembers (members : List (String × Json)) : Json :=
  .object (sortEntries members)

mutual
/-- The same value with the members of every object, at every depth, sorted by key, and the last
one kept of members with equal keys. -/
def canonical : Json → Json
  | .array items => .array (canonicalItems items)
  | .object members => .object (sortEntries (canonicalMembers members))
  | .null => .null
  | .bool value => .bool value
  | .number value => .number value
  | .string value => .string value

def canonicalItems : List Json → List Json
  | [] => []
  | item :: rest => canonical item :: canonicalItems rest

def canonicalMembers : List (String × Json) → List (String × Json)
  | [] => []
  | (key, value) :: rest => (key, canonical value) :: canonicalMembers rest
end

mutual
/-- Equality of canonical values: numbers compare by value, so `0.0` equals `-0.0`, but never
across the two kinds of number. -/
def same : Json → Json → Bool
  | .null, .null => true
  | .bool a, .bool b => a == b
  | .number a, .number b => a.same b
  | .string a, .string b => a == b
  | .array a, .array b => sameItems a b
  | .object a, .object b => sameMembers a b
  | _, _ => false

def sameItems : List Json → List Json → Bool
  | [], [] => true
  | a :: as, b :: bs => same a b && sameItems as bs
  | _, _ => false

def sameMembers : List (String × Json) → List (String × Json) → Bool
  | [], [] => true
  | (k, a) :: as, (l, b) :: bs => k == l && same a b && sameMembers as bs
  | _, _ => false
end

def isNull : Json → Bool
  | .null => true
  | _ => false

/-- A top-level member of an object; other values have none. -/
def member? (field : String) : Json → Option Json
  | .object members => members.lookup field
  | _ => none

/-- The strings of an array that holds nothing else. -/
def strings? : Json → Option (List String)
  | .array items => items.mapM fun item => match item with
    | .string value => some value
    | _ => none
  | _ => none

end Json

end InterfaceSync
