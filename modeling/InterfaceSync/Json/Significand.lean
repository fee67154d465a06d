import InterfaceSync.Json.Value

/-! The numbers that literals denote. The digits of a literal are collected in 64 bits, and those that
do not fit in any more count as places only. A floating number is what was collected, rounded, and
then multiplied or divided by a power of ten, where each step rounds again: so it is not always the
number nearest to the literal, and a literal close to the largest number may be refused. -/

namespace InterfaceSync.Json

/-- Appends digits to a number of 64 bits up to the first one that does not fit. -/
def collect : Nat → List Char → Nat × List Char
  | held, [] => (held, [])
  | held, digit :: rest =>
    let longer := 10 * held + (digit.toNat - '0'.toNat)
    if longer ≤ 18446744073709551615 then collect longer rest else (held, digit :: rest)

/-- The digits that are held of those before the point and behind it. All that are dropped before
the point are places; those that are dropped behind it are none. -/
def significand (whole places : List Char) : Decimal :=
  let (digits, dropped) := collect 0 whole
  let (digits, ignored) := collect digits places
  ⟨digits, dropped.length - (places.length - ignored.length : Int)⟩

def powerOfTen? (exponent : Nat) : Option Binary64 :=
  Binary64.ofDecimal? false ⟨1, exponent⟩

/-- A number times a power of ten. There are powers up to the 308th; what goes below them is divided
in several steps, and what goes above them is not finite. -/
def scale? (x : Binary64) (exponent : Int) : Option Binary64 :=
  if exponent < -308 then
    if x.isZero then some x
    else do scale? (← x.over? (← powerOfTen? 308)) (exponent + 308)
  else if exponent < 0 then do x.over? (← powerOfTen? exponent.natAbs)
  else if exponent ≤ 308 then do x.times? (← powerOfTen? exponent.natAbs)
  else if x.isZero then some x
  else none
termination_by (-exponent).toNat

/-- The floating number of a significand and a written power. A power beyond 32 bits is not added
up: it decides by its sign alone. -/
def floating? (negative : Bool) (held : Decimal) (power : Int) : Option Binary64 :=
  if 2147483647 < power.natAbs then
    if 0 < power ∧ held.digits ≠ 0 then none else some (.zero negative)
  else do scale? (← Binary64.ofDecimal? negative ⟨held.digits, 0⟩) (held.exponent + power)

/-- The number that a literal denotes. Without point and exponent it is whole if it fits, except
that minus zero is floating. -/
def numberOf (negative : Bool) (whole : List Char) (fraction : Option (List Char))
    (power : Option Int) : Option Number :=
  let held := significand whole (fraction.getD [])
  let value : Int := if negative then -held.digits else held.digits
  let float := (floating? negative held (power.getD 0)).map Number.float
  match fraction, power with
  | none, none =>
    if h : Whole value ∧ held.exponent = 0 ∧ ¬(negative ∧ held.digits = 0) then
      some (.whole value h.1)
    else float
  | _, _ => float

end InterfaceSync.Json
