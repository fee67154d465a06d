import InterfaceSync.Decimal.Binary64

/-! The shortest decimal that reads back as a given number, and its text. A candidate is accepted
only after it was read back, so whatever is chosen denotes the number; if no candidate of seventeen
digits did, all digits would be written. -/

namespace InterfaceSync

namespace Binary64

/-- A number that `x` is within one unit below, on the grid of multiples of `10 ^ place`. -/
def gridFloor (x : Binary64) (place : Int) : Nat :=
  let numerator := x.mantissa * Nat.pow 2 x.exponent.toNat * Nat.pow 10 (-place).toNat
  let denominator := Nat.pow 2 (-x.exponent).toNat * Nat.pow 10 place.toNat
  numerator / denominator

/-- Whether `x` lies in the upper half of its cell of that grid. -/
def aboveMiddle (x : Binary64) (place : Int) : Bool :=
  let numerator := x.mantissa * Nat.pow 2 x.exponent.toNat * Nat.pow 10 (-place).toNat
  let denominator := Nat.pow 2 (-x.exponent).toNat * Nat.pow 10 place.toNat
  decide (denominator < 2 * (numerator % denominator))

def readsBack (x : Binary64) (d : Decimal) : Bool :=
  decide (ofDecimal? x.negative d = some x)

/-- The neighbours of `x` on a grid that read back as `x`, the nearer one first. -/
def candidates (x : Binary64) (place : Int) : List Decimal :=
  let below := x.gridFloor place
  let near := if x.aboveMiddle place then [below + 1, below] else [below, below + 1]
  (near.map fun digits => Decimal.trim ⟨digits, place⟩).filter x.readsBack

/-- The first of the grids with `1, 2, …, 17` digits that holds a decimal for `x`. -/
def shortest (x : Binary64) : Decimal :=
  if x.isZero then ⟨0, 0⟩
  else
    let all := x.toDecimal
    let top : Int := all.width + all.exponent
    match (List.range 17).findSome? fun n : Nat => (x.candidates (top - (n + 1))).head? with
    | some d => d
    | none => all

end Binary64

/-- How a format writes the exponent of a number in scientific notation. -/
structure ExponentStyle where
  /-- Written before an exponent that is not negative. -/
  positiveSign : List Char

/-- A number is written positionally when the power of ten of its first digit is between `-5` and
`15`, with at least one digit on either side of the point; otherwise scientifically, as its digits
with a point after the first one and a power of ten. -/
def Binary64.text (style : ExponentStyle) (x : Binary64) : List Char :=
  let d := x.shortest
  let digits := Nat.toDigits 10 d.digits
  let lead : Int := digits.length + d.exponent - 1
  let sign := if x.negative then ['-'] else []
  if x.isZero then sign ++ ['0', '.', '0']
  else if -5 ≤ lead ∧ lead ≤ 15 then
    if 0 ≤ d.exponent then
      sign ++ digits ++ List.replicate d.exponent.toNat '0' ++ ['.', '0']
    else if 0 ≤ lead then
      sign ++ digits.take (lead.toNat + 1) ++ '.' :: digits.drop (lead.toNat + 1)
    else
      sign ++ '0' :: '.' :: List.replicate (-lead - 1).toNat '0' ++ digits
  else
    let point := if digits.length = 1 then digits else digits.take 1 ++ '.' :: digits.drop 1
    let power := if 0 ≤ lead then style.positiveSign else ['-']
    sign ++ point ++ 'e' :: power ++ Nat.toDigits 10 lead.natAbs

end InterfaceSync
