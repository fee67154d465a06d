/-! Finite binary floating-point numbers of 64 bits, held exactly, and the rounding of a decimal to
the nearest of them. Nothing here uses machine arithmetic: a number is a sign, a whole mantissa and
a power of two, and rounding is division of whole numbers. -/

namespace InterfaceSync

/-- The number `digits * 10 ^ exponent`. -/
structure Decimal where
  digits : Nat
  exponent : Int
deriving DecidableEq, Repr

namespace Decimal

/-- Moves trailing zeros of the digits into the exponent, so that equal numbers become equal
decimals. Zero has exponent zero. -/
def trim (d : Decimal) : Decimal :=
  if h : d.digits = 0 then ⟨0, 0⟩
  else if d.digits % 10 = 0 then trim ⟨d.digits / 10, d.exponent + 1⟩
  else d
termination_by d.digits
decreasing_by omega

/-- How many decimal digits the whole number `digits` is written with. -/
def width (d : Decimal) : Nat :=
  (Nat.toDigits 10 d.digits).length

end Decimal

/-- The mantissas and exponents of finite numbers of 64 bits: 53 bits of precision, fewer only at
the smallest exponent. Each number has one such pair. -/
abbrev Binary64.Canonical (mantissa : Nat) (exponent : Int) : Prop :=
  mantissa < Nat.pow 2 53 ∧ -1074 ≤ exponent ∧ exponent ≤ 971 ∧
    (Nat.pow 2 52 ≤ mantissa ∨ exponent = -1074)

/-- The number `± mantissa * 2 ^ exponent`. Zero keeps its sign. -/
structure Binary64 where
  negative : Bool
  mantissa : Nat
  exponent : Int
  canonical : Binary64.Canonical mantissa exponent
deriving DecidableEq

namespace Binary64

/-- The zero of a sign. -/
def zero (negative : Bool) : Binary64 :=
  ⟨negative, 0, -1074, by decide⟩

instance : Inhabited Binary64 := ⟨zero false⟩

def isZero (x : Binary64) : Bool :=
  x.mantissa == 0

/-- Numbers compare by value, so the two zeros are the same number. -/
def same (x y : Binary64) : Bool :=
  x.isZero && y.isZero || x == y

/-- `numerator / denominator` to the nearest whole number, a tie to the even one. -/
def roundQuotient (numerator denominator : Nat) : Nat :=
  let quotient := numerator / denominator
  let twice := 2 * (numerator % denominator)
  if twice < denominator then quotient
  else if denominator < twice then quotient + 1
  else quotient + quotient % 2

/-- Numerator and denominator of `numerator / denominator / 2 ^ exponent`. -/
def scaled (numerator denominator : Nat) (exponent : Int) : Nat × Nat :=
  (numerator * Nat.pow 2 (-exponent).toNat, denominator * Nat.pow 2 exponent.toNat)

/-- The exponent at which the quotient of two positive numbers has 53 bits, or the smallest one.
The logarithms leave two candidates, told apart by the quotient itself. -/
def exponentOf (numerator denominator : Nat) : Int :=
  let low : Int := numerator.log2 - denominator.log2 - 53
  let (top, bottom) := scaled numerator denominator low
  max (-1074) (if top / bottom < Nat.pow 2 53 then low else low + 1)

/-- The number nearest to a quotient of positive numbers, if it is finite. Rounding up may reach
the next power of two, which is one exponent higher. -/
def ofQuotient? (negative : Bool) (numerator denominator : Nat) : Option Binary64 :=
  let exponent := exponentOf numerator denominator
  let (top, bottom) := scaled numerator denominator exponent
  let rounded := roundQuotient top bottom
  let (mantissa, exponent) :=
    if rounded = Nat.pow 2 53 then (Nat.pow 2 52, exponent + 1) else (rounded, exponent)
  if h : Canonical mantissa exponent then some ⟨negative, mantissa, exponent, h⟩ else none

/-- The number nearest to a decimal, or `none` if that is beyond the finite ones. Decimals far
outside the range of finite numbers are decided by their length alone, so that no power is taken
that the answer does not need. -/
def ofDecimal? (negative : Bool) (d : Decimal) : Option Binary64 :=
  if d.digits = 0 then some (zero negative)
  else
    let top : Int := d.width + d.exponent
    if top > 310 then none
    else if top < -330 then some (zero negative)
    else if 0 ≤ d.exponent then ofQuotient? negative (d.digits * Nat.pow 10 d.exponent.toNat) 1
    else ofQuotient? negative d.digits (Nat.pow 10 (-d.exponent).toNat)

/-- The number nearest to a product. -/
def times? (x y : Binary64) : Option Binary64 :=
  let exponent := x.exponent + y.exponent
  let negative := x.negative != y.negative
  if x.isZero || y.isZero then some (zero negative)
  else ofQuotient? negative (x.mantissa * y.mantissa * Nat.pow 2 exponent.toNat)
    (Nat.pow 2 (-exponent).toNat)

/-- The number nearest to a quotient. What is divided by zero is not finite. -/
def over? (x y : Binary64) : Option Binary64 :=
  let exponent := x.exponent - y.exponent
  let negative := x.negative != y.negative
  if y.isZero then none
  else if x.isZero then some (zero negative)
  else ofQuotient? negative (x.mantissa * Nat.pow 2 exponent.toNat)
    (y.mantissa * Nat.pow 2 (-exponent).toNat)

/-- All the digits of a number: `m * 2 ^ -k` is `m * 5 ^ k` shifted by `k` decimal places. -/
def toDecimal (x : Binary64) : Decimal :=
  if 0 ≤ x.exponent then Decimal.trim ⟨x.mantissa * Nat.pow 2 x.exponent.toNat, 0⟩
  else Decimal.trim ⟨x.mantissa * Nat.pow 5 (-x.exponent).toNat, x.exponent⟩

end Binary64

end InterfaceSync
