import InterfaceSync.Json.Significand
import InterfaceSync.Proofs.ShortestDecimal

/-! Where the reader's arithmetic is exact. Rounding depends on the value alone, not on how a quotient
is written, so a step that starts from exact numbers rounds once. Digits below `2 ^ 53` are exact, and
so are the powers of ten up to the 22nd: a literal of such digits and such a power is read as the
number nearest to it. -/

namespace InterfaceSync

namespace Binary64

private theorem roundQuotient_scale (numerator denominator : Nat) {factor : Nat} (positive : 0 < factor) :
    roundQuotient (numerator * factor) (denominator * factor) = roundQuotient numerator denominator := by
  simp only [roundQuotient, Nat.mul_div_mul_right _ _ positive, Nat.mul_mod_mul_right, ← mul_assoc,
    Nat.mul_lt_mul_right positive]

private theorem roundQuotient_congr {numerator denominator numerator' denominator' : Nat}
    (positive : denominator ≠ 0) (positive' : denominator' ≠ 0)
    (same : (numerator : ℚ) / denominator = numerator' / denominator') :
    roundQuotient numerator denominator = roundQuotient numerator' denominator' := by
  rw [div_eq_div_iff (by exact_mod_cast positive) (by exact_mod_cast positive')] at same
  have crossed : numerator * denominator' = numerator' * denominator := by exact_mod_cast same
  calc roundQuotient numerator denominator
      = roundQuotient (numerator * denominator') (denominator * denominator') :=
        (roundQuotient_scale _ _ (Nat.pos_of_ne_zero positive')).symm
    _ = roundQuotient (numerator' * denominator) (denominator' * denominator) := by
        rw [crossed, mul_comm denominator]
    _ = roundQuotient numerator' denominator' :=
        roundQuotient_scale _ _ (Nat.pos_of_ne_zero positive)

private theorem exponent_le {value : ℚ} {first second : Int} (upper : value / 2 ^ first < 2 ^ (53 : Int))
    (lower : (2 : ℚ) ^ (52 : Int) ≤ value / 2 ^ second) : second ≤ first := by
  by_contra beyond
  rw [div_lt_iff₀ (by positivity)] at upper
  rw [le_div_iff₀ (by positivity)] at lower
  have steps : (2 : ℚ) ^ (53 : Int) * 2 ^ first ≤ 2 ^ (52 : Int) * 2 ^ second := by
    rw [← zpow_add₀ (by norm_num), ← zpow_add₀ (by norm_num)]
    exact zpow_le_zpow_right₀ (by norm_num) (by omega)
  linarith

private theorem exponentOf_congr {numerator denominator numerator' denominator' : Nat}
    (above : numerator ≠ 0) (below : denominator ≠ 0) (above' : numerator' ≠ 0)
    (below' : denominator' ≠ 0) (same : (numerator : ℚ) / denominator = numerator' / denominator') :
    exponentOf numerator denominator = exponentOf numerator' denominator' := by
  obtain ⟨exponent, chosen, lower, upper⟩ := exponentOf_bounds above below
  obtain ⟨exponent', chosen', lower', upper'⟩ := exponentOf_bounds above' below'
  rw [same] at lower upper
  rw [chosen, chosen', le_antisymm (exponent_le upper' lower) (exponent_le upper lower')]

/-- Equal quotients are rounded to the same number. -/
theorem ofQuotient?_congr {numerator denominator numerator' denominator' : Nat} (negative : Bool)
    (above : numerator ≠ 0) (below : denominator ≠ 0) (below' : denominator' ≠ 0)
    (same : (numerator : ℚ) / denominator = numerator' / denominator') :
    ofQuotient? negative numerator denominator = ofQuotient? negative numerator' denominator' := by
  have above' : numerator' ≠ 0 := by
    rintro rfl
    simp [above, below] at same
  have exponent := exponentOf_congr above below above' below' same
  have rounded := roundQuotient_congr
    (scaled_positive numerator below (exponentOf numerator' denominator'))
    (scaled_positive numerator' below' (exponentOf numerator' denominator'))
    (by rw [scaled_quotient _ below, scaled_quotient _ below', same])
  simp only [ofQuotient?, exponent, rounded]

theorem times?_eq {x y : Binary64} (nonzero : x.mantissa ≠ 0) (nonzero' : y.mantissa ≠ 0)
    {numerator denominator : Nat} (below : denominator ≠ 0)
    (product : x.magnitude * y.magnitude = numerator / denominator) :
    x.times? y = ofQuotient? (x.negative != y.negative) numerator denominator := by
  have exponents := toNat_pow (2 : ℚ) (by norm_num) (x.exponent + y.exponent)
  rw [zpow_add₀ (by norm_num)] at exponents
  simp only [times?, nonzero_iff.mpr nonzero, nonzero_iff.mpr nonzero', Bool.or_self,
    Bool.false_eq_true, if_false]
  refine ofQuotient?_congr _ (by simp [nonzero, nonzero']) (by simp) below ?_
  rw [← product, magnitude, magnitude, mul_mul_mul_comm, exponents]
  simp only [Nat.pow_eq, Nat.cast_mul, Nat.cast_pow, Nat.cast_ofNat, mul_div_assoc]

theorem over?_eq {x y : Binary64} (nonzero : x.mantissa ≠ 0) (nonzero' : y.mantissa ≠ 0)
    {numerator denominator : Nat} (below : denominator ≠ 0)
    (quotient : x.magnitude / y.magnitude = numerator / denominator) :
    x.over? y = ofQuotient? (x.negative != y.negative) numerator denominator := by
  have exponents := toNat_pow (2 : ℚ) (by norm_num) (x.exponent - y.exponent)
  rw [zpow_sub₀ (by norm_num)] at exponents
  simp only [over?, nonzero_iff.mpr nonzero, nonzero_iff.mpr nonzero', Bool.false_eq_true, if_false]
  refine ofQuotient?_congr _ (by simp [nonzero]) (by simp [nonzero']) below ?_
  rw [← quotient, magnitude, magnitude, mul_div_mul_comm, exponents]
  simp only [Nat.pow_eq, Nat.cast_mul, Nat.cast_pow, Nat.cast_ofNat, div_mul_div_comm]

/-- A number of at most 53 bits is shifted until it has 53. -/
private theorem exists_magnitude (negative : Bool) {digits : Nat} (nonzero : digits ≠ 0)
    (few : digits < 2 ^ 53) {shift : Nat} (near : shift ≤ 971) :
    ∃ x : Binary64, x.negative = negative ∧ x.mantissa ≠ 0 ∧ x.magnitude = digits * 2 ^ shift := by
  have ⟨lower, upper⟩ := (Nat.log2_eq_iff nonzero).mp rfl
  have short : digits.log2 ≤ 52 := Nat.le_of_lt_succ ((Nat.log2_lt nonzero).mpr few)
  have canonical : Canonical (digits * 2 ^ (52 - digits.log2)) (shift - (52 - digits.log2 : Nat)) := by
    refine ⟨?_, by omega, by omega, .inl ?_⟩
    · calc digits * 2 ^ (52 - digits.log2) < 2 ^ (digits.log2 + 1) * 2 ^ (52 - digits.log2) :=
            Nat.mul_lt_mul_of_pos_right upper (by positivity)
        _ = Nat.pow 2 53 := by rw [← pow_add]; congr 1; omega
    · calc Nat.pow 2 52 = 2 ^ digits.log2 * 2 ^ (52 - digits.log2) := by
            rw [← pow_add]; congr 1; omega
        _ ≤ digits * 2 ^ (52 - digits.log2) := Nat.mul_le_mul_right _ lower
  refine ⟨⟨negative, _, _, canonical⟩, rfl, by simp [nonzero], ?_⟩
  simp only [magnitude, Nat.cast_mul, Nat.cast_pow, Nat.cast_ofNat]
  rw [mul_assoc, ← zpow_natCast, ← zpow_natCast, ← zpow_add₀ (by norm_num)]
  congr 2
  omega

private theorem ofDecimal?_digits (negative : Bool) {digits : Nat} (nonzero : digits ≠ 0)
    (few : digits < 2 ^ 53) :
    ∃ x : Binary64, ofDecimal? negative ⟨digits, 0⟩ = some x ∧ x.negative = negative ∧
      x.mantissa ≠ 0 ∧ x.magnitude = digits := by
  obtain ⟨x, rfl, positive, value⟩ := exists_magnitude negative nonzero few (Nat.zero_le 971)
  rw [pow_zero, mul_one] at value
  exact ⟨x, ofDecimal?_exact x positive (by simp [Decimal.value, value]), rfl, positive, value⟩

private theorem ofDecimal?_power {power : Nat} (near : power ≤ 22) :
    ∃ x : Binary64, ofDecimal? false ⟨1, power⟩ = some x ∧ x.negative = false ∧ x.mantissa ≠ 0 ∧
      x.magnitude = 10 ^ power := by
  have few : 5 ^ power < 2 ^ 53 :=
    lt_of_le_of_lt (Nat.pow_le_pow_right (by norm_num) near) (by norm_num)
  obtain ⟨x, positive, nonzero, value⟩ :=
    exists_magnitude false (by positivity : 5 ^ power ≠ 0) few (by omega : power ≤ 971)
  have value : x.magnitude = 10 ^ power := by
    rw [value, Nat.cast_pow, Nat.cast_ofNat, ← mul_pow]
    norm_num
  refine ⟨x, ?_, positive, nonzero, value⟩
  rw [← positive]
  exact ofDecimal?_exact x nonzero (by simp [Decimal.value, value])

/-- The place of the first digit follows from the value. -/
private theorem top_le {d d' : Decimal} (positive : d.digits ≠ 0) (positive' : d'.digits ≠ 0)
    (same : d.value = d'.value) : (d.width : Int) + d.exponent ≤ d'.width + d'.exponent := by
  have lower := (Decimal.width_bounds positive).1
  have upper := (Decimal.width_bounds positive').2
  rw [same] at lower
  by_contra beyond
  have steps : (10 : ℚ) ^ ((d'.width : Int) + d'.exponent) ≤ 10 ^ ((d.width : Int) + d.exponent - 1) :=
    zpow_le_zpow_right₀ (by norm_num) (by omega)
  linarith

/-- Equal decimals are read as the same number, however many zeros they are written with. -/
theorem ofDecimal?_congr (negative : Bool) {d d' : Decimal} (same : d.value = d'.value) :
    ofDecimal? negative d = ofDecimal? negative d' := by
  have zero_iff : d.digits = 0 ↔ d'.digits = 0 := by
    have zero (d : Decimal) : d.value = 0 ↔ d.digits = 0 := by
      simp [Decimal.value, zpow_ne_zero d.exponent (by norm_num : (10 : ℚ) ≠ 0)]
    rw [← zero d, ← zero d', same]
  by_cases zero : d.digits = 0
  · simp [ofDecimal?, zero, zero_iff.mp zero]
  have zero' := mt zero_iff.mpr zero
  have top := le_antisymm (top_le zero zero' same) (top_le zero' zero same.symm)
  rw [value_quotient d, value_quotient d'] at same
  rw [ofDecimal?_positive negative zero, ofDecimal?_positive negative zero', top,
    ofQuotient?_congr negative (by simp [zero]) (by simp) (by simp) same]

private theorem ofDecimal?_near (negative : Bool) {digits : Nat} (nonzero : digits ≠ 0)
    (few : digits < 2 ^ 53) {exponent : Int} (near : exponent.natAbs ≤ 22) :
    ofDecimal? negative ⟨digits, exponent⟩ =
      ofQuotient? negative (digits * 10 ^ exponent.toNat) (10 ^ (-exponent).toNat) := by
  have width : Decimal.width ⟨digits, exponent⟩ ≤ 16 :=
    Decimal.width_le (by norm_num) (lt_trans few (by norm_num))
  exact ofDecimal?_within negative nonzero (by dsimp only; omega) (by dsimp only; omega)

end Binary64

namespace Json

open Binary64

private theorem scale?_near (x : Binary64) {exponent : Int} (near : exponent.natAbs ≤ 22) :
    scale? x exponent = (powerOfTen? exponent.natAbs).bind fun power =>
      if exponent < 0 then x.over? power else x.times? power := by
  rw [scale?, if_neg (by omega)]
  split
  · rfl
  · rw [if_pos (by omega)]
    rfl

/-- Few digits and a near power are rounded once. -/
theorem scale?_digits (negative : Bool) {digits : Nat} (few : digits < 2 ^ 53) {exponent : Int}
    (near : exponent.natAbs ≤ 22) :
    (ofDecimal? negative ⟨digits, 0⟩).bind (scale? · exponent) =
      ofDecimal? negative ⟨digits, exponent⟩ := by
  obtain ⟨power, held, unsigned, nonzero', value'⟩ := ofDecimal?_power near
  have scales (x : Binary64) : scale? x exponent =
      if exponent < 0 then x.over? power else x.times? power := by
    rw [scale?_near x near, powerOfTen?, held, Option.bind_some]
  by_cases zero : digits = 0
  · have none : power.isZero = false := nonzero_iff.mpr nonzero'
    subst zero
    rw [ofDecimal?, if_pos rfl, ofDecimal?, if_pos rfl, Option.bind_some, scales]
    split <;> simp [over?, times?, none, unsigned] <;> rfl
  obtain ⟨x, read, rfl, nonzero, value⟩ := ofDecimal?_digits negative zero few
  have sign : (x.negative != power.negative) = x.negative := by simp [unsigned]
  rw [read, Option.bind_some, scales, ofDecimal?_near _ zero few near, ← sign]
  split
  next below =>
    have distance : (-exponent).toNat = exponent.natAbs := by omega
    have none : exponent.toNat = 0 := by omega
    refine over?_eq nonzero nonzero' (by simp) ?_
    rw [value, value', distance, none, pow_zero, mul_one, Nat.cast_pow, Nat.cast_ofNat]
  next above =>
    have distance : exponent.toNat = exponent.natAbs := by omega
    have none : (-exponent).toNat = 0 := by omega
    refine times?_eq nonzero nonzero' (by simp) ?_
    rw [value, value', distance, none, pow_zero, Nat.cast_one, div_one, Nat.cast_mul, Nat.cast_pow,
      Nat.cast_ofNat]

end Json

end InterfaceSync
