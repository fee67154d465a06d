import InterfaceSync.Decimal.Shortest
import Mathlib.Algebra.Order.Field.Power
import Mathlib.Data.Rat.Cast.Order
import Mathlib.Tactic.FieldSimp
import Mathlib.Tactic.Linarith
import Mathlib.Tactic.NormNum
import Mathlib.Tactic.Positivity
import Mathlib.Tactic.Ring

/-! The decimal that is chosen for a number denotes that number when it is read. A decimal that was
tried by reading it is right by that; if all of those failed, every digit is written, and rounding
changes nothing about a number that is there already. -/

namespace InterfaceSync

namespace Decimal

def value (d : Decimal) : ℚ :=
  d.digits * 10 ^ d.exponent

theorem trim_zero (exponent : Int) : trim ⟨0, exponent⟩ = ⟨0, 0⟩ := by
  rw [trim]
  simp

theorem value_trim (d : Decimal) : d.trim.value = d.value := by
  fun_induction trim d with
  | case1 d zero => simp [value, zero]
  | case2 d positive divides ih =>
    have whole : (d.digits : ℚ) = (d.digits / 10 : Nat) * 10 := by
      exact_mod_cast (Nat.div_mul_cancel (Nat.dvd_of_mod_eq_zero divides)).symm
    rw [ih, value, value, whole, zpow_add₀ (by norm_num), zpow_one]
    ring
  | case3 d positive remains => rfl

theorem trim_trim (d : Decimal) : d.trim.trim = d.trim := by
  fun_induction trim d with
  | case1 d zero => exact trim_zero 0
  | case2 d positive divides ih => exact ih
  | case3 d positive remains =>
    rw [trim]
    simp [positive, remains]

/-- Zeros behind the digits are the same as a higher exponent. -/
theorem trim_scale (digits zeros : Nat) (exponent : Int) :
    trim ⟨digits * 10 ^ zeros, exponent⟩ = trim ⟨digits, exponent + zeros⟩ := by
  induction zeros generalizing exponent with
  | zero => simp
  | succ zeros ih =>
    by_cases zero : digits = 0
    · simp [zero, trim_zero]
    have positive : digits * 10 ^ (zeros + 1) ≠ 0 := by positivity
    have quotient : digits * 10 ^ (zeros + 1) / 10 = digits * 10 ^ zeros := by
      rw [pow_succ, ← mul_assoc, Nat.mul_div_cancel _ (by norm_num)]
    have divides : digits * 10 ^ (zeros + 1) % 10 = 0 := by
      rw [pow_succ, ← mul_assoc, Nat.mul_mod_left]
    rw [trim]
    simp only [positive, divides, quotient, dif_neg, not_false_eq_true, if_true]
    rw [ih]
    congr 2
    push_cast
    ring

theorem digits_lt (d : Decimal) : d.digits < 10 ^ d.width :=
  (Nat.length_toDigits_le_iff (by norm_num) Nat.length_toDigits_pos).mp le_rfl

theorem width_le {d : Decimal} {places : Nat} (positive : 0 < places)
    (few : d.digits < 10 ^ places) : d.width ≤ places :=
  (Nat.length_toDigits_le_iff (by norm_num) positive).mpr few

theorem width_bounds {d : Decimal} (positive : d.digits ≠ 0) :
    (10 : ℚ) ^ ((d.width : Int) + d.exponent - 1) ≤ d.value ∧
      d.value < 10 ^ ((d.width : Int) + d.exponent) := by
  have some_digit : 0 < d.width := Nat.length_toDigits_pos
  have above := d.digits_lt
  have below : 10 ^ (d.width - 1) ≤ d.digits := by
    by_contra small
    rcases Nat.eq_or_lt_of_le (Nat.succ_le_of_lt some_digit) with one | more
    · have : d.width - 1 = 0 := by omega
      rw [this, pow_zero] at small
      omega
    · have shorter : d.width ≤ d.width - 1 := width_le (by omega) (not_le.mp small)
      omega
  have scale : (0 : ℚ) < 10 ^ d.exponent := by positivity
  constructor
  · calc (10 : ℚ) ^ ((d.width : Int) + d.exponent - 1)
        = ((10 ^ (d.width - 1) : Nat) : ℚ) * 10 ^ d.exponent := by
          push_cast
          rw [← zpow_natCast, ← zpow_add₀ (by norm_num)]
          congr 1
          omega
      _ ≤ d.value := mul_le_mul_of_nonneg_right (by exact_mod_cast below) scale.le
  · calc d.value < ((10 ^ d.width : Nat) : ℚ) * 10 ^ d.exponent :=
          mul_lt_mul_of_pos_right (by exact_mod_cast above) scale
      _ = 10 ^ ((d.width : Int) + d.exponent) := by
          push_cast
          rw [← zpow_natCast, ← zpow_add₀ (by norm_num)]

end Decimal

namespace Binary64

/-- What a number is without its sign. -/
def magnitude (x : Binary64) : ℚ :=
  x.mantissa * 2 ^ x.exponent

theorem magnitude_pos {x : Binary64} (nonzero : x.mantissa ≠ 0) : 0 < x.magnitude := by
  have := Nat.pos_of_ne_zero nonzero
  unfold magnitude
  positivity

theorem toNat_pow (base : ℚ) (nonzero : base ≠ 0) (exponent : Int) :
    base ^ exponent = base ^ exponent.toNat / base ^ (-exponent).toNat := by
  rw [← zpow_natCast, ← zpow_natCast, ← zpow_sub₀ nonzero]
  congr 1
  omega

private theorem value_toDecimal (x : Binary64) : x.toDecimal.value = x.magnitude := by
  unfold toDecimal
  split
  next whole =>
    obtain ⟨power, exponent⟩ := Int.eq_ofNat_of_zero_le whole
    rw [Decimal.value_trim]
    simp [Decimal.value, magnitude, exponent]
  next fractional =>
    obtain ⟨power, exponent⟩ := Int.eq_ofNat_of_zero_le (a := -x.exponent) (by omega)
    have negated : x.exponent = -(power : Int) := by omega
    rw [Decimal.value_trim]
    simp only [Decimal.value, magnitude, negated, neg_neg, Int.toNat_natCast, Nat.pow_eq,
      Nat.cast_mul, Nat.cast_pow, Nat.cast_ofNat, zpow_neg, zpow_natCast]
    have split : (10 : ℚ) ^ power = 2 ^ power * 5 ^ power := by
      rw [← mul_pow]
      norm_num
    rw [split]
    field_simp

private theorem log2_bounds {n : Nat} (positive : n ≠ 0) :
    (2 : ℚ) ^ (n.log2 : Int) ≤ n ∧ (n : ℚ) < 2 ^ ((n.log2 : Int) + 1) := by
  constructor
  · exact_mod_cast Nat.log2_self_le positive
  · exact_mod_cast Nat.lt_log2_self

theorem scaled_quotient (numerator : Nat) {denominator : Nat} (positive : denominator ≠ 0) (exponent : Int) :
    (((scaled numerator denominator exponent).1 : ℚ) / (scaled numerator denominator exponent).2) =
      numerator / denominator / 2 ^ exponent := by
  simp only [scaled, Nat.pow_eq, Nat.cast_mul, Nat.cast_pow, Nat.cast_ofNat]
  rw [toNat_pow 2 (by norm_num) exponent]
  field_simp

theorem scaled_positive (numerator : Nat) {denominator : Nat} (positive : denominator ≠ 0) (exponent : Int) :
    (scaled numerator denominator exponent).2 ≠ 0 := by
  simp [scaled, positive]

/-- The lower of the two exponents that the logarithms leave. -/
def lowExponent (numerator denominator : Nat) : Int :=
  numerator.log2 - denominator.log2 - 53

private theorem lowExponent_bounds {numerator denominator : Nat} (above : numerator ≠ 0)
    (below : denominator ≠ 0) :
    (2 : ℚ) ^ (52 : Int) ≤ numerator / denominator / 2 ^ lowExponent numerator denominator ∧
      (numerator : ℚ) / denominator / 2 ^ lowExponent numerator denominator < 2 ^ (54 : Int) := by
  have ⟨top_low, top_high⟩ := log2_bounds above
  have ⟨bottom_low, bottom_high⟩ := log2_bounds below
  obtain ⟨low, low_eq⟩ : ∃ low, low = lowExponent numerator denominator := ⟨_, rfl⟩
  rw [← low_eq]
  unfold lowExponent at low_eq
  have positive : (0 : ℚ) < denominator := by exact_mod_cast Nat.pos_of_ne_zero below
  have scale : (0 : ℚ) < 2 ^ low := by positivity
  constructor
  · rw [le_div_iff₀ scale, le_div_iff₀ positive]
    calc (2 : ℚ) ^ (52 : Int) * 2 ^ low * denominator
        ≤ 2 ^ (52 : Int) * 2 ^ low * 2 ^ ((denominator.log2 : Int) + 1) := by gcongr
      _ = 2 ^ (numerator.log2 : Int) := by
          rw [← zpow_add₀ (by norm_num), ← zpow_add₀ (by norm_num)]
          congr 1
          omega
      _ ≤ numerator := top_low
  · rw [div_lt_iff₀ scale, div_lt_iff₀ positive]
    calc (numerator : ℚ) < 2 ^ ((numerator.log2 : Int) + 1) := top_high
      _ = 2 ^ (54 : Int) * 2 ^ low * 2 ^ (denominator.log2 : Int) := by
          rw [← zpow_add₀ (by norm_num), ← zpow_add₀ (by norm_num)]
          congr 1
          omega
      _ ≤ 2 ^ (54 : Int) * 2 ^ low * denominator := by gcongr

private theorem scaled_short_iff (numerator : Nat) {denominator : Nat} (below : denominator ≠ 0)
    (exponent : Int) :
    (scaled numerator denominator exponent).1 / (scaled numerator denominator exponent).2 < 2 ^ 53 ↔
      (numerator : ℚ) / denominator / 2 ^ exponent < 2 ^ (53 : Int) := by
  have bottom := Nat.pos_of_ne_zero (scaled_positive numerator below exponent)
  rw [← scaled_quotient numerator below exponent, Nat.div_lt_iff_lt_mul bottom,
    div_lt_iff₀ (by exact_mod_cast bottom)]
  exact_mod_cast Iff.rfl

/-- The exponent that is chosen leaves 53 bits in front of the point, unless it is the smallest. -/
theorem exponentOf_bounds {numerator denominator : Nat} (above : numerator ≠ 0)
    (below : denominator ≠ 0) :
    ∃ exponent, exponentOf numerator denominator = max (-1074) exponent ∧
      (2 : ℚ) ^ (52 : Int) ≤ numerator / denominator / 2 ^ exponent ∧
      (numerator : ℚ) / denominator / 2 ^ exponent < 2 ^ (53 : Int) := by
  have ⟨lower, upper⟩ := lowExponent_bounds above below
  have tested := scaled_short_iff numerator below (lowExponent numerator denominator)
  have chosen : exponentOf numerator denominator = max (-1074)
      (if (scaled numerator denominator (lowExponent numerator denominator)).1 /
          (scaled numerator denominator (lowExponent numerator denominator)).2 < 2 ^ 53
        then lowExponent numerator denominator else lowExponent numerator denominator + 1) := rfl
  generalize lowExponent numerator denominator = low at lower upper tested chosen
  split at chosen
  next short => exact ⟨low, chosen, lower, tested.mp short⟩
  next long =>
    -- One exponent higher, both bounds are half of what they were.
    have long := not_lt.mp (mt tested.mpr long)
    refine ⟨low + 1, chosen, ?_, ?_⟩
    · rw [zpow_add₀ (by norm_num), zpow_one, ← div_div, le_div_iff₀ (by norm_num)]
      exact le_trans (by norm_num) long
    · rw [zpow_add₀ (by norm_num), zpow_one, ← div_div, div_lt_iff₀ (by norm_num)]
      exact lt_of_lt_of_le upper (by norm_num)

theorem exponentOf_exact (x : Binary64) (nonzero : x.mantissa ≠ 0) {numerator denominator : Nat}
    (above : numerator ≠ 0) (below : denominator ≠ 0)
    (exact : (numerator : ℚ) / denominator = x.magnitude) :
    exponentOf numerator denominator = x.exponent := by
  obtain ⟨exponent, chosen, lower, upper⟩ := exponentOf_bounds above below
  have ⟨narrow, smallest, _, full⟩ := x.canonical
  have shifted : (numerator : ℚ) / denominator / 2 ^ exponent =
      x.mantissa * 2 ^ (x.exponent - exponent) := by
    rw [exact, magnitude, mul_div_assoc, zpow_sub₀ (by norm_num)]
  rw [shifted] at lower upper
  have narrow' : (x.mantissa : ℚ) < 2 ^ (53 : Int) := by exact_mod_cast narrow
  have not_above : exponent ≤ x.exponent := by
    by_contra beyond
    have small : (2 : ℚ) ^ (x.exponent - exponent) ≤ 2 ^ (-1 : Int) :=
      zpow_le_zpow_right₀ (by norm_num) (by omega)
    have : (2 : ℚ) ^ (52 : Int) < 2 ^ (53 : Int) * 2 ^ (-1 : Int) :=
      lt_of_le_of_lt lower (mul_lt_mul narrow' small (by positivity) (by positivity))
    norm_num at this
  rcases full with full | smallest'
  · have full' : (2 : ℚ) ^ (52 : Int) ≤ x.mantissa := by exact_mod_cast full
    have not_below : x.exponent ≤ exponent := by
      by_contra beyond
      have large : (2 : ℚ) ^ (1 : Int) ≤ 2 ^ (x.exponent - exponent) :=
        zpow_le_zpow_right₀ (by norm_num) (by omega)
      have : (2 : ℚ) ^ (52 : Int) * 2 ^ (1 : Int) < 2 ^ (53 : Int) :=
        lt_of_le_of_lt (mul_le_mul full' large (by positivity) (by positivity)) upper
      norm_num at this
    rw [chosen]
    omega
  · rw [chosen]
    omega

private theorem roundQuotient_exact (quotient : Nat) {denominator : Nat}
    (positive : denominator ≠ 0) :
    roundQuotient (denominator * quotient) denominator = quotient := by
  simp [roundQuotient, Nat.mul_div_cancel_left _ (Nat.pos_of_ne_zero positive),
    Nat.pos_of_ne_zero positive]

private theorem ofQuotient?_exact (x : Binary64) (nonzero : x.mantissa ≠ 0)
    {numerator denominator : Nat}
    (below : denominator ≠ 0) (exact : (numerator : ℚ) / denominator = x.magnitude) :
    ofQuotient? x.negative numerator denominator = some x := by
  have positive := magnitude_pos nonzero
  have above : numerator ≠ 0 := by
    rintro rfl
    simp at exact
    linarith
  have exponent := exponentOf_exact x nonzero above below exact
  have bottom := scaled_positive numerator below x.exponent
  have whole : (scaled numerator denominator x.exponent).1 =
      (scaled numerator denominator x.exponent).2 * x.mantissa := by
    have quotient := scaled_quotient numerator below x.exponent
    rw [exact, magnitude, mul_div_cancel_right₀ _ (by positivity),
      div_eq_iff (by exact_mod_cast bottom)] at quotient
    rw [mul_comm]
    exact_mod_cast quotient
  have rounded : roundQuotient (scaled numerator denominator x.exponent).1
      (scaled numerator denominator x.exponent).2 = x.mantissa := by
    rw [whole]
    exact roundQuotient_exact _ bottom
  have narrow : x.mantissa ≠ Nat.pow 2 53 := Nat.ne_of_lt x.canonical.1
  simp only [ofQuotient?, exponent, rounded, narrow, if_false]
  exact dif_pos x.canonical

/-- No finite number is outside the range in which decimals are rounded at all. -/
theorem magnitude_bounds (x : Binary64) (nonzero : x.mantissa ≠ 0) :
    (10 : ℚ) ^ (-324 : Int) < x.magnitude ∧ x.magnitude < 10 ^ (309 : Int) := by
  have ⟨narrow, smallest, greatest, _⟩ := x.canonical
  have one : (1 : ℚ) ≤ x.mantissa := by exact_mod_cast Nat.pos_of_ne_zero nonzero
  have narrow' : (x.mantissa : ℚ) < 2 ^ (53 : Int) := by exact_mod_cast narrow
  have powers : 2 ^ 1074 < 10 ^ 324 ∧ 2 ^ 1024 < 10 ^ 309 := by decide +kernel
  constructor
  · calc (10 : ℚ) ^ (-324 : Int) < 1 * 2 ^ (-1074 : Int) := by
          rw [one_mul, zpow_neg, zpow_neg, inv_lt_inv₀ (by positivity) (by positivity)]
          exact_mod_cast powers.1
      _ ≤ x.mantissa * 2 ^ x.exponent :=
          mul_le_mul one (zpow_le_zpow_right₀ (by norm_num) smallest) (by positivity) (by positivity)
  · calc (x.mantissa : ℚ) * 2 ^ x.exponent < 2 ^ (53 : Int) * 2 ^ (971 : Int) :=
          mul_lt_mul narrow' (zpow_le_zpow_right₀ (by norm_num) greatest) (by positivity)
            (by positivity)
      _ = 2 ^ (1024 : Int) := (zpow_add₀ (by norm_num) 53 971).symm
      _ < 10 ^ (309 : Int) := by exact_mod_cast powers.2

theorem value_quotient (d : Decimal) : d.value =
    ((d.digits * 10 ^ d.exponent.toNat : Nat) : ℚ) / (10 ^ (-d.exponent).toNat : Nat) := by
  push_cast
  rw [Decimal.value, toNat_pow 10 (by norm_num), mul_div_assoc]

theorem ofDecimal?_positive (negative : Bool) {d : Decimal} (positive : d.digits ≠ 0) :
    ofDecimal? negative d =
      if 310 < (d.width : Int) + d.exponent then none
      else if (d.width : Int) + d.exponent < -330 then some (zero negative)
      else ofQuotient? negative (d.digits * 10 ^ d.exponent.toNat) (10 ^ (-d.exponent).toNat) := by
  simp only [ofDecimal?, positive, if_false, Nat.pow_eq]
  congr 2
  split
  next whole =>
    have none : (-d.exponent).toNat = 0 := by omega
    rw [none, pow_zero]
  next fractional =>
    have none : d.exponent.toNat = 0 := by omega
    rw [none, pow_zero, mul_one]

theorem ofDecimal?_within (negative : Bool) {d : Decimal} (positive : d.digits ≠ 0)
    (upper : (d.width : Int) + d.exponent ≤ 310) (lower : -330 ≤ (d.width : Int) + d.exponent) :
    ofDecimal? negative d =
      ofQuotient? negative (d.digits * 10 ^ d.exponent.toNat) (10 ^ (-d.exponent).toNat) := by
  rw [ofDecimal?_positive negative positive, if_neg (not_lt.mpr upper), if_neg (not_lt.mpr lower)]

theorem ofDecimal?_exact (x : Binary64) (nonzero : x.mantissa ≠ 0) {d : Decimal}
    (exact : d.value = x.magnitude) : ofDecimal? x.negative d = some x := by
  have ⟨small, large⟩ := x.magnitude_bounds nonzero
  have positive : d.digits ≠ 0 := by
    intro zero
    have : (0 : ℚ) < 10 ^ (-324 : Int) := by positivity
    simp only [← exact, Decimal.value, zero, Nat.cast_zero, zero_mul] at small
    linarith
  have ⟨lower, upper⟩ := Decimal.width_bounds positive
  have not_large : (d.width : Int) + d.exponent ≤ 310 := by
    by_contra beyond
    have : (10 : ℚ) ^ (309 : Int) ≤ 10 ^ ((d.width : Int) + d.exponent - 1) :=
      zpow_le_zpow_right₀ (by norm_num) (by omega)
    linarith
  have not_small : -330 ≤ (d.width : Int) + d.exponent := by
    by_contra beyond
    have : (10 : ℚ) ^ ((d.width : Int) + d.exponent) ≤ 10 ^ (-324 : Int) :=
      zpow_le_zpow_right₀ (by norm_num) (by omega)
    linarith
  rw [ofDecimal?_within _ positive not_large not_small]
  exact ofQuotient?_exact x nonzero (by simp) (by rw [← value_quotient, exact])

theorem nonzero_iff {x : Binary64} : x.isZero = false ↔ x.mantissa ≠ 0 := by
  simp [isZero]

theorem eq_zero_of_isZero {x : Binary64} (isZero : x.isZero = true) : x = zero x.negative := by
  obtain ⟨negative, mantissa, exponent, canonical⟩ := x
  have none : mantissa = 0 := by simpa [Binary64.isZero] using isZero
  subst none
  have ⟨_, _, _, full⟩ := canonical
  have smallest : exponent = -1074 := by simpa using full
  subst smallest
  rfl

/-- A decimal that may stand for a number: it is trimmed, and it denotes that number. -/
structure Denotes (x : Binary64) (d : Decimal) : Prop where
  trimmed : d.trim = d
  reads : ofDecimal? x.negative d = some x

private theorem denotes_of_candidate {x : Binary64} {place : Int} {d : Decimal}
    (member : d ∈ x.candidates place) : x.Denotes d := by
  obtain ⟨tried, reads⟩ := List.mem_filter.mp member
  obtain ⟨digits, _, rfl⟩ := List.mem_map.mp tried
  exact ⟨Decimal.trim_trim _, by simpa [readsBack] using reads⟩

private theorem denotes_toDecimal {x : Binary64} (nonzero : x.isZero = false) : x.Denotes
    x.toDecimal where
  trimmed := by
    unfold toDecimal
    split <;> exact Decimal.trim_trim _
  reads := ofDecimal?_exact x (nonzero_iff.mp nonzero) x.value_toDecimal

theorem denotes_shortest {x : Binary64} (nonzero : x.isZero = false) : x.Denotes x.shortest := by
  simp only [shortest, nonzero, Bool.false_eq_true, if_false]
  split
  next d found =>
    obtain ⟨place, _, first⟩ := List.exists_of_findSome?_eq_some found
    exact denotes_of_candidate (List.mem_of_mem_head? first)
  next => exact denotes_toDecimal nonzero

theorem Denotes.positive {x : Binary64} {d : Decimal} (denotes : x.Denotes d)
    (nonzero : x.isZero = false) : d.digits ≠ 0 := by
  intro none
  have reads := denotes.reads
  simp only [ofDecimal?, none, if_true, Option.some.injEq] at reads
  rw [← reads] at nonzero
  cases nonzero

end Binary64

end InterfaceSync
