import InterfaceSync.Proofs.NumberScaling
import InterfaceSync.Proofs.JsonGrammar

/-! What the reader is sure to take. Rounding never leaves the powers of two that a quotient lies
between, so dividing by powers of ten stays finite, and so does multiplying as long as there is room
for the digits that are held. A number of at most 288 places before the point has a value, and so has
every phrase of such numbers and of whole characters. -/

namespace InterfaceSync

namespace Binary64

private theorem roundQuotient_le {numerator denominator bound : Nat} (positive : 0 < denominator)
    (upper : numerator ≤ bound * denominator) : roundQuotient numerator denominator ≤ bound := by
  have quotient : numerator / denominator ≤ bound :=
    Nat.div_le_of_le_mul (by rwa [mul_comm] at upper)
  have parts := Nat.div_add_mod numerator denominator
  rcases Nat.lt_or_eq_of_le quotient with below | whole
  · simp only [roundQuotient]
    split
    · omega
    · split <;> omega
  · -- Nothing is left over behind the bound itself.
    have rest : numerator % denominator = 0 := by
      rw [whole, mul_comm] at parts
      omega
    simp only [roundQuotient, rest, mul_zero, positive, if_true, quotient]

private theorem le_roundQuotient {numerator denominator bound : Nat} (positive : 0 < denominator)
    (lower : bound * denominator ≤ numerator) : bound ≤ roundQuotient numerator denominator := by
  have quotient : bound ≤ numerator / denominator := (Nat.le_div_iff_mul_le positive).mpr lower
  simp only [roundQuotient]
  split
  · exact quotient
  · split <;> omega

/-- What a quotient is rounded to, in units of the exponent that is chosen for it. -/
private def rounded (numerator denominator : Nat) : Nat :=
  roundQuotient (scaled numerator denominator (exponentOf numerator denominator)).1
    (scaled numerator denominator (exponentOf numerator denominator)).2

private theorem ofQuotient?_eq (negative : Bool) (numerator denominator : Nat) :
    ofQuotient? negative numerator denominator =
      if rounded numerator denominator = Nat.pow 2 53 then
        if h : Canonical (Nat.pow 2 52) (exponentOf numerator denominator + 1) then
          some ⟨negative, _, _, h⟩
        else none
      else if h : Canonical (rounded numerator denominator) (exponentOf numerator denominator) then
        some ⟨negative, _, _, h⟩
      else none := by
  split
  next carried =>
    unfold rounded at carried
    simp only [ofQuotient?, carried, if_true]
  next whole =>
    unfold rounded at whole
    simp only [ofQuotient?, rounded, whole, if_false]
    rfl

/-- The mantissa and the exponent that are kept come to what was rounded. -/
private theorem magnitude_eq {negative : Bool} {numerator denominator : Nat} {x : Binary64}
    (kept : ofQuotient? negative numerator denominator = some x) :
    x.magnitude = rounded numerator denominator * 2 ^ exponentOf numerator denominator := by
  rw [ofQuotient?_eq] at kept
  split at kept
  next carried =>
    obtain ⟨_, same⟩ := Option.dite_none_right_eq_some.mp kept
    cases same
    rw [carried, magnitude, zpow_add₀ (by norm_num)]
    simp only [Nat.pow_eq]
    push_cast
    ring
  next =>
    obtain ⟨_, same⟩ := Option.dite_none_right_eq_some.mp kept
    cases same
    rfl

section

variable {numerator denominator : Nat} (below : denominator ≠ 0)

include below

private theorem rounded_le {bits : Nat}
    (upper : (numerator : ℚ) / denominator ≤ 2 ^ (exponentOf numerator denominator + bits)) :
    rounded numerator denominator ≤ 2 ^ bits := by
  have bottom := scaled_positive numerator below (exponentOf numerator denominator)
  have quotient := scaled_quotient numerator below (exponentOf numerator denominator)
  refine roundQuotient_le (Nat.pos_of_ne_zero bottom) ?_
  rw [zpow_add₀ (by norm_num), mul_comm, ← div_le_iff₀ (by positivity), ← quotient,
    div_le_iff₀ (by exact_mod_cast Nat.pos_of_ne_zero bottom)] at upper
  exact_mod_cast upper

private theorem le_rounded {bits : Nat}
    (lower : (2 : ℚ) ^ (exponentOf numerator denominator + bits) ≤ numerator / denominator) :
    2 ^ bits ≤ rounded numerator denominator := by
  have bottom := scaled_positive numerator below (exponentOf numerator denominator)
  have quotient := scaled_quotient numerator below (exponentOf numerator denominator)
  refine le_roundQuotient (Nat.pos_of_ne_zero bottom) ?_
  rw [zpow_add₀ (by norm_num), mul_comm, ← le_div_iff₀ (by positivity), ← quotient,
    le_div_iff₀ (by exact_mod_cast Nat.pos_of_ne_zero bottom)] at lower
  exact_mod_cast lower

variable (above : numerator ≠ 0)

include above

/-- The chosen exponent leaves 53 bits at most, and fewer only if it is the smallest. -/
private theorem exponentOf_fits :
    -1074 ≤ exponentOf numerator denominator ∧
      (numerator : ℚ) / denominator ≤ 2 ^ (exponentOf numerator denominator + 53) ∧
      (exponentOf numerator denominator = -1074 ∨
        (2 : ℚ) ^ (exponentOf numerator denominator + 52) ≤ numerator / denominator) := by
  obtain ⟨exponent, chosen, lower, upper⟩ := exponentOf_bounds above below
  rw [le_div_iff₀ (by positivity), ← zpow_add₀ (by norm_num), add_comm] at lower
  rw [div_lt_iff₀ (by positivity), ← zpow_add₀ (by norm_num), add_comm] at upper
  rw [chosen]
  refine ⟨le_max_left _ _, ?_, ?_⟩
  · exact le_trans upper.le (zpow_le_zpow_right₀ (by norm_num) (by omega))
  · rcases le_total exponent (-1074) with small | large
    · exact .inl (max_eq_left small)
    · exact .inr (by rwa [max_eq_right large])

/-- What is at most a power of two is rounded to at most that power. -/
theorem ofQuotient?_le (negative : Bool) {high : Int} (smallest : -1074 ≤ high)
    (greatest : high ≤ 1023) (upper : (numerator : ℚ) / denominator ≤ 2 ^ high) :
    ∃ x, ofQuotient? negative numerator denominator = some x ∧ x.magnitude ≤ 2 ^ high := by
  have ⟨least, fits, full⟩ := exponentOf_fits below above
  have near : exponentOf numerator denominator ≤ high := by
    rcases full with least | full
    · omega
    · have := (zpow_le_zpow_iff_right₀ (by norm_num : (1 : ℚ) < 2)).mp (le_trans full upper)
      omega
  obtain ⟨bits, distance⟩ := Int.eq_ofNat_of_zero_le (sub_nonneg.mpr near)
  have distance : high = exponentOf numerator denominator + bits := by omega
  have small : rounded numerator denominator ≤ 2 ^ bits := rounded_le below (distance ▸ upper)
  have full : exponentOf numerator denominator = -1074 ∨ 2 ^ 52 ≤ rounded numerator denominator :=
    full.imp_right (le_rounded below)
  have room {width : Nat} (wide : 2 ^ width ≤ rounded numerator denominator) : width ≤ bits :=
    (Nat.pow_le_pow_iff_right (by norm_num)).mp (le_trans wide small)
  have kept : (ofQuotient? negative numerator denominator).isSome = true := by
    rw [ofQuotient?_eq]
    split
    next carried =>
      have := room (Nat.le_of_eq carried.symm)
      rw [dif_pos ⟨by decide, by omega, by omega, .inl le_rfl⟩]
      rfl
    next whole =>
      have narrow := lt_of_le_of_ne (rounded_le below fits) whole
      have within : exponentOf numerator denominator ≤ 971 := by
        rcases full with least | full
        · omega
        · have := room full
          omega
      rw [dif_pos ⟨narrow, least, within, full.symm⟩]
      rfl
  obtain ⟨x, kept⟩ := Option.isSome_iff_exists.mp kept
  refine ⟨x, kept, ?_⟩
  calc x.magnitude ≤ 2 ^ (bits : Int) * 2 ^ exponentOf numerator denominator := by
        rw [magnitude_eq kept, zpow_natCast]
        gcongr
        exact_mod_cast small
    _ = 2 ^ high := by rw [← zpow_add₀ (by norm_num), distance, add_comm]

/-- What is at least a power of two is rounded to at least that power. -/
theorem le_ofQuotient? {negative : Bool} {x : Binary64}
    (kept : ofQuotient? negative numerator denominator = some x) {low : Int} (smallest : -1074 ≤ low)
    (lower : (2 : ℚ) ^ low ≤ numerator / denominator) : 2 ^ low ≤ x.magnitude := by
  have ⟨_, _, full⟩ := exponentOf_fits below above
  rw [magnitude_eq kept]
  rcases le_total (exponentOf numerator denominator) low with reached | beyond
  · obtain ⟨bits, distance⟩ := Int.eq_ofNat_of_zero_le (sub_nonneg.mpr reached)
    have distance : low = exponentOf numerator denominator + bits := by omega
    have large : 2 ^ bits ≤ rounded numerator denominator := le_rounded below (distance ▸ lower)
    calc (2 : ℚ) ^ low = 2 ^ bits * 2 ^ exponentOf numerator denominator := by
          rw [distance, zpow_add₀ (by norm_num), mul_comm, zpow_natCast]
      _ ≤ rounded numerator denominator * 2 ^ exponentOf numerator denominator := by
          gcongr
          exact_mod_cast large
  · -- One at least is left of what has a larger exponent.
    have one : 2 ^ 0 ≤ rounded numerator denominator := by
      rcases full with least | full
      · have same : low = exponentOf numerator denominator + (0 : Nat) := by omega
        exact le_rounded below (same ▸ lower)
      · have wide : 2 ^ 52 ≤ rounded numerator denominator := le_rounded below full
        omega
    calc (2 : ℚ) ^ low ≤ 1 * 2 ^ exponentOf numerator denominator := by
          rw [one_mul]
          exact zpow_le_zpow_right₀ (by norm_num) beyond
      _ ≤ rounded numerator denominator * 2 ^ exponentOf numerator denominator := by
          gcongr
          exact_mod_cast one

end

private theorem magnitude_zero {x : Binary64} (zero : x.isZero = true) : x.magnitude = 0 := by
  have none : x.mantissa = 0 := beq_iff_eq.mp zero
  simp [magnitude, none]

private theorem exists_quotient {x : ℚ} (positive : 0 < x) :
    ∃ numerator denominator : Nat, numerator ≠ 0 ∧ denominator ≠ 0 ∧
      x = numerator / denominator := by
  obtain ⟨numerator, same⟩ := Int.eq_ofNat_of_zero_le (Rat.num_nonneg.mpr positive.le)
  have above : numerator ≠ 0 := by
    rintro rfl
    exact (Rat.num_pos.mpr positive).ne' same
  refine ⟨numerator, x.den, above, x.den_nz, ?_⟩
  conv_lhs => rw [← Rat.num_div_den x, same]
  rfl

private theorem over?_le {x y : Binary64} (one : 1 ≤ y.magnitude) {high : Int} (smallest : -1074 ≤ high)
    (greatest : high ≤ 1023) (upper : x.magnitude ≤ 2 ^ high) :
    ∃ z, x.over? y = some z ∧ z.magnitude ≤ 2 ^ high := by
  have nonzero' : y.mantissa ≠ 0 := by
    intro none
    rw [magnitude, none, Nat.cast_zero, zero_mul] at one
    norm_num at one
  by_cases zero : x.mantissa = 0
  · refine ⟨.zero (x.negative != y.negative), ?_, ?_⟩
    · simp [over?, isZero, zero, nonzero']
    · rw [magnitude_zero rfl]
      positivity
  have positive := magnitude_pos zero
  obtain ⟨numerator, denominator, above, below, quotient⟩ :=
    exists_quotient (div_pos positive (lt_of_lt_of_le one_pos one))
  rw [over?_eq zero nonzero' below quotient]
  refine ofQuotient?_le below above _ smallest greatest ?_
  calc (numerator : ℚ) / denominator = x.magnitude / y.magnitude := quotient.symm
    _ ≤ x.magnitude := div_le_self positive.le one
    _ ≤ 2 ^ high := upper

private theorem times?_isSome {x y : Binary64} {high high' : Int} (room : high + high' ≤ 1023)
    (smallest : -1074 ≤ high + high') (upper : x.magnitude ≤ 2 ^ high)
    (upper' : y.magnitude ≤ 2 ^ high') : (x.times? y).isSome = true := by
  by_cases zero : x.mantissa = 0
  · simp [times?, isZero, zero]
  by_cases zero' : y.mantissa = 0
  · simp [times?, isZero, zero']
  obtain ⟨numerator, denominator, above, below, product⟩ :=
    exists_quotient (mul_pos (magnitude_pos zero) (magnitude_pos zero'))
  rw [times?_eq zero zero' below product]
  obtain ⟨z, kept, _⟩ := ofQuotient?_le below above (x.negative != y.negative) smallest room <|
    calc (numerator : ℚ) / denominator = x.magnitude * y.magnitude := product.symm
      _ ≤ 2 ^ high * 2 ^ high' := mul_le_mul upper upper' (magnitude_pos zero').le (by positivity)
      _ = 2 ^ (high + high') := (zpow_add₀ (by norm_num) _ _).symm
  exact Option.isSome_of_eq_some kept

end Binary64

namespace Json

open Binary64

private theorem powerOfTen?_quotient {power : Nat} (near : power ≤ 308) :
    powerOfTen? power = ofQuotient? false (10 ^ power) 1 := by
  have width : Decimal.width ⟨1, power⟩ ≤ 1 := Decimal.width_le one_pos (by norm_num)
  rw [powerOfTen?, ofDecimal?_within false one_ne_zero (by dsimp only; omega) (by dsimp only; omega)]
  simp

private theorem powerOfTen?_le {power : Nat} (near : power ≤ 308) {high : Nat} (greatest : high ≤ 1023)
    (upper : 10 ^ power ≤ 2 ^ high) :
    ∃ y, powerOfTen? power = some y ∧ y.magnitude ≤ 2 ^ (high : Int) := by
  rw [powerOfTen?_quotient near]
  refine ofQuotient?_le one_ne_zero (by positivity) false (by omega) (by omega) ?_
  rw [Nat.cast_one, div_one]
  exact_mod_cast upper

private theorem one_le_powerOfTen {power : Nat} (near : power ≤ 308) {y : Binary64}
    (kept : powerOfTen? power = some y) : 1 ≤ y.magnitude := by
  rw [powerOfTen?_quotient near] at kept
  have lower : (2 : ℚ) ^ (0 : Int) ≤ (10 ^ power : Nat) / (1 : Nat) := by
    rw [zpow_zero, Nat.cast_one, div_one]
    exact_mod_cast Nat.one_le_pow _ _ (by norm_num)
  have reached := le_ofQuotient? one_ne_zero (by positivity) kept (by norm_num) lower
  rwa [zpow_zero] at reached

private theorem exists_powerOfTen {power : Nat} (near : power ≤ 308) :
    ∃ y, powerOfTen? power = some y ∧ 1 ≤ y.magnitude := by
  have kept : (powerOfTen? power).isSome = true := by
    rcases Nat.lt_or_eq_of_le near with below | rfl
    · have powers : 10 ^ power ≤ 2 ^ 1023 :=
        le_trans (Nat.pow_le_pow_right (by norm_num) (Nat.le_of_lt_succ below)) (by decide +kernel)
      obtain ⟨y, kept, _⟩ := powerOfTen?_le near le_rfl powers
      exact Option.isSome_of_eq_some kept
    · decide +kernel
  obtain ⟨y, kept⟩ := Option.isSome_iff_exists.mp kept
  exact ⟨y, kept, one_le_powerOfTen near kept⟩

/-- A number of 64 bits can be multiplied by every power of ten up to the 288th, and divided by any. -/
private theorem scale?_isSome {x : Binary64} {exponent : Int} (few : x.magnitude ≤ 2 ^ (64 : Int))
    (near : exponent ≤ 288) : (scale? x exponent).isSome = true := by
  fun_induction scale? x exponent with
  | case1 => rfl
  | case2 x exponent far nonzero ih =>
    obtain ⟨y, kept, one⟩ := exists_powerOfTen (le_refl 308)
    obtain ⟨z, divided, few⟩ := over?_le one (by norm_num) (by norm_num) few
    simp only [kept, divided, Option.bind_eq_bind, Option.bind_some]
    exact ih z few (by omega)
  | case3 x exponent notFar divides =>
    obtain ⟨y, kept, one⟩ := exists_powerOfTen (by omega : exponent.natAbs ≤ 308)
    obtain ⟨z, divided, _⟩ := over?_le one (by norm_num) (by norm_num) few
    simp [kept, divided]
  | case4 x exponent notFar multiplies _ =>
    have powers : 10 ^ exponent.natAbs ≤ 2 ^ 957 :=
      le_trans (Nat.pow_le_pow_right (by norm_num) (by omega : _ ≤ 288)) (by decide +kernel)
    obtain ⟨y, kept, small⟩ := powerOfTen?_le (by omega) (by norm_num) powers
    simpa [kept] using times?_isSome (by norm_num) (by norm_num) few small
  | case5 | case6 => omega

private theorem collect_bounds (digits : List Char) {start : Nat} (fits : start < 2 ^ 64) :
    (collect start digits).1 < 2 ^ 64 ∧ (collect start digits).2.length ≤ digits.length := by
  induction digits generalizing start with
  | nil => exact ⟨fits, le_rfl⟩
  | cons digit digits ih =>
    simp only [collect]
    split
    next more =>
      obtain ⟨few, shorter⟩ := ih (Nat.lt_of_le_of_lt more (by norm_num))
      exact ⟨few, le_trans shorter (Nat.le_succ _)⟩
    next => exact ⟨fits, le_rfl⟩

private theorem significand_bounds (whole places : List Char) :
    (significand whole places).digits < 2 ^ 64 ∧
      (significand whole places).exponent ≤ whole.length := by
  obtain ⟨few, shorter⟩ := collect_bounds whole (by norm_num : 0 < 2 ^ 64)
  obtain ⟨few', shorter'⟩ := collect_bounds places few
  refine ⟨few', ?_⟩
  simp only [significand]
  omega

private theorem exists_rounded (negative : Bool) {digits : Nat} (few : digits < 2 ^ 64) :
    ∃ x, ofDecimal? negative ⟨digits, 0⟩ = some x ∧ x.magnitude ≤ 2 ^ (64 : Int) := by
  by_cases zero : digits = 0
  · refine ⟨.zero negative, by rw [ofDecimal?, if_pos zero], ?_⟩
    rw [magnitude_zero rfl]
    positivity
  have width : Decimal.width ⟨digits, 0⟩ ≤ 20 :=
    Decimal.width_le (by norm_num) (lt_trans few (by norm_num))
  rw [ofDecimal?_within negative zero (by dsimp only; omega) (by dsimp only; omega)]
  refine ofQuotient?_le (by simp) (by simp [zero]) negative (by norm_num) (by norm_num) ?_
  simp only [Int.toNat_zero, neg_zero, pow_zero, mul_one, Nat.cast_one, div_one]
  exact_mod_cast few.le

private theorem floating?_isSome (negative : Bool) {held : Decimal} {power : Int}
    (few : held.digits < 2 ^ 64) (near : held.exponent + power ≤ 288) (near' : power ≤ 288) :
    (floating? negative held power).isSome = true := by
  unfold floating?
  split
  next far => rw [if_neg (by omega)]; rfl
  next =>
    obtain ⟨x, kept, few⟩ := exists_rounded negative few
    simpa [kept] using scale?_isSome few near

/-- The places before the point, as the power moves it. -/
def Numeral.places (numeral : Numeral) : Int :=
  numeral.whole.length + (numeral.power.map Power.value).getD 0

private theorem Numeral.value?_isSome {numeral : Numeral} (near : numeral.places ≤ 288) :
    numeral.value?.isSome = true := by
  unfold places at near
  have ⟨few, places⟩ := significand_bounds numeral.whole (numeral.fraction.getD [])
  have float : ((floating? numeral.negative (significand numeral.whole (numeral.fraction.getD []))
      ((numeral.power.map Power.value).getD 0)).map Number.float).isSome = true := by
    rw [Option.isSome_map]
    exact floating?_isSome numeral.negative few (by omega) (by omega)
  unfold value? numberOf
  extract_lets held value
  split
  · split
    · rfl
    · exact float
  · exact float

namespace Phrase

/-- No number has more than 288 places before its point, and no half of a character stands alone. -/
inductive InReach : Phrase → Prop
  | null : InReach .null
  | bool (value : Bool) : InReach (.bool value)
  | number {numeral} (near : numeral.places ≤ 288) : InReach (.number numeral)
  | string {pieces} (whole : (unescape? pieces).isSome = true) : InReach (.string pieces)
  | array {items} (each : ∀ item ∈ items, InReach item) : InReach (.array items)
  | object {members} (keys : ∀ member ∈ members, (unescape? member.1).isSome = true)
      (each : ∀ member ∈ members, InReach member.2) : InReach (.object members)

private theorem values?_isSome {items : List Phrase}
    (each : ∀ item ∈ items, item.value?.isSome = true) : (values? items).isSome = true := by
  induction items with
  | nil => rfl
  | cons item items ih =>
    obtain ⟨first, others⟩ := List.forall_mem_cons.mp each
    obtain ⟨value, stands⟩ := Option.isSome_iff_exists.mp first
    simpa [values?, stands] using ih others

private theorem members?_isSome {members : List (List Piece × Phrase)}
    (keys : ∀ member ∈ members, (unescape? member.1).isSome = true)
    (each : ∀ member ∈ members, member.2.value?.isSome = true) :
    (members? members).isSome = true := by
  induction members with
  | nil => rfl
  | cons member members ih =>
    obtain ⟨key, keys⟩ := List.forall_mem_cons.mp keys
    obtain ⟨first, others⟩ := List.forall_mem_cons.mp each
    obtain ⟨chars, named⟩ := Option.isSome_iff_exists.mp key
    obtain ⟨value, stands⟩ := Option.isSome_iff_exists.mp first
    simpa [members?, named, stands] using ih keys others

theorem InReach.isSome {phrase : Phrase} (reach : phrase.InReach) : phrase.value?.isSome = true := by
  induction reach with
  | null | bool => rfl
  | number near => rw [value?, Option.isSome_map, Numeral.value?_isSome near]
  | string whole => rw [value?, Option.isSome_map, whole]
  | array each ih => rw [value?, Option.isSome_map, values?_isSome ih]
  | object keys each ih => rw [value?, Option.isSome_map, members?_isSome keys ih]

end Phrase

end Json

end InterfaceSync
