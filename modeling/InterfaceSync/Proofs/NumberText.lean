import InterfaceSync.Json.Reader
import InterfaceSync.Json.Writer
import InterfaceSync.Proofs.NumberScaling
import Mathlib.Data.List.TakeWhile

/-! Numbers as JSON texts. What is written for a number is a literal of the decimal that was chosen
for it, and a literal is read up to its end and no further. The reader's arithmetic does not give
every number back; it does so for all whole numbers, and for floating ones of few digits. -/

namespace InterfaceSync.Json

/-- The text goes on with nothing that could belong to a number. -/
def NumberEnds (rest : List Char) : Prop :=
  ∀ c ∈ rest.head?, c.isDigit = false ∧ c ≠ '.' ∧ c ≠ 'e' ∧ c ≠ 'E'

theorem numberEnds_nil : NumberEnds [] := by
  intro c ends
  cases ends

def NoDigit (rest : List Char) : Prop :=
  ∀ c ∈ rest.head?, c.isDigit = false

theorem NumberEnds.noDigit {rest : List Char} (ends : NumberEnds rest) : NoDigit rest :=
  fun c member => (ends c member).1

structure Digits (text : List Char) : Prop where
  nonempty : text ≠ []
  digits : ∀ c ∈ text, c.isDigit = true

theorem digits_zero : Digits ['0'] where
  nonempty := List.cons_ne_nil _ _
  digits c member := by
    rw [List.mem_singleton.mp member]
    rfl

theorem readDigits_append {text rest : List Char} (digits : Digits text) (ends : NoDigit rest) :
    readDigits (text ++ rest) = some (text, rest) := by
  have stops : rest.takeWhile Char.isDigit = [] ∧ rest.dropWhile Char.isDigit = rest := by
    cases rest with
    | nil => exact ⟨rfl, rfl⟩
    | cons c rest => simp [ends c rfl]
  have taken : (text ++ rest).takeWhile Char.isDigit = text := by
    rw [List.takeWhile_append_of_pos digits.digits, stops.1, List.append_nil]
  have dropped : (text ++ rest).dropWhile Char.isDigit = rest := by
    rw [List.dropWhile_append_of_pos digits.digits, stops.2]
  simp only [readDigits, taken, dropped]
  cases text with
  | nil => exact absurd rfl digits.nonempty
  | cons c text => rfl

/-- A whole part has no needless zero in front. -/
def WholePart (text : List Char) : Prop :=
  text = ['0'] ∨ Digits text ∧ text.head? ≠ some '0'

theorem WholePart.head {text : List Char} (whole : WholePart text) :
    ∃ c more, text = c :: more ∧ c.isDigit = true := by
  rcases whole with rfl | ⟨digits, _⟩
  · exact ⟨'0', [], rfl, rfl⟩
  · obtain ⟨c, more, rfl⟩ := List.exists_cons_of_ne_nil digits.nonempty
    exact ⟨c, more, rfl, digits.digits c List.mem_cons_self⟩

/-- A number as it is written: the parts of it that are there. -/
structure Literal where
  negative : Bool
  whole : List Char
  fraction : Option (List Char)
  power : Option Int

namespace Literal

def signText (negative : Bool) : List Char :=
  if negative then ['-'] else []

def fractionText : Option (List Char) → List Char
  | some places => '.' :: places
  | none => []

def powerText : Option Int → List Char
  | some power => 'e' :: (if 0 ≤ power then '+' else '-') :: Nat.toDigits 10 power.natAbs
  | none => []

def text (literal : Literal) : List Char :=
  signText literal.negative ++ literal.whole ++ fractionText literal.fraction ++
    powerText literal.power

structure WellFormed (literal : Literal) : Prop where
  whole : WholePart literal.whole
  fraction : ∀ places, literal.fraction = some places → Digits places

def decimal (literal : Literal) : Decimal :=
  ⟨Nat.ofDigitChars 10 (literal.whole ++ literal.fraction.getD []) 0,
    literal.power.getD 0 - (literal.fraction.getD []).length⟩

end Literal

theorem digits_toDigits (n : Nat) : Digits (Nat.toDigits 10 n) where
  nonempty := Nat.toDigits_ne_nil
  digits _ member := Nat.isDigit_of_mem_toDigits (by decide) (by decide) member

private theorem readWhole_append {text rest : List Char} (whole : WholePart text)
    (ends : NoDigit rest) : readWhole (text ++ rest) = some (text, rest) := by
  rcases whole with rfl | ⟨digits, unpadded⟩
  · cases rest with
    | nil => rfl
    | cons c rest => simp [readWhole, ends c rfl]
  · rw [← readDigits_append digits ends]
    cases text with
    | nil => exact absurd rfl digits.nonempty
    | cons c text =>
      have other : c ≠ '0' := fun same => unpadded (congrArg some same)
      simp [readWhole, other]

/-- The text goes on with nothing that could belong to a whole part or a fraction. -/
def PartEnds (rest : List Char) : Prop :=
  ∀ c ∈ rest.head?, c.isDigit = false ∧ c ≠ '.'

theorem PartEnds.noDigit {rest : List Char} (ends : PartEnds rest) : NoDigit rest :=
  fun c member => (ends c member).1

private theorem partEnds_powerText {power : Option Int} {rest : List Char} (ends : NumberEnds rest)
    : PartEnds (Literal.powerText power ++ rest) := by
  cases power with
  | none => exact fun c member => ⟨(ends c member).1, (ends c member).2.1⟩
  | some power =>
    intro c member
    cases member
    decide

theorem readPower_append (power : Option Int) {rest : List Char} (ends : NumberEnds rest) :
    readPower (Literal.powerText power ++ rest) = some (power, rest) := by
  cases power with
  | none =>
    cases rest with
    | nil => rfl
    | cons c rest =>
      have ⟨_, _, small, large⟩ := ends c rfl
      simp [Literal.powerText, readPower, small, large]
  | some power =>
    have digits := readDigits_append (digits_toDigits power.natAbs) ends.noDigit
    simp only [Literal.powerText, List.cons_append, readPower, beq_self_eq_true, Bool.true_or,
      if_true]
    split
    next up =>
      simp only [readSign, digits, Option.map_some, Nat.ofDigitChars_toDigits (by decide : 1 < 10) le_rfl]
      simp [abs_of_nonneg up]
    next down =>
      simp only [readSign, digits, Option.map_some, Nat.ofDigitChars_toDigits (by decide : 1 < 10) le_rfl]
      simp [abs_of_neg (not_le.mp down)]

private theorem readFraction_append {fraction : Option (List Char)}
    (digits : ∀ places, fraction = some places → Digits places) {behind : List Char}
    (ends : PartEnds behind) :
    readFraction (Literal.fractionText fraction ++ behind) = some (fraction, behind) := by
  cases fraction with
  | some places =>
    simp only [Literal.fractionText, List.cons_append, readFraction,
      readDigits_append (digits places rfl) ends.noDigit, Option.map_some]
  | none =>
    cases behind with
    | nil => rfl
    | cons c behind => simp [Literal.fractionText, readFraction, (ends c rfl).2]

/-- The parts of a number are read one after the other, however its power is spelled. -/
theorem readNumber_parts {negative : Bool} {whole : List Char} {fraction : Option (List Char)}
    (wholePart : WholePart whole) (digits : ∀ places, fraction = some places → Digits places)
    {behind rest : List Char} {power : Option Int} (ends : PartEnds behind)
    (reads : readPower behind = some (power, rest)) :
    readNumber (Literal.signText negative ++ whole ++ Literal.fractionText fraction ++ behind) =
      (numberOf negative whole fraction power).map (·, rest) := by
  have fractionEnds : NoDigit (Literal.fractionText fraction ++ behind) := by
    cases fraction with
    | some places => intro c member; cases member; rfl
    | none => exact ends.noDigit
  have parts := readWhole_append wholePart fractionEnds
  simp only [List.append_assoc]
  cases negative with
  | true =>
    simp only [Literal.signText, if_true, List.singleton_append, readNumber, parts,
      readFraction_append digits ends, reads, Option.bind_eq_bind, Option.bind_some]
    cases numberOf true whole fraction power <;> rfl
  | false =>
    obtain ⟨c, more, rfl, digit⟩ := wholePart.head
    have unsigned : c ≠ '-' := by
      rintro rfl
      cases digit
    simp only [List.cons_append] at parts
    cases number : numberOf false (c :: more) fraction power <;>
      simp [Literal.signText, readNumber, unsigned, parts, readFraction_append digits ends,
        reads, number]

theorem readNumber_text {literal : Literal} (formed : literal.WellFormed) {rest : List Char}
    (ends : NumberEnds rest) :
    readNumber (literal.text ++ rest) =
      (numberOf literal.negative literal.whole literal.fraction literal.power).map (·, rest) := by
  rw [Literal.text, List.append_assoc]
  exact readNumber_parts formed.whole formed.fraction (partEnds_powerText ends)
    (readPower_append literal.power ends)

theorem head_toDigits {n : Nat} (positive : n ≠ 0) : (Nat.toDigits 10 n).head? ≠ some '0' := by
  have single : ∀ digit < 10, digit ≠ 0 → Nat.digitChar digit ≠ '0' := by decide
  induction n using Nat.strongRecOn with
  | ind n ih =>
    rcases Nat.lt_or_ge n 10 with small | large
    · rw [Nat.toDigits_of_lt_base small]
      exact fun same => single n small positive (Option.some.inj same)
    · rw [Nat.toDigits_of_base_le (by decide) large,
        List.head?_append_of_ne_nil _ Nat.toDigits_ne_nil]
      exact ih (n / 10) (by omega) (by omega)

theorem wholePart_toDigits (n : Nat) : WholePart (Nat.toDigits 10 n) := by
  by_cases zero : n = 0
  · exact .inl (zero ▸ rfl)
  · exact .inr ⟨digits_toDigits n, head_toDigits zero⟩

def Literal.ofInt (value : Int) : Literal :=
  ⟨decide (value < 0), Nat.toDigits 10 value.natAbs, none, none⟩

private theorem le_ofDigitChars (digits : List Char) (start : Nat) :
    start ≤ Nat.ofDigitChars 10 digits start := by
  induction digits generalizing start with
  | nil => exact le_rfl
  | cons digit digits ih =>
    rw [Nat.ofDigitChars_cons]
    exact le_trans (by omega) (ih _)

private theorem collect_fits {digits : List Char} {start : Nat}
    (fits : Nat.ofDigitChars 10 digits start ≤ 18446744073709551615) :
    collect start digits = (Nat.ofDigitChars 10 digits start, []) := by
  induction digits generalizing start with
  | nil => rfl
  | cons digit digits ih =>
    rw [Nat.ofDigitChars_cons] at fits ⊢
    rw [collect, if_pos (le_trans (le_ofDigitChars digits _) fits), ih fits]

theorem significand_fits {whole places : List Char}
    (fits : Nat.ofDigitChars 10 (whole ++ places) 0 ≤ 18446744073709551615) :
    significand whole places = ⟨Nat.ofDigitChars 10 (whole ++ places) 0, -places.length⟩ := by
  rw [Nat.ofDigitChars_append] at fits ⊢
  have first := collect_fits (le_trans (le_ofDigitChars places _) fits)
  simp [significand, first, collect_fits fits]

private theorem numberOf_ofInt (value : Int) (fits : Whole value) :
    numberOf (decide (value < 0)) (Nat.toDigits 10 value.natAbs) none none =
      some (.whole value fits) := by
  have size : Nat.ofDigitChars 10 (Nat.toDigits 10 value.natAbs ++ []) 0 = value.natAbs := by
    rw [List.append_nil]
    exact Nat.ofDigitChars_ten_toDigits
  have held := significand_fits (by rw [size]; omega)
  rw [size] at held
  have signed : (if decide (value < 0) = true then -(value.natAbs : Int) else value.natAbs) = value := by
    split
    next below =>
      have := of_decide_eq_true below
      omega
    next above =>
      have := of_decide_eq_false (Bool.not_eq_true _ ▸ above)
      omega
  have nonzero : ¬ (decide (value < 0) = true ∧ value.natAbs = 0) := by
    rintro ⟨below, zero⟩
    have := of_decide_eq_true below
    omega
  simp only [numberOf, Option.getD_none, held, signed, nonzero, not_false_eq_true, and_true,
    List.length_nil, Nat.cast_zero, neg_zero]
  exact dif_pos fits

/-- A literal of a decimal, with all its digits, and with one zero behind the point if there are
none. It does not look like a whole number. -/
structure Literal.Writes (literal : Literal) (d : Decimal) : Prop where
  formed : literal.WellFormed
  floating : literal.fraction.isSome ∨ literal.power.isSome
  denotes : literal.decimal = d ∨
    0 ≤ d.exponent ∧ literal.decimal = ⟨d.digits * 10 ^ (d.exponent.toNat + 1), -1⟩
  power : ∀ power ∈ literal.power, d.exponent ≤ power ∧ power < d.width + d.exponent

/-- A literal of few digits and a near power is read as the number nearest to it. -/
theorem Literal.numberOf_short {literal : Literal}
    (floating : literal.fraction.isSome ∨ literal.power.isSome)
    (few : literal.decimal.digits < 2 ^ 53) (near : literal.decimal.exponent.natAbs ≤ 22)
    (power : (literal.power.getD 0).natAbs ≤ 2147483647) :
    numberOf literal.negative literal.whole literal.fraction literal.power =
      (Binary64.ofDecimal? literal.negative literal.decimal).map .float := by
  obtain ⟨negative, whole, fraction, power'⟩ := literal
  have held := significand_fits (le_trans (Nat.le_of_lt few) (by norm_num))
  have exponent : -((fraction.getD []).length : Int) + power'.getD 0 =
      power'.getD 0 - (fraction.getD []).length := by omega
  have scales : floating? negative (significand whole (fraction.getD [])) (power'.getD 0) =
      Binary64.ofDecimal? negative (decimal ⟨negative, whole, fraction, power'⟩) := by
    rw [floating?, if_neg (Nat.not_lt.mpr power), held, exponent]
    exact scale?_digits negative few near
  rw [← scales]
  cases fraction with
  | some places => rfl
  | none =>
    cases power' with
    | some power => rfl
    | none => exact absurd floating (by simp)

theorem ofDigitChars_padded (n padding zeros : Nat) :
    Nat.ofDigitChars 10
      (List.replicate padding '0' ++ (Nat.toDigits 10 n ++ List.replicate zeros '0')) 0 =
      n * 10 ^ zeros := by
  simp only [Nat.ofDigitChars_append, Nat.ofDigitChars_replicate_zero, Nat.zero_mul,
    Nat.ofDigitChars_ten_toDigits, Nat.mul_comm]

namespace Literal.Writes

variable {d : Decimal} (negative : Bool)

theorem padded (positive : d.digits ≠ 0) (whole : 0 ≤ d.exponent) :
    Writes ⟨negative, Nat.toDigits 10 d.digits ++ List.replicate d.exponent.toNat '0', some ['0'], none⟩
      d where
  formed := {
    whole := by
      refine .inr ⟨⟨by simp, ?_⟩, ?_⟩
      · intro c member
        rcases List.mem_append.mp member with digit | zero
        · exact (digits_toDigits d.digits).digits c digit
        · rw [List.eq_of_mem_replicate zero]
          rfl
      · rw [List.head?_append_of_ne_nil _ Nat.toDigits_ne_nil]
        exact head_toDigits positive
    fraction := by
      rintro places ⟨⟩
      exact digits_zero }
  floating := .inl rfl
  denotes := by
    have digits : Nat.ofDigitChars 10 (Nat.toDigits 10 d.digits ++
        List.replicate d.exponent.toNat '0' ++ ['0']) 0 = d.digits * 10 ^ (d.exponent.toNat + 1) := by
      simpa [List.replicate_succ'] using ofDigitChars_padded d.digits 0 (d.exponent.toNat + 1)
    exact .inr ⟨whole, by simp only [decimal, Option.getD_some, digits]; rfl⟩
  power := nofun

theorem pointed (point : Nat) (power : Option Int) (positive : d.digits ≠ 0) (leading : 0 < point)
    (inside : point < (Nat.toDigits 10 d.digits).length)
    (place : d.exponent = power.getD 0 + point - (Nat.toDigits 10 d.digits).length) :
    Writes ⟨negative, (Nat.toDigits 10 d.digits).take point,
      some ((Nat.toDigits 10 d.digits).drop point), power⟩ d where
  formed := {
    whole := by
      have digits := digits_toDigits d.digits
      refine .inr ⟨⟨?_, fun c member => digits.digits c (List.mem_of_mem_take member)⟩, ?_⟩
      · exact List.ne_nil_of_length_pos (by rw [List.length_take]; omega)
      · rw [List.head?_take, if_neg (by omega)]
        exact head_toDigits positive
    fraction := by
      rintro places ⟨⟩
      refine ⟨List.ne_nil_of_length_pos (by rw [List.length_drop]; omega), fun c member => ?_⟩
      exact (digits_toDigits d.digits).digits c (List.mem_of_mem_drop member) }
  floating := .inl rfl
  denotes := by
    refine .inl ?_
    simp only [decimal, Option.getD_some, List.take_append_drop, Nat.ofDigitChars_ten_toDigits,
      List.length_drop]
    exact congrArg (Decimal.mk d.digits) (by omega)
  power := by
    rintro power ⟨⟩
    rw [Option.getD_some] at place
    unfold Decimal.width
    omega

theorem leading (zeros : Nat) (place : d.exponent = -(zeros + (Nat.toDigits 10 d.digits).length)) :
    Writes ⟨negative, ['0'], some (List.replicate zeros '0' ++ Nat.toDigits 10 d.digits), none⟩ d where
  formed := {
    whole := .inl rfl
    fraction := by
      rintro places ⟨⟩
      refine ⟨by simp, fun c member => ?_⟩
      rcases List.mem_append.mp member with zero | digit
      · rw [List.eq_of_mem_replicate zero]
        rfl
      · exact (digits_toDigits d.digits).digits c digit }
  floating := .inl rfl
  denotes := by
    have digits : Nat.ofDigitChars 10
        (['0'] ++ (List.replicate zeros '0' ++ Nat.toDigits 10 d.digits)) 0 = d.digits := by
      simpa [List.replicate_succ] using ofDigitChars_padded d.digits (zeros + 1) 0
    refine .inl ?_
    simp only [decimal, Option.getD_some, digits, List.length_append, List.length_replicate]
    exact congrArg (Decimal.mk d.digits) (by simp [place])
  power := nofun

theorem scaled : Writes ⟨negative, Nat.toDigits 10 d.digits, none, some d.exponent⟩ d where
  formed := ⟨wholePart_toDigits d.digits, nofun⟩
  floating := .inr rfl
  denotes := by
    refine .inl ?_
    simp only [decimal, Option.getD_none, List.append_nil, Nat.ofDigitChars_ten_toDigits,
      Option.getD_some, List.length_nil, Nat.cast_zero, sub_zero]
  power := by
    rintro power ⟨⟩
    have some_digit : 0 < d.width := Nat.length_toDigits_pos
    omega

theorem value {literal : Literal} (writes : literal.Writes d) : literal.decimal.value = d.value := by
  rcases writes.denotes with same | ⟨whole, same⟩
  · rw [same]
  · have exponent : (((d.exponent.toNat + 1 : Nat) : Int) + -1) = d.exponent := by omega
    rw [same, ← Decimal.value_trim, Decimal.trim_scale, Decimal.value_trim, add_comm, exponent]

end Literal.Writes

/-- What is written for a number other than zero is a literal of the chosen decimal. -/
theorem text_literal {x : Binary64} (nonzero : x.isZero = false) :
    ∃ literal : Literal, literal.negative = x.negative ∧ literal.Writes x.shortest ∧
      x.text exponentStyle = literal.text := by
  have positive := (Binary64.denotes_shortest nonzero).positive nonzero
  simp only [Binary64.text, nonzero, Bool.false_eq_true, if_false]
  obtain ⟨d, chosen⟩ : ∃ d, d = x.shortest := ⟨_, rfl⟩
  simp only [← chosen] at positive ⊢
  have length : 0 < (Nat.toDigits 10 d.digits).length := Nat.length_toDigits_pos
  obtain ⟨lead, first⟩ : ∃ lead : Int, lead = (Nat.toDigits 10 d.digits).length + d.exponent - 1 :=
    ⟨_, rfl⟩
  simp only [← first]
  split
  next near =>
    split
    next whole =>
      refine ⟨_, rfl, .padded x.negative positive whole, ?_⟩
      simp [Literal.text, Literal.signText, Literal.fractionText, Literal.powerText]
    next fractional =>
      split
      next inside =>
        refine ⟨_, rfl, .pointed x.negative (lead.toNat + 1) none positive
          (by omega) (by omega) (by simp only [Option.getD_none]; omega), ?_⟩
        simp [Literal.text, Literal.signText, Literal.fractionText, Literal.powerText]
      next outside =>
        refine ⟨_, rfl, .leading x.negative (-lead - 1).toNat (by omega), ?_⟩
        simp [Literal.text, Literal.signText, Literal.fractionText, Literal.powerText]
  next far =>
    have power : (if 0 ≤ lead then exponentStyle.positiveSign else ['-']) =
        [if 0 ≤ lead then '+' else '-'] := by
      split <;> rfl
    rw [power]
    by_cases single : (Nat.toDigits 10 d.digits).length = 1
    · refine ⟨_, rfl, .scaled x.negative, ?_⟩
      have exponent : lead = d.exponent := by omega
      simp [Literal.text, Literal.signText, Literal.fractionText, Literal.powerText, single, exponent]
    · refine ⟨_, rfl, .pointed x.negative 1 (some lead) positive
        (by omega) (by omega) (by simp only [Option.getD_some]; omega), ?_⟩
      simp [Literal.text, Literal.signText, Literal.fractionText, Literal.powerText, single]

theorem text_ofInt (value : Int) (fits : Whole value) :
    writeNumber (.whole value fits) = (Literal.ofInt value).text := by
  simp only [writeNumber, Literal.text, Literal.ofInt, Literal.signText, Literal.fractionText,
    Literal.powerText, decide_eq_true_eq]
  split <;> simp

theorem Literal.formed_ofInt (value : Int) : (ofInt value).WellFormed where
  whole := wholePart_toDigits _
  fraction := nofun

def Literal.zero (negative : Bool) : Literal :=
  ⟨negative, ['0'], some ['0'], none⟩

theorem text_zero {x : Binary64} (zero : x.isZero = true) :
    writeNumber (.float x) = (Literal.zero x.negative).text := by
  simp only [writeNumber, Binary64.text, zero, if_true]
  cases x.negative <;> rfl

theorem Literal.formed_zero (negative : Bool) : (zero negative).WellFormed where
  whole := .inl rfl
  fraction := by
    rintro places ⟨⟩
    exact digits_zero

private theorem numberOf_zero (negative : Bool) :
    numberOf negative ['0'] (some ['0']) none = some (.float (Binary64.zero negative)) := by
  cases negative <;> decide +kernel

theorem writeNumber_literal (number : Number) :
    ∃ literal : Literal, literal.WellFormed ∧ writeNumber number = literal.text := by
  cases number with
  | whole value fits =>
    exact ⟨.ofInt value, Literal.formed_ofInt value, text_ofInt value fits⟩
  | float x =>
    cases isZero : x.isZero with
    | true =>
      exact ⟨.zero x.negative, Literal.formed_zero x.negative, text_zero isZero⟩
    | false =>
      obtain ⟨literal, _, writes, text⟩ := text_literal isZero
      exact ⟨literal, writes.formed, text⟩

/-- The text of a number is read as that number. There are floating numbers of many digits of which
this is not true, as the reader rounds more than once. -/
def Number.Lasts (number : Number) : Prop :=
  readNumber (writeNumber number) = some (number, [])

instance (number : Number) : Decidable number.Lasts :=
  inferInstanceAs (Decidable (_ = _))

/-- A number that lasts is read back wherever the text goes on with no part of a number. -/
theorem readNumber_writeNumber {number : Number} (lasts : number.Lasts) {rest : List Char}
    (ends : NumberEnds rest) : readNumber (writeNumber number ++ rest) = some (number, rest) := by
  obtain ⟨literal, formed, text⟩ := writeNumber_literal number
  have alone := readNumber_text formed numberEnds_nil
  rw [List.append_nil, ← text, lasts] at alone
  obtain ⟨value, denotes, same⟩ := Option.map_eq_some_iff.mp alone.symm
  cases same
  rw [text, readNumber_text formed ends, denotes, Option.map_some]

theorem Number.lasts_of_literal {number : Number} {literal : Literal} (formed : literal.WellFormed)
    (text : writeNumber number = literal.text)
    (denotes : numberOf literal.negative literal.whole literal.fraction literal.power = some number) :
    number.Lasts := by
  have read := readNumber_text formed numberEnds_nil
  rwa [List.append_nil, ← text, denotes, Option.map_some] at read

private theorem Number.lasts_whole (value : Int) (fits : Whole value) : (whole value fits).Lasts :=
  lasts_of_literal (Literal.formed_ofInt value) (text_ofInt value fits) (numberOf_ofInt value fits)

private theorem Number.lasts_zero {x : Binary64} (isZero : x.isZero = true) : (float x).Lasts := by
  refine lasts_of_literal (Literal.formed_zero x.negative) (text_zero isZero) ?_
  rw [Binary64.eq_zero_of_isZero isZero]
  exact numberOf_zero x.negative

private theorem Number.lasts_float {x : Binary64} (nonzero : x.isZero = false)
    (few : x.shortest.width ≤ 15)
    (low : -22 ≤ x.shortest.exponent) (high : x.shortest.width + x.shortest.exponent ≤ 14) :
    (float x).Lasts := by
  obtain ⟨literal, sign, writes, text⟩ := text_literal nonzero
  have digits := x.shortest.digits_lt
  have short : literal.decimal.digits < 2 ^ 53 ∧ literal.decimal.exponent.natAbs ≤ 22 := by
    rcases writes.denotes with same | ⟨whole, same⟩
    · refine same ▸ ⟨lt_of_lt_of_le digits ?_, by omega⟩
      exact le_trans (Nat.pow_le_pow_right (by norm_num) few) (by norm_num)
    · refine same ▸ ⟨?_, by simp⟩
      calc x.shortest.digits * 10 ^ (x.shortest.exponent.toNat + 1)
          < 10 ^ x.shortest.width * 10 ^ (x.shortest.exponent.toNat + 1) :=
            Nat.mul_lt_mul_of_pos_right digits (by positivity)
        _ = 10 ^ (x.shortest.width + (x.shortest.exponent.toNat + 1)) := (pow_add _ _ _).symm
        _ ≤ 10 ^ 15 := Nat.pow_le_pow_right (by norm_num) (by omega)
        _ < 2 ^ 53 := by norm_num
  have power : (literal.power.getD 0).natAbs ≤ 2147483647 := by
    cases given : literal.power with
    | none => decide
    | some power =>
      have ⟨_, _⟩ := writes.power power given
      rw [Option.getD_some]
      omega
  refine lasts_of_literal writes.formed text ?_
  rw [Literal.numberOf_short writes.floating short.1 short.2 power, sign,
    Binary64.ofDecimal?_congr _ writes.value, (Binary64.denotes_shortest nonzero).reads,
    Option.map_some]

/-- A number that is whole or zero, or has at most 15 digits, with at most 14 places before the point
and 22 behind it. -/
def Number.Short : Number → Prop
  | .whole _ _ => True
  | .float x => x.isZero = true ∨ x.shortest.width ≤ 15 ∧ -22 ≤ x.shortest.exponent ∧
      x.shortest.width + x.shortest.exponent ≤ 14

instance : DecidablePred Number.Short
  | .whole _ _ => isTrue trivial
  | .float _ => inferInstanceAs (Decidable (_ ∨ _ ∧ _ ∧ _))

theorem Number.Short.lasts {number : Number} (short : number.Short) : number.Lasts := by
  cases number with
  | whole value fits => exact lasts_whole value fits
  | float x =>
    cases isZero : x.isZero with
    | true => exact lasts_zero isZero
    | false =>
      obtain zero | ⟨few, low, high⟩ := short
      · cases isZero.symm.trans zero
      · exact lasts_float isZero few low high

/-- The number whose text is 0.9680488278533529 is read as the one below it. -/
example : ¬ Number.Lasts (.float ⟨false, 8719408680793611, -53, by decide⟩) := by decide +kernel

theorem writeNumber_head (number : Number) :
    ∃ c more, writeNumber number = c :: more ∧ (c = '-' ∨ c.isDigit = true) := by
  obtain ⟨⟨negative, whole, fraction, power⟩, formed, text⟩ := writeNumber_literal number
  rw [text]
  cases negative with
  | true => exact ⟨'-', _, rfl, .inl rfl⟩
  | false =>
    obtain ⟨c, more, rfl, digit⟩ := formed.whole.head
    exact ⟨c, _, rfl, .inr digit⟩

end InterfaceSync.Json
