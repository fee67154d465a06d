import InterfaceSync.Proofs.JsonText

/-! The grammar of JSON texts, told without the reader and without its limits. A phrase is what a
text says, as it is spelled there: with its escapes, its blanks left out, and its members in their
places. A phrase has a value unless the reader's arithmetic leaves the finite numbers on a number in
it or half a character stands alone. The parts that hold no others are compared with their readers
here. -/

namespace InterfaceSync.Json

/-- One piece of a string: a character as it is, an escaped one, or a unit in four digits. -/
inductive Piece
  | plain (c : Char)
  | escape (letter : Char)
  | unit (a b c d : Char)

namespace Piece

def text : Piece → List Char
  | plain c => [c]
  | escape letter => ['\\', letter]
  | unit a b c d => ['\\', 'u', a, b, c, d]

def Formed : Piece → Prop
  | plain c => c ≠ '"' ∧ c ≠ '\\' ∧ ' ' ≤ c
  | escape letter => letter ∈ ['"', '\\', '/', 'b', 'f', 'n', 'r', 't']
  | unit a b c d => ∀ digit ∈ [a, b, c, d], (Hex.digit? digit).isSome = true

instance : DecidablePred Formed
  | plain c => inferInstanceAs (Decidable (c ≠ '"' ∧ c ≠ '\\' ∧ ' ' ≤ c))
  | escape letter =>
    inferInstanceAs (Decidable (letter ∈ ['"', '\\', '/', 'b', 'f', 'n', 'r', 't']))
  | unit a b c d => List.decidableBAll (fun digit => (Hex.digit? digit).isSome = true) [a, b, c, d]

end Piece

/-- The characters that pieces stand for. A half of a character counts in front of its other half
only. -/
def unescape? : List Piece → Option (List Char)
  | [] => some []
  | .plain c :: rest => (unescape? rest).map (c :: ·)
  | .escape letter :: rest =>
    (escaped? letter).bind fun char => (unescape? rest).map (char :: ·)
  | .unit a b c d :: rest =>
    match hexUnit? a b c d with
    | none => none
    | some unit =>
      if 0xD800 ≤ unit ∧ unit < 0xE000 then
        match rest with
        | .unit e f g h :: rest =>
          ((hexUnit? e f g h).bind (pair? unit)).bind fun char =>
            (unescape? rest).map (char :: ·)
        | _ => none
      else (unescape? rest).map (Char.ofNat unit :: ·)

def quoted (pieces : List Piece) : List Char :=
  '"' :: pieces.flatMap Piece.text ++ ['"']

private theorem escaped?_letter {letter : Char} (formed : (Piece.escape letter).Formed) :
    ∃ char, escaped? letter = some char ∧ letter ≠ 'u' := by
  simp only [Piece.Formed, List.mem_cons, List.not_mem_nil, or_false] at formed
  rcases formed with rfl | rfl | rfl | rfl | rfl | rfl | rfl | rfl <;> exact ⟨_, rfl, by decide⟩

private theorem formed_escape {letter char : Char} (stands : escaped? letter = some char) :
    (Piece.escape letter).Formed := by
  unfold escaped? at stands
  split at stands
  case h_9 => cases stands
  all_goals simp [Piece.Formed]

private theorem hexUnit?_isSome {a b c d : Char} :
    (hexUnit? a b c d).isSome = true ↔ (Piece.unit a b c d).Formed := by
  simp only [Piece.Formed, List.forall_mem_cons, List.not_mem_nil, false_implies, implies_true,
    and_true, hexUnit?]
  cases Hex.digit? a <;> cases Hex.digit? b <;> cases Hex.digit? c <;> cases Hex.digit? d <;> simp

theorem readChars_pieces {pieces : List Piece} (formed : ∀ piece ∈ pieces, piece.Formed)
    {chars : List Char} (stands : unescape? pieces = some chars) (rest : List Char) :
    readChars (pieces.flatMap Piece.text ++ '"' :: rest) = some (chars, rest) := by
  fun_induction unescape? pieces generalizing chars with
  | case1 => cases stands; rfl
  | case2 c pieces ih =>
    obtain ⟨inner, tail, rfl⟩ := Option.map_eq_some_iff.mp stands
    obtain ⟨⟨_, backslash, printed⟩, formed⟩ := List.forall_mem_cons.mp formed
    have notControl : ¬ c < ' ' := Char.not_lt.mpr printed
    simp [List.flatMap_cons, Piece.text, readChars, backslash, notControl, ih formed tail]
  | case3 letter pieces ih =>
    obtain ⟨char, named, more⟩ := Option.bind_eq_some_iff.mp stands
    obtain ⟨inner, tail, rfl⟩ := Option.map_eq_some_iff.mp more
    obtain ⟨escape, formed⟩ := List.forall_mem_cons.mp formed
    obtain ⟨_, _, notUnit⟩ := escaped?_letter escape
    simp [List.flatMap_cons, Piece.text, readChars, notUnit, named, ih formed tail]
  | case4 a b c d pieces missing => cases stands
  | case5 a b c d unit code half e f g h pieces ih =>
    obtain ⟨char, pair, more⟩ := Option.bind_eq_some_iff.mp stands
    obtain ⟨inner, tail, rfl⟩ := Option.map_eq_some_iff.mp more
    obtain ⟨_, formed⟩ := List.forall_mem_cons.mp formed
    obtain ⟨_, formed⟩ := List.forall_mem_cons.mp formed
    simp [List.flatMap_cons, Piece.text, readChars, code, half, pair, ih formed tail]
  | case6 => cases stands
  | case7 a b c d pieces unit code single ih =>
    obtain ⟨inner, tail, rfl⟩ := Option.map_eq_some_iff.mp stands
    obtain ⟨_, formed⟩ := List.forall_mem_cons.mp formed
    simp [List.flatMap_cons, Piece.text, readChars, code, single, ih formed tail]

private theorem map_cons_some {char : Char} {found : Option (List Char × List Char)}
    {chars rest : List Char}
    (read : (found.map fun (chars, rest) => (char :: chars, rest)) = some (chars, rest)) :
    ∃ inner, found = some (inner, rest) ∧ chars = char :: inner := by
  obtain ⟨⟨inner, behind⟩, here, same⟩ := Option.map_eq_some_iff.mp read
  cases same
  exact ⟨inner, here, rfl⟩

theorem pieces_of_readChars {text chars rest : List Char}
    (read : readChars text = some (chars, rest)) :
    ∃ pieces, (∀ piece ∈ pieces, piece.Formed) ∧ unescape? pieces = some chars ∧
      text = pieces.flatMap Piece.text ++ '"' :: rest := by
  fun_induction readChars text generalizing chars with
  | case1 => cases read
  | case2 rest =>
    cases read
    exact ⟨[], nofun, rfl, rfl⟩
  | case3 => cases read
  | case4 a b c d unit code half e f g h text char pair ih =>
    obtain ⟨inner, tail, rfl⟩ := map_cons_some read
    obtain ⟨pieces, formed, stands, rfl⟩ := ih tail
    obtain ⟨low, code', _⟩ := Option.bind_eq_some_iff.mp pair
    have first := hexUnit?_isSome.mp (Option.isSome_of_eq_some code)
    have second := hexUnit?_isSome.mp (Option.isSome_of_eq_some code')
    refine ⟨.unit a b c d :: .unit e f g h :: pieces, ?_, ?_, rfl⟩
    · exact List.forall_mem_cons.mpr ⟨first, List.forall_mem_cons.mpr ⟨second, formed⟩⟩
    · simp [unescape?, code, half, pair, stands]
  | case5 => cases read
  | case6 => cases read
  | case7 a b c d text unit code single ih =>
    obtain ⟨inner, tail, rfl⟩ := map_cons_some read
    obtain ⟨pieces, formed, stands, rfl⟩ := ih tail
    have digits := hexUnit?_isSome.mp (Option.isSome_of_eq_some code)
    refine ⟨.unit a b c d :: pieces, List.forall_mem_cons.mpr ⟨digits, formed⟩, ?_, rfl⟩
    simp [unescape?, code, single, stands]
  | case8 letter text _ char named ih =>
    obtain ⟨inner, tail, rfl⟩ := map_cons_some read
    obtain ⟨pieces, formed, stands, rfl⟩ := ih tail
    refine ⟨.escape letter :: pieces, List.forall_mem_cons.mpr ⟨formed_escape named, formed⟩, ?_, rfl⟩
    simp [unescape?, named, stands]
  | case9 => cases read
  | case10 => cases read
  | case11 char text quote _ _ printed ih =>
    obtain ⟨inner, tail, rfl⟩ := map_cons_some read
    obtain ⟨pieces, formed, stands, rfl⟩ := ih tail
    simp only [Bool.or_eq_true, beq_iff_eq, decide_eq_true_eq, not_or, Char.not_lt] at printed
    have plain : (Piece.plain char).Formed := ⟨quote, printed⟩
    refine ⟨.plain char :: pieces, List.forall_mem_cons.mpr ⟨plain, formed⟩, ?_, rfl⟩
    simp [unescape?, stands]

/-- The power of ten at the end of a number, as it is written. -/
structure Power where
  letter : Char
  sign : Option Char
  digits : List Char

namespace Power

def text (power : Power) : List Char :=
  power.letter :: power.sign.toList ++ power.digits

structure Formed (power : Power) : Prop where
  letter : power.letter = 'e' ∨ power.letter = 'E'
  sign : ∀ c ∈ power.sign, c = '+' ∨ c = '-'
  digits : Digits power.digits

def value (power : Power) : Int :=
  let size : Int := Nat.ofDigitChars 10 power.digits 0
  if power.sign = some '-' then -size else size

end Power

structure Numeral where
  negative : Bool
  whole : List Char
  fraction : Option (List Char)
  power : Option Power

private theorem Power.formed_none (power : Power) (written : none = some power) : power.Formed := by
  cases written

namespace Numeral

def powerText : Option Power → List Char
  | some power => power.text
  | none => []

def text (numeral : Numeral) : List Char :=
  Literal.signText numeral.negative ++ numeral.whole ++ Literal.fractionText numeral.fraction ++
    powerText numeral.power

structure Formed (numeral : Numeral) : Prop where
  whole : WholePart numeral.whole
  fraction : ∀ places, numeral.fraction = some places → Digits places
  power : ∀ power, numeral.power = some power → power.Formed

/-- The number that is written, if the reader's arithmetic does not leave the finite numbers. -/
def value? (numeral : Numeral) : Option Number :=
  numberOf numeral.negative numeral.whole numeral.fraction (numeral.power.map Power.value)

end Numeral

theorem digits_of_readDigits {text digits rest : List Char}
    (read : readDigits text = some (digits, rest)) : Digits digits ∧ text = digits ++ rest := by
  simp only [readDigits] at read
  split at read
  · cases read
  next nonempty =>
    cases read
    refine ⟨⟨nonempty, fun c member => List.mem_takeWhile_imp member⟩, ?_⟩
    exact List.takeWhile_append_dropWhile.symm

private theorem whole_of_readWhole {text whole rest : List Char}
    (read : readWhole text = some (whole, rest)) : WholePart whole ∧ text = whole ++ rest := by
  unfold readWhole at read
  split at read
  next text =>
    have zero : whole = ['0'] ∧ rest = text := by
      split at read
      · split at read
        · cases read
        · cases read
          exact ⟨rfl, rfl⟩
      · cases read
        exact ⟨rfl, rfl⟩
    obtain ⟨rfl, rfl⟩ := zero
    exact ⟨.inl rfl, rfl⟩
  next nonzero =>
    obtain ⟨digits, rfl⟩ := digits_of_readDigits read
    refine ⟨.inr ⟨digits, fun zero => ?_⟩, rfl⟩
    obtain ⟨more, rfl⟩ := List.head?_eq_some_iff.mp zero
    exact nonzero _ rfl

private theorem fraction_of_readFraction {text rest : List Char} {fraction : Option (List Char)}
    (read : readFraction text = some (fraction, rest)) :
    (∀ places, fraction = some places → Digits places) ∧
      text = Literal.fractionText fraction ++ rest := by
  unfold readFraction at read
  split at read
  · obtain ⟨⟨places, behind⟩, found, same⟩ := Option.map_eq_some_iff.mp read
    cases same
    obtain ⟨digits, rfl⟩ := digits_of_readDigits found
    exact ⟨by rintro _ ⟨⟩; exact digits, rfl⟩
  · cases read
    exact ⟨nofun, rfl⟩

private theorem sign_of_readSign {text rest : List Char} {negative : Bool}
    (read : readSign text = (negative, rest)) :
    ∃ sign : Option Char, (∀ c ∈ sign, c = '+' ∨ c = '-') ∧ text = sign.toList ++ rest ∧
      negative = decide (sign = some '-') := by
  unfold readSign at read
  split at read
  · cases read
    exact ⟨some '-', by rintro c ⟨⟩; exact .inr rfl, rfl, rfl⟩
  · cases read
    exact ⟨some '+', by rintro c ⟨⟩; exact .inl rfl, rfl, rfl⟩
  · cases read
    exact ⟨none, nofun, rfl, rfl⟩

private theorem readSign_text {sign : Option Char} (formed : ∀ c ∈ sign, c = '+' ∨ c = '-')
    {digits : List Char} (some_ : Digits digits) (rest : List Char) :
    readSign (sign.toList ++ digits ++ rest) = (decide (sign = some '-'), digits ++ rest) := by
  cases sign with
  | some c => rcases formed c rfl with rfl | rfl <;> rfl
  | none =>
    obtain ⟨c, more, rfl⟩ := List.exists_cons_of_ne_nil some_.nonempty
    have digit : c.isDigit = true := some_.digits c List.mem_cons_self
    have unsigned : c ≠ '-' ∧ c ≠ '+' := by
      constructor <;> rintro rfl <;> cases digit
    simp [readSign, unsigned]

private theorem power_of_readPower {text rest : List Char} {value : Option Int}
    (read : readPower text = some (value, rest)) :
    ∃ power : Option Power, (∀ found, power = some found → found.Formed) ∧
      text = Numeral.powerText power ++ rest ∧ power.map Power.value = value := by
  unfold readPower at read
  split at read
  next letter text =>
    split at read
    next marks =>
      obtain ⟨⟨negative, unsigned⟩, signed⟩ : ∃ found, readSign text = found := ⟨_, rfl⟩
      obtain ⟨sign, plus, rfl, rfl⟩ := sign_of_readSign signed
      simp only [signed] at read
      obtain ⟨⟨digits, behind⟩, found, same⟩ := Option.map_eq_some_iff.mp read
      cases same
      obtain ⟨formed, rfl⟩ := digits_of_readDigits found
      simp only [Bool.or_eq_true, beq_iff_eq] at marks
      refine ⟨some ⟨letter, sign, digits⟩, ?_, ?_, ?_⟩
      · rintro _ ⟨⟩
        exact ⟨marks, plus, formed⟩
      · simp [Numeral.powerText, Power.text]
      · simp [Power.value]
    next =>
      cases read
      exact ⟨none, Power.formed_none, rfl, rfl⟩
  next =>
    cases read
    exact ⟨none, Power.formed_none, rfl, rfl⟩

private theorem readPower_text {power : Option Power}
    (formed : ∀ found, power = some found → found.Formed)
    {rest : List Char} (ends : NumberEnds rest) :
    readPower (Numeral.powerText power ++ rest) = some (power.map Power.value, rest) := by
  cases power with
  | none => exact readPower_append none ends
  | some power =>
    obtain ⟨marks, plus, digits⟩ := formed power rfl
    have sign := readSign_text plus digits rest
    have read := readDigits_append digits ends.noDigit
    have letter : (power.letter == 'e' || power.letter == 'E') = true := by simpa using marks
    simp only [Numeral.powerText, Power.text, List.cons_append, List.append_assoc] at sign ⊢
    simp [readPower, letter, sign, read, Power.value]

private theorem partEnds_text {power : Option Power}
    (formed : ∀ found, power = some found → found.Formed)
    {rest : List Char} (ends : NumberEnds rest) : PartEnds (Numeral.powerText power ++ rest) := by
  cases power with
  | none => exact fun c member => ⟨(ends c member).1, (ends c member).2.1⟩
  | some power =>
    intro c member
    cases member
    rcases (formed power rfl).letter with marks | marks <;> rw [marks] <;> decide

theorem readNumber_numeral {numeral : Numeral} (formed : numeral.Formed) {number : Number}
    (stands : numeral.value? = some number) {rest : List Char} (ends : NumberEnds rest) :
    readNumber (numeral.text ++ rest) = some (number, rest) := by
  rw [Numeral.text, List.append_assoc, readNumber_parts formed.whole formed.fraction
    (partEnds_text formed.power ends) (readPower_text formed.power ends)]
  exact congrArg (Option.map (·, rest)) stands

/-- The sign is read first; nothing behind it depends on how it was found. -/
theorem readNumber_signed (text : List Char) :
    ∃ negative unsigned, text = Literal.signText negative ++ unsigned ∧
      readNumber text = (readWhole unsigned).bind fun (whole, rest) =>
        (readFraction rest).bind fun (fraction, rest) =>
          (readPower rest).bind fun (power, rest) =>
            (numberOf negative whole fraction power).bind fun number => some (number, rest) := by
  unfold readNumber
  split
  next negative unsigned signed =>
    refine ⟨negative, unsigned, ?_, rfl⟩
    split at signed <;> cases signed <;> rfl

theorem numeral_of_readNumber {text rest : List Char} {number : Number}
    (read : readNumber text = some (number, rest)) :
    ∃ numeral : Numeral, numeral.Formed ∧ numeral.value? = some number ∧
      text = numeral.text ++ rest := by
  obtain ⟨negative, unsigned, rfl, parts⟩ := readNumber_signed text
  simp only [parts, Option.bind_eq_some_iff] at read
  obtain ⟨⟨whole, behindWhole⟩, readsWhole, ⟨fraction, behindFraction⟩, readsFraction,
    ⟨power, behind⟩, readsPower, value, denotes, same⟩ := read
  cases same
  obtain ⟨wholePart, rfl⟩ := whole_of_readWhole readsWhole
  obtain ⟨digits, rfl⟩ := fraction_of_readFraction readsFraction
  obtain ⟨power, formed, rfl, rfl⟩ := power_of_readPower readsPower
  refine ⟨⟨negative, whole, fraction, power⟩, ⟨wholePart, digits, formed⟩, denotes, ?_⟩
  simp only [Numeral.text, List.append_assoc]

theorem numeral_head {numeral : Numeral} (formed : numeral.Formed) :
    ∃ c more, numeral.text = c :: more ∧ (c = '-' ∨ c.isDigit = true) := by
  obtain ⟨c, more, whole, digit⟩ := formed.whole.head
  cases sign : numeral.negative with
  | true => exact ⟨'-', _, by rw [Numeral.text, sign]; rfl, .inl rfl⟩
  | false => exact ⟨c, _, by rw [Numeral.text, sign, whole]; rfl, .inr digit⟩

inductive Phrase
  | null
  | bool (value : Bool)
  | number (numeral : Numeral)
  | string (pieces : List Piece)
  | array (items : List Phrase)
  | object (members : List (List Piece × Phrase))

namespace Phrase

mutual
/-- What a phrase denotes, if every number and every string in it denotes something. -/
def value? : Phrase → Option Json
  | .null => some .null
  | .bool value => some (.bool value)
  | .number numeral => numeral.value?.map .number
  | .string pieces => (unescape? pieces).map fun chars => .string (.ofList chars)
  | .array items => (values? items).map .array
  | .object members => (members? members).map .object

def values? : List Phrase → Option (List Json)
  | [] => some []
  | item :: items => item.value?.bind fun value => (values? items).map (value :: ·)

def members? : List (List Piece × Phrase) → Option (List (String × Json))
  | [] => some []
  | (key, phrase) :: rest =>
    (unescape? key).bind fun chars => phrase.value?.bind fun value =>
      (members? rest).map ((.ofList chars, value) :: ·)
end

def SpelledKey (key : List Piece) (text : List Char) : Prop :=
  ∃ before after, Blank before ∧ Blank after ∧ (∀ piece ∈ key, piece.Formed) ∧
    text = before ++ quoted key ++ after

mutual
/-- The texts of a phrase. Inside it there may be blanks between any two parts. -/
inductive Spelled : Phrase → List Char → Prop
  | null : Spelled .null ['n', 'u', 'l', 'l']
  | true_ : Spelled (.bool true) ['t', 'r', 'u', 'e']
  | false_ : Spelled (.bool false) ['f', 'a', 'l', 's', 'e']
  | number {numeral} (formed : numeral.Formed) : Spelled (.number numeral) numeral.text
  | string {pieces} (formed : ∀ piece ∈ pieces, piece.Formed) :
      Spelled (.string pieces) (quoted pieces)
  | emptyArray {blanks} (blank : Blank blanks) : Spelled (.array []) ('[' :: blanks ++ [']'])
  | array {items text} (spelled : SpelledItems items text) :
      Spelled (.array items) ('[' :: text ++ [']'])
  | emptyObject {blanks} (blank : Blank blanks) : Spelled (.object []) ('{' :: blanks ++ ['}'])
  | object {members text} (spelled : SpelledMembers members text) :
      Spelled (.object members) ('{' :: text ++ ['}'])

/-- The texts of a phrase with the blanks around it. -/
inductive Spread : Phrase → List Char → Prop
  | intro {phrase before body after} (before_ : Blank before) (spelled : Spelled phrase body)
      (after_ : Blank after) : Spread phrase (before ++ body ++ after)

/-- Items with commas between them; there is at least one. -/
inductive SpelledItems : List Phrase → List Char → Prop
  | single {item text} (first : Spread item text) : SpelledItems [item] text
  | cons {item items text more} (first : Spread item text) (others : SpelledItems items more) :
      SpelledItems (item :: items) (text ++ ',' :: more)

/-- Members with commas between them; there is at least one. -/
inductive SpelledMembers : List (List Piece × Phrase) → List Char → Prop
  | single {key phrase name text} (named : SpelledKey key name) (first : Spread phrase text) :
      SpelledMembers [(key, phrase)] (name ++ ':' :: text)
  | cons {key phrase members name text more} (named : SpelledKey key name)
      (first : Spread phrase text) (others : SpelledMembers members more) :
      SpelledMembers ((key, phrase) :: members) (name ++ ':' :: (text ++ ',' :: more))
end

end Phrase

end InterfaceSync.Json
