import InterfaceSync.Proofs.CharTables
import InterfaceSync.Text.Punycode
import Mathlib.Data.List.Basic
import Mathlib.Data.List.Induction
import Mathlib.Tactic.Ring

/-! Encoded texts and how they are read. The writer and the reader keep the same count of how far the
next character is away, so a text comes back from its form as long as its distances can be read. -/

namespace InterfaceSync.Punycode

theorem digit?_digitChar : ∀ digit < 36, digit? (digitChar digit) = some digit := by
  decide

def IsDigit (c : Char) : Prop :=
  ∃ digit < 36, c = digitChar digit

theorem threshold_bounds (bias place : Nat) :
    1 ≤ threshold bias place ∧ threshold bias place ≤ 26 := by
  unfold threshold
  omega

private theorem digits_isDigit (bias place distance : Nat) : ∀ c ∈ digits bias place distance,
    IsDigit c := by
  fun_induction digits bias place distance with
  | case1 place distance limit small =>
    have bounds := threshold_bounds bias place
    intro c inside
    exact ⟨distance, by omega, List.mem_singleton.mp inside⟩
  | case2 place distance limit large ih =>
    have bounds := threshold_bounds bias place
    have rest : (distance - limit) % (36 - limit) < 36 - limit := Nat.mod_lt _ (by omega)
    exact List.forall_mem_cons.mpr ⟨⟨_, by omega, rfl⟩, ih⟩

/-- What the distances of a text with a thousand characters stay below. -/
def spanLimit : Nat := 1114112000

/-- As long as the thresholds are at their least, weights are powers. -/
def Weighted (bias place weight : Nat) : Prop :=
  place ≤ bias + 8 → ∃ power, weight = 35 ^ power

private theorem Weighted.next {bias place weight rest : Nat} (weighted : Weighted bias place weight)
    (large : threshold bias place ≤ rest) (short : rest * weight < spanLimit) :
    weight * (36 - threshold bias place) < readLimit ∧
      Weighted bias (place + 36) (weight * (36 - threshold bias place)) := by
  have scaled : threshold bias place * weight ≤ rest * weight := Nat.mul_le_mul_right weight large
  constructor
  · by_cases early : place ≤ bias + 8
    · -- A power that is still to be reached is at most the fifth one.
      obtain ⟨power, rfl⟩ := weighted early
      have bounds := threshold_bounds bias place
      have reached : 35 ^ power ≤ threshold bias place * 35 ^ power :=
        Nat.le_mul_of_pos_left _ bounds.1
      have few : power < 6 := by
        by_contra many
        have least : 35 ^ 6 ≤ 35 ^ power := Nat.pow_le_pow_right (by decide) (by omega)
        have value : 35 ^ 6 = 1838265625 := rfl
        simp only [spanLimit] at short
        omega
      calc 35 ^ power * (36 - threshold bias place) ≤ 35 ^ power * 35 :=
            Nat.mul_le_mul_left _ (by omega)
        _ = 35 ^ (power + 1) := (Nat.pow_succ ..).symm
        _ ≤ 35 ^ 6 := Nat.pow_le_pow_right (by decide) few
        _ < readLimit := by decide
    · -- Later, thresholds are so high that the weight is far below the distance.
      have high : 9 ≤ threshold bias place := by
        unfold threshold
        omega
      have least : 9 * weight ≤ threshold bias place * weight := Nat.mul_le_mul_right weight high
      have most : weight * (36 - threshold bias place) ≤ weight * 27 :=
        Nat.mul_le_mul_left weight (by omega)
      simp only [spanLimit] at short
      simp only [readLimit]
      omega
  · intro early
    obtain ⟨power, rfl⟩ := weighted (by omega)
    have least : threshold bias place = 1 := by
      unfold threshold
      omega
    exact ⟨power + 1, by rw [least, Nat.pow_succ]⟩

theorem distance_eq {limit distance : Nat} (reached : limit ≤ distance) (base weight : Nat) :
    distance * weight = (limit + (distance - limit) % base) * weight +
      (distance - limit) / base * (weight * base) := by
  have parts := Nat.mod_add_div (distance - limit) base
  calc distance * weight
      = (limit + ((distance - limit) % base + base * ((distance - limit) / base))) * weight := by
        rw [parts, Nat.add_sub_cancel' reached]
    _ = _ := by ring

namespace Reading

variable {digit : Nat} {reading : Reading}

theorem digit?_last (small : digit < threshold reading.bias reading.place)
    (near : reading.start + (reading.distance + digit * reading.weight) < readLimit) :
    reading.digit? (digitChar digit) =
      Reading.insert? { reading with distance := reading.distance + digit * reading.weight } := by
  have bounds := threshold_bounds reading.bias reading.place
  rw [Reading.digit?, digit?_digitChar digit (by omega)]
  simp only [Option.bind_eq_bind, Option.bind_some, if_neg (Nat.not_le.mpr near), if_pos small]

private theorem digit?_further (large : threshold reading.bias reading.place ≤ digit)
    (within : digit < 36)
    (near : reading.start + (reading.distance + digit * reading.weight) < readLimit)
    (fits : reading.weight * (36 - threshold reading.bias reading.place) < readLimit) :
    reading.digit? (digitChar digit) = some
      { reading with
        distance := reading.distance + digit * reading.weight
        weight := reading.weight * (36 - threshold reading.bias reading.place)
        place := reading.place + 36 } := by
  rw [Reading.digit?, digit?_digitChar digit within]
  simp only [Option.bind_eq_bind, Option.bind_some, if_neg (Nat.not_le.mpr near),
    if_neg (Nat.not_lt.mpr large), if_neg (Nat.not_le.mpr fits)]

end Reading

/-- The digits of a distance are read as that distance, and then the next character is inserted. -/
theorem foldlM_digits (rest : List Char) (distance : Nat) (reading : Reading)
    (short : reading.start + reading.distance + distance * reading.weight < spanLimit)
    (weighted : Weighted reading.bias reading.place reading.weight) :
    (digits reading.bias reading.place distance ++ rest).foldlM Reading.digit? reading =
      (Reading.insert?
        { reading with distance := reading.distance + distance * reading.weight }).bind
        (rest.foldlM Reading.digit? ·) := by
  induction distance using Nat.strongRecOn generalizing reading with
  | ind distance ih =>
    have bounds := threshold_bounds reading.bias reading.place
    have limits : spanLimit < readLimit := by decide
    rw [digits]
    split
    next small =>
      rw [List.singleton_append, List.foldlM_cons, Reading.digit?_last small (by omega)]
      rfl
    next large =>
      have reached : threshold reading.bias reading.place ≤ distance := Nat.not_lt.mp large
      obtain ⟨fits, weighted⟩ := weighted.next reached (by omega)
      have total := distance_eq reached (36 - threshold reading.bias reading.place) reading.weight
      have low : (distance - threshold reading.bias reading.place) %
          (36 - threshold reading.bias reading.place) <
            36 - threshold reading.bias reading.place := Nat.mod_lt _ (by omega)
      have high : (distance - threshold reading.bias reading.place) /
          (36 - threshold reading.bias reading.place) < distance := by
        have upTo := Nat.div_le_self (distance - threshold reading.bias reading.place)
          (36 - threshold reading.bias reading.place)
        omega
      have others := ih _ high
        { reading with
          distance := reading.distance + (threshold reading.bias reading.place +
            (distance - threshold reading.bias reading.place) %
              (36 - threshold reading.bias reading.place)) * reading.weight
          weight := reading.weight * (36 - threshold reading.bias reading.place)
          place := reading.place + 36 } (by dsimp only; omega) weighted
      have within : threshold reading.bias reading.place +
          (distance - threshold reading.bias reading.place) %
            (36 - threshold reading.bias reading.place) < 36 := by omega
      rw [List.cons_append, List.foldlM_cons,
        Reading.digit?_further (Nat.le_add_right _ _) within (by omega) fits, Option.bind_eq_bind,
        Option.bind_some, others, total, Nat.add_assoc]
      rfl

def opening (ascii : List Char) : Reading :=
  ⟨ascii, 128, 0, 72, 0, 1, 36⟩

/-- The characters up to a number that are passed, with those below it that are still to come. -/
def written (number : Nat) (front rest : List Char) : List Char :=
  front.filter (·.toNat ≤ number) ++ rest.filter (·.toNat < number)

def passed (number : Nat) (front : List Char) : Nat :=
  (front.filter (·.toNat ≤ number)).length

/-- What is written so far, and how it is read. Reader and writer count alike how far the next character
is away. -/
structure Matched (start ascii : List Char) (number : Nat) (front rest : List Char)
    (progress : Progress) (reading : Reading) : Prop where
  reads : ∃ form, progress.output = start ++ form ∧ (∀ c ∈ form, IsDigit c) ∧
    form.foldlM Reading.digit? (opening ascii) = some reading
  output : reading.output = written number front rest
  length : progress.written = reading.output.length
  bias : progress.bias = reading.bias
  isFirst : progress.isFirst = decide (reading.start = 0)
  settled : reading.distance = 0 ∧ reading.weight = 1 ∧ reading.place = 36
  upTo : reading.number ≤ number
  away : reading.start + progress.distance + reading.number * (progress.written + 1) =
    number * (progress.written + 1) + passed number front

variable {start ascii : List Char} {number : Nat} {front rest : List Char} {progress : Progress}
  {reading : Reading} {c : Char}

theorem written_length (number : Nat) (front rest : List Char) :
    passed number front ≤ (written number front rest).length := by
  rw [passed, written, List.length_append]
  exact Nat.le_add_right _ _

theorem written_next (here : c.toNat = number) :
    (written number front (c :: rest)).insertIdx (passed number front) c =
      written number (front ++ [c]) rest := by
  have same : c.toNat ≤ number := here.le
  have apart : ¬ c.toNat < number := here.not_lt
  have insert (before behind : List Char) :
      (before ++ behind).insertIdx before.length c = before ++ c :: behind := by
    induction before with
    | nil => rfl
    | cons first before ih => simp [ih]
  simp [written, passed, same, apart, insert]

private theorem written_other (other : c.toNat ≠ number) :
    written number front (c :: rest) = written number (front ++ [c]) rest := by
  have same : c.toNat < number ↔ c.toNat ≤ number := by omega
  by_cases below : c.toNat ≤ number
  · simp [written, same, below]
  · simp [written, same, below]

theorem Matched.passed_le (matched : Matched start ascii number front rest progress reading) :
    passed number front ≤ progress.written := by
  rw [matched.length, matched.output]
  exact written_length _ _ _

private theorem Matched.written_lt
    (matched : Matched start ascii number front (c :: rest) progress reading)
    (here : c.toNat = number) : progress.written < (front ++ c :: rest).length := by
  have front_le := List.length_filter_le (·.toNat ≤ number) front
  have rest_le := List.length_filter_le (·.toNat < number) rest
  have apart : ¬ c.toNat < number := here.not_lt
  have length := matched.length
  simp only [matched.output, written, List.filter_cons, apart, decide_false, Bool.false_eq_true,
    if_false, List.length_append] at length
  simp only [List.length_append, List.length_cons]
  omega

/-- The way to a character leads through every place for each number below its own, and from there to
its place. -/
theorem Matched.goal (matched : Matched start ascii number front rest progress reading) :
    reading.start + progress.distance =
      (number - reading.number) * (progress.written + 1) + passed number front := by
  have split : number * (progress.written + 1) =
      (number - reading.number) * (progress.written + 1) + reading.number * (progress.written + 1) := by
    rw [← Nat.add_mul, Nat.sub_add_cancel matched.upTo]
  have away := matched.away
  omega

private theorem Matched.number_eq (matched : Matched start ascii number front rest progress reading)
    : reading.number + (reading.start + progress.distance) / (progress.written + 1) = number := by
  have place_le := matched.passed_le
  rw [matched.goal, Nat.mul_comm, Nat.mul_add_div (by omega), Nat.div_eq_of_lt (by omega),
    Nat.add_zero, Nat.add_sub_cancel' matched.upTo]

private theorem Matched.place_eq (matched : Matched start ascii number front rest progress reading)
    : (reading.start + progress.distance) % (progress.written + 1) = passed number front := by
  have place_le := matched.passed_le
  rw [matched.goal, Nat.mul_comm, Nat.mul_add_mod, Nat.mod_eq_of_lt (by omega)]

private theorem Matched.short
    (matched : Matched start ascii number front (c :: rest) progress reading)
    (few : (front ++ c :: rest).length ≤ 1000) (here : c.toNat = number) :
    reading.start + progress.distance < spanLimit := by
  have place_le := matched.passed_le
  have total : progress.written + 1 ≤ 1000 := (matched.written_lt here).trans_le few
  have below : number - reading.number + 1 ≤ 0x110000 := by
    have highest := toNat_lt c
    omega
  calc reading.start + progress.distance
      < (number - reading.number + 1) * (progress.written + 1) := by
        rw [matched.goal, Nat.add_mul]
        omega
    _ ≤ 0x110000 * 1000 := Nat.mul_le_mul below total
    _ = spanLimit := rfl

def inserted (number : Nat) (front rest : List Char) (c : Char) (bias : Nat) : Reading :=
  { output := written number (front ++ [c]) rest
    number
    start := passed number front + 1
    bias
    distance := 0
    weight := 1
    place := 36 }

private theorem Matched.insert?
    (matched : Matched start ascii number front (c :: rest) progress reading)
    (here : c.toNat = number) :
    Reading.insert? { reading with distance := progress.distance } =
      some (inserted number front rest c
        (adapt progress.distance (progress.written + 1) progress.isFirst)) := by
  have valid : number.isValidChar := here ▸ c.valid
  have found : Char.ofNat number = c := by rw [← here, Char.ofNat_toNat]
  rw [Reading.insert?]
  dsimp only
  rw [← matched.length, matched.number_eq, matched.place_eq, if_pos valid, found, matched.output,
    written_next here, matched.isFirst]
  rfl

theorem Matched.emit (matched : Matched start ascii number front (c :: rest) progress reading)
    (few : (front ++ c :: rest).length ≤ 1000) (here : c.toNat = number) :
    Matched start ascii number (front ++ [c]) rest
      { output := progress.output ++ digits progress.bias 36 progress.distance
        distance := 0
        bias := adapt progress.distance (progress.written + 1) progress.isFirst
        written := progress.written + 1
        isFirst := false }
      (inserted number front rest c
        (adapt progress.distance (progress.written + 1) progress.isFirst)) := by
  obtain ⟨form, output, isDigit, reads⟩ := matched.reads
  obtain ⟨still, weight, place⟩ := matched.settled
  have short := matched.short few here
  have read := foldlM_digits [] progress.distance reading (by rw [still, weight]; omega)
    (fun _ => ⟨0, by rw [weight]; rfl⟩)
  have same : { reading with distance := reading.distance + progress.distance * reading.weight } =
      { reading with distance := progress.distance } := by
    rw [still, weight, Nat.zero_add, Nat.mul_one]
  rw [same, matched.insert? here, place, List.append_nil] at read
  refine
    { reads := ⟨form ++ digits progress.bias 36 progress.distance, ?_, ?_, ?_⟩
      output := rfl
      length := ?_
      bias := rfl
      isFirst := rfl
      settled := ⟨rfl, rfl, rfl⟩
      upTo := Nat.le_refl _
      away := ?_ }
  · rw [output, List.append_assoc]
  · exact List.forall_mem_append.mpr ⟨isDigit, digits_isDigit _ _ _⟩
  · rw [List.foldlM_append, reads, Option.bind_eq_bind, Option.bind_some, matched.bias, read]
    rfl
  · have longer := congrArg List.length (@written_next number front rest c here)
    rw [List.length_insertIdx, if_pos (written_length _ _ _), ← matched.output,
      ← matched.length] at longer
    exact longer
  · have one : passed number (front ++ [c]) = passed number front + 1 := by
      simp [passed, here.le]
    dsimp only [inserted]
    omega

private theorem Matched.pass
    (matched : Matched start ascii number front (c :: rest) progress reading)
    (few : (front ++ c :: rest).length ≤ 1000) : ∃ reading',
      Matched start ascii number (front ++ [c]) rest (pass number progress c) reading' := by
  have unchanged (other : c.toNat ≠ number) : reading.output = written number (front ++ [c]) rest := by
    rw [matched.output, written_other other]
  unfold Punycode.pass
  split
  next below =>
    have counted : passed number (front ++ [c]) = passed number front + 1 := by
      simp [passed, below.le]
    have away := matched.away
    exact ⟨reading, { matched with
      output := unchanged below.ne
      away := by
        dsimp only
        omega }⟩
  next =>
    split
    next here => exact ⟨_, matched.emit few here⟩
    next other =>
      have skipped : passed number (front ++ [c]) = passed number front := by
        have above : ¬ c.toNat ≤ number := by omega
        simp [passed, above]
      exact ⟨reading, { matched with
        output := unchanged other
        away := by rw [skipped, matched.away] }⟩

private theorem Matched.foldl (matched : Matched start ascii number front rest progress reading)
    (few : (front ++ rest).length ≤ 1000) : ∃ reading',
      Matched start ascii number (front ++ rest) [] (rest.foldl (Punycode.pass number) progress)
        reading' := by
  induction rest generalizing front progress reading with
  | nil => exact ⟨reading, by simpa using matched⟩
  | cons c rest ih =>
    obtain ⟨reading', next⟩ := matched.pass few
    have text : front ++ c :: rest = front ++ [c] ++ rest := by simp
    rw [text] at few ⊢
    exact ih next few

/-- The numbers of the characters that are still to be written, in their order. -/
structure Pending (text : List Char) (next : Nat) (numbers : List Nat) : Prop where
  sorted : numbers.Pairwise (· < ·)
  least : ∀ number ∈ numbers, next ≤ number
  each : ∀ c ∈ text, next ≤ c.toNat → c.toNat ∈ numbers

private theorem Pending.tail {text : List Char} {next : Nat} {numbers : List Nat}
    (pending : Pending text next (number :: numbers)) : Pending text (number + 1) numbers := by
  obtain ⟨first, sorted⟩ := List.pairwise_cons.mp pending.sorted
  refine ⟨sorted, fun other later => first other later, fun c inside above => ?_⟩
  have least := pending.least number List.mem_cons_self
  rcases List.mem_cons.mp (pending.each c inside (by omega)) with same | later
  · omega
  · exact later

/-- No character lies between the number where a search starts and the next one of the text. -/
theorem Pending.between {text : List Char} {next : Nat} {numbers : List Nat}
    (pending : Pending text next (number :: numbers)) :
    ∀ c ∈ text, c.toNat < next ↔ c.toNat < number := by
  intro c inside
  have least := pending.least number List.mem_cons_self
  refine ⟨fun below => below.trans_le least, fun below => Nat.not_le.mp fun above => ?_⟩
  rcases List.mem_cons.mp (pending.each c inside above) with same | later
  · omega
  · have further := (List.pairwise_cons.mp pending.sorted).1 _ later
    omega

theorem Matched.skip {text : List Char} {next : Nat}
    (matched : Matched start ascii next [] text progress reading) (least : next ≤ number)
    (between : ∀ c ∈ text, c.toNat < next ↔ c.toNat < number) :
    Matched start ascii number [] text
      { progress with distance := progress.distance + (number - next) * (progress.written + 1) }
      reading :=
  { matched with
    output := by
      rw [matched.output, written, written, List.filter_nil, List.filter_nil]
      exact congrArg _ (List.filter_congr fun c inside => by simp [between c inside])
    upTo := matched.upTo.trans least
    away := by
      have split : number * (progress.written + 1) =
          (number - next) * (progress.written + 1) + next * (progress.written + 1) := by
        rw [← Nat.add_mul, Nat.sub_add_cancel least]
      have away := matched.away
      simp only [passed, List.filter_nil, List.length_nil] at away ⊢
      omega }

theorem Matched.turn {text : List Char}
    (matched : Matched start ascii number text [] progress reading) :
    Matched start ascii (number + 1) [] text { progress with distance := progress.distance + 1 }
      reading :=
  { matched with
    output := by
      rw [matched.output, written, written, List.filter_nil, List.filter_nil, List.append_nil,
        List.nil_append]
      exact List.filter_congr fun c _ => decide_eq_decide.mpr Nat.lt_succ_iff.symm
    upTo := matched.upTo.trans (Nat.le_succ _)
    away := by
      have all := matched.length
      rw [matched.output, written, List.filter_nil, List.append_nil] at all
      have away := matched.away
      rw [passed, ← all] at away
      simp only [passed, List.filter_nil, List.length_nil, Nat.add_mul, Nat.mul_add] at away ⊢
      omega }

/-- All characters below a number are written, and the next one is searched from there on. -/
theorem Matched.encodeFrom {text : List Char} {next : Nat} {numbers : List Nat}
    (few : text.length ≤ 1000) (pending : Pending text next numbers)
    (matched : Matched start ascii next [] text progress reading) : ∃ reading' last,
      Matched start ascii last [] text (encodeFrom text next progress numbers) reading' ∧
        reading'.output = text := by
  induction numbers generalizing next progress reading with
  | nil =>
    refine ⟨reading, next, matched, ?_⟩
    rw [matched.output, written, List.filter_nil, List.nil_append, List.filter_eq_self]
    intro c inside
    refine decide_eq_true (Nat.not_le.mp fun above => ?_)
    cases pending.each c inside above
  | cons number numbers ih =>
    have searched := matched.skip (pending.least number List.mem_cons_self) pending.between
    obtain ⟨reading', found⟩ := searched.foldl few
    exact ih pending.tail found.turn

private theorem eraseDups_sorted {numbers : List Nat} (sorted : numbers.Pairwise (· ≤ ·)) :
    numbers.eraseDups.Pairwise (· < ·) := by
  induction length : numbers.length using Nat.strongRecOn generalizing numbers with
  | ind length' ih =>
    cases numbers with
    | nil => exact .nil
    | cons number rest =>
      obtain ⟨first, later⟩ := List.pairwise_cons.mp sorted
      have shorter := List.length_filter_le (fun other => !other == number) rest
      rw [List.eraseDups_cons]
      refine .cons (fun other inside => ?_) (ih _ ?_ (later.filter _) rfl)
      · obtain ⟨held, apart⟩ := List.mem_filter.mp (List.mem_eraseDups.mp inside)
        have upTo := first other held
        have different : other ≠ number := by simpa using apart
        omega
      · rw [← length, List.length_cons]
        omega

private theorem pending_numbers (text : List Char) : Pending text 128 (numbers text) where
  sorted := by
    refine eraseDups_sorted ?_
    have sorted := @List.pairwise_mergeSort Nat (· ≤ ·)
      (by simp only [decide_eq_true_eq]; omega)
      (by simp only [Bool.or_eq_true, decide_eq_true_eq]; omega)
      ((text.filter (! isAscii ·)).map Char.toNat)
    simpa using sorted
  least := by
    intro number inside
    simp only [numbers, List.mem_eraseDups, List.mem_mergeSort, List.mem_map, List.mem_filter] at inside
    obtain ⟨c, ⟨_, high⟩, rfl⟩ := inside
    simpa [isAscii] using high
  each := by
    intro c inside high
    simp only [numbers, List.mem_eraseDups, List.mem_mergeSort, List.mem_map, List.mem_filter]
    exact ⟨c, ⟨inside, by simpa [isAscii] using high⟩, rfl⟩

/-- What a form begins with: the ASCII characters, if there are any, and a hyphen. -/
def beginning (ascii : List Char) : List Char :=
  if ascii.isEmpty then [] else ascii ++ ['-']

/-- The form of a text is its ASCII characters and digits that are read as the others. -/
theorem encode_reads {text : List Char} (few : text.length ≤ 1000) :
    ∃ form reading, encode text = beginning (text.filter isAscii) ++ form ∧
      (∀ c ∈ form, IsDigit c) ∧
      form.foldlM Reading.digit? (opening (text.filter isAscii)) = some reading ∧
      reading.output = text ∧ reading.place = 36 := by
  have initial : Matched (beginning (text.filter isAscii)) (text.filter isAscii) 128 [] text
      ⟨beginning (text.filter isAscii), 0, 72, (text.filter isAscii).length, true⟩
      (opening (text.filter isAscii)) :=
    { reads := ⟨[], (List.append_nil _).symm, List.forall_mem_nil _, rfl⟩
      output := rfl
      length := rfl
      bias := rfl
      isFirst := rfl
      settled := ⟨rfl, rfl, rfl⟩
      upTo := Nat.le_refl _
      away := by simp [opening, passed] }
  obtain ⟨reading, last, matched, output⟩ := initial.encodeFrom few (pending_numbers text)
  obtain ⟨form, written, isDigit, reads⟩ := matched.reads
  exact ⟨form, reading, written, isDigit, reads, output, matched.settled.2.2⟩

theorem isDigit_plain {c : Char} (digit : IsDigit c) : isAscii c = true ∧ c.toLower = c ∧
    c ≠ '-' ∧ c ≠ '.' := by
  have all : ∀ digit < 36, isAscii (digitChar digit) = true ∧
      (digitChar digit).toLower = digitChar digit ∧ digitChar digit ≠ '-' ∧
      digitChar digit ≠ '.' := by decide
  obtain ⟨digit, small, rfl⟩ := digit
  exact all digit small

/-- A text is read from its form. -/
theorem decode?_encode {text : List Char} (few : text.length ≤ 1000) :
    decode? (encode text) = some text := by
  obtain ⟨form, reading, written, isDigit, reads, output, place⟩ := encode_reads few
  have whole : ∀ c ∈ form, (c == '-') = false := fun c inside =>
    beq_eq_false_iff_ne.mpr (isDigit_plain (isDigit c inside)).2.2.1
  have apart : (splitLast? (· == '-') (encode text)).getD ([], encode text) =
      (text.filter isAscii, form) := by
    rw [written, beginning]
    split
    next none =>
      rw [List.nil_append, splitLast?_none whole, Option.getD_none, List.isEmpty_iff.mp none]
    next =>
      have hyphen := @splitLast?_append (· == '-') '-' rfl (text.filter isAscii) form whole
      rw [List.append_assoc, List.singleton_append, hyphen, Option.getD_some]
  have unbroken : ((text.filter isAscii).isEmpty && (encode text).contains '-') = false := by
    cases none : (text.filter isAscii).isEmpty with
    | false => rfl
    | true =>
      rw [Bool.true_and, written, beginning, if_pos none, List.nil_append, List.contains_eq_mem,
        decide_eq_false_iff_not]
      exact fun inside => absurd (whole '-' inside) (by decide)
  have opened : (⟨text.filter isAscii, 128, 0, 72, 0, 1, 36⟩ : Reading) =
    opening (text.filter isAscii) := rfl
  rw [decode?, apart]
  simp only [unbroken, Bool.false_eq_true, if_false, opened, reads, Option.bind_eq_bind,
    Option.bind_some, place, if_true, output]

theorem mem_encode {text : List Char} (few : text.length ≤ 1000) {c : Char}
    (inside : c ∈ encode text) : c ∈ text ∧ isAscii c = true ∨ IsDigit c ∨ c = '-' := by
  obtain ⟨form, _, written, isDigit, _⟩ := encode_reads few
  rw [written] at inside
  rcases List.mem_append.mp inside with start | digit
  · unfold beginning at start
    split at start
    next => cases start
    next =>
      rcases List.mem_append.mp start with ascii | hyphen
      · exact .inl (List.mem_filter.mp ascii)
      · exact .inr (.inr (List.mem_singleton.mp hyphen))
  · exact .inr (.inl (isDigit c digit))

theorem getLast?_encode {text : List Char} (few : text.length ≤ 1000)
    (wide : ¬ text.all isAscii = true) : (encode text).getLast? ≠ some '-' := by
  obtain ⟨form, reading, written, isDigit, reads, output, _⟩ := encode_reads few
  have filled : form ≠ [] := by
    rintro rfl
    cases reads
    have same : text.filter isAscii = text := output
    exact wide (List.all_eq_true.mpr (List.filter_eq_self.mp same))
  rw [written, List.getLast?_append_of_ne_nil _ filled]
  intro hyphen
  exact (isDigit_plain (isDigit '-' (List.mem_of_getLast? hyphen))).2.2.1 rfl

/-- A reading has the characters that it began with, and others outside ASCII. -/
structure Reading.Holds (ascii : List Char) (reading : Reading) : Prop where
  number : 128 ≤ reading.number
  place : 36 ≤ reading.place
  output : ∀ c ∈ reading.output, c ∈ ascii ∨ isAscii c = false

private theorem Reading.Holds.insert? {reading reading' : Reading} (holds : reading.Holds ascii)
    (inserted : reading.insert? = some reading') :
    reading'.Holds ascii ∧ ∃ d ∈ reading'.output, isAscii d = false := by
  unfold Reading.insert? at inserted
  obtain ⟨valid, ⟨⟩⟩ := Option.ite_none_right_eq_some.mp inserted
  have least := holds.number
  have place_le : (reading.start + reading.distance) % (reading.output.length + 1) ≤
      reading.output.length := Nat.lt_succ_iff.mp (Nat.mod_lt _ (Nat.succ_pos _))
  have wide : isAscii (Char.ofNat (reading.number +
      (reading.start + reading.distance) / (reading.output.length + 1))) = false := by
    rw [isAscii, toNat_ofNat valid, decide_eq_false_iff_not, Nat.not_lt]
    exact least.trans (Nat.le_add_right _ _)
  refine ⟨⟨least.trans (Nat.le_add_right _ _), Nat.le_refl _, fun d there => ?_⟩,
    ⟨_, (List.mem_insertIdx place_le).mpr (.inl rfl), wide⟩⟩
  rcases (List.mem_insertIdx place_le).mp there with rfl | kept
  · exact .inr wide
  · exact holds.output d kept

private theorem Reading.Holds.digit? {reading reading' : Reading} (holds : reading.Holds ascii)
    (read : reading.digit? c = some reading') : reading'.Holds ascii ∧
      (reading'.place = 36 → ∃ d ∈ reading'.output, isAscii d = false) := by
  simp only [Reading.digit?, Option.bind_eq_bind] at read
  obtain ⟨digit, _, read⟩ := Option.bind_eq_some_iff.mp read
  split at read
  next => cases read
  next =>
    split at read
    next =>
      have moved : Reading.Holds ascii
          { reading with distance := reading.distance + digit * reading.weight } :=
        ⟨holds.number, holds.place, holds.output⟩
      obtain ⟨holds', wide⟩ := moved.insert? read
      exact ⟨holds', fun _ => wide⟩
    next =>
      split at read
      next => cases read
      next =>
        cases read
        have place := holds.place
        exact ⟨⟨holds.number, by dsimp only; omega, holds.output⟩, fun same => by
          dsimp only at same
          omega⟩

private theorem Reading.Holds.foldlM {form : List Char} {reading reading' : Reading}
    (holds : reading.Holds ascii) (read : form.foldlM Reading.digit? reading = some reading') :
    reading'.Holds ascii ∧ (form ≠ [] → reading'.place = 36 →
      ∃ d ∈ reading'.output, isAscii d = false) := by
  induction form using List.reverseRecOn generalizing reading' with
  | nil =>
    cases read
    exact ⟨holds, fun filled => absurd rfl filled⟩
  | append_singleton form c ih =>
    rw [List.foldlM_append, Option.bind_eq_bind, Option.bind_eq_some_iff] at read
    obtain ⟨middle, front, last⟩ := read
    rw [List.foldlM_cons, Option.bind_eq_bind, Option.bind_eq_some_iff] at last
    obtain ⟨_, last, ⟨⟩⟩ := last
    obtain ⟨holds', wide⟩ := (ih front).1.digit? last
    exact ⟨holds', fun _ => wide⟩

/-- What is read of a form is in the form or outside ASCII; and unless the form ends in front of its
digits, there is something outside ASCII. -/
theorem decode?_holds {form text : List Char} (read : decode? form = some text) :
    (∀ c ∈ text, c ∈ form ∨ isAscii c = false) ∧
      (form ≠ [] → form.getLast? ≠ some '-' → ∃ c ∈ text, isAscii c = false) := by
  have parts : ∃ ascii digits, (splitLast? (· == '-') form).getD ([], form) = (ascii, digits) ∧
      ascii ⊆ form ∧ (form ≠ [] → form.getLast? ≠ some '-' → digits ≠ []) := by
    cases hyphen : splitLast? (· == '-') form with
    | none => exact ⟨[], form, rfl, List.nil_subset _, fun filled _ => filled⟩
    | some parts =>
      obtain ⟨mark, same, rfl⟩ := splitLast?_some hyphen
      cases eq_of_beq same
      refine ⟨_, _, rfl, List.subset_append_left _ _, fun _ last none => last ?_⟩
      rw [none, List.getLast?_concat]
  obtain ⟨ascii, digits, parts, inside, ends⟩ := parts
  rw [decode?, parts] at read
  dsimp only at read
  split at read
  next => cases read
  next =>
    obtain ⟨reading, digitsRead, read⟩ := Option.bind_eq_some_iff.mp read
    split at read
    next place =>
      cases read
      have holds : (opening ascii).Holds ascii := ⟨Nat.le_refl _, Nat.le_refl _, fun c => .inl⟩
      obtain ⟨holds', wide⟩ := holds.foldlM digitsRead
      exact ⟨fun c there => (holds'.output c there).imp_left fun own => inside own,
        fun filled last => wide (ends filled last) place⟩
    next => cases read

end InterfaceSync.Punycode
