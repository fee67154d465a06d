import InterfaceSync.Proofs.NumberText
import InterfaceSync.Proofs.Results
import InterfaceSync.Url.Host

/-! Addresses and their text. Whatever form an address is written in, it is kept as a number or as
groups, and reading the text that is made of these gives them back. -/

namespace InterfaceSync

namespace Host

private theorem digit?_digitChar : ∀ value < 16, Hex.digit? (Nat.digitChar value) = some value := by
  decide

theorem exists_digitChar {base : Nat} (wide : 1 < base) {number : Nat} {c : Char}
    (inside : c ∈ Nat.toDigits base number) : ∃ value < base, c = Nat.digitChar value := by
  induction number using Nat.strongRecOn with
  | ind number ih =>
    rw [Nat.toDigits_eq_if wide] at inside
    split at inside
    next small =>
      exact ⟨number, small, List.mem_singleton.mp inside⟩
    next large =>
      rcases List.mem_append.mp inside with front | last
      · exact ih _ (Nat.div_lt_self (by omega) wide) front
      · exact ⟨number % base, Nat.mod_lt _ (by omega), List.mem_singleton.mp last⟩

theorem numberIn_append (base : Nat) (front : List Char) (last : Char) :
    numberIn base (front ++ [last]) = base * numberIn base front + (Hex.digit? last).getD 0 := by
  rw [numberIn, List.foldl_append]
  rfl

theorem numberIn_toDigits {base : Nat} (wide : 1 < base) (known : base ≤ 16) (number : Nat) :
    numberIn base (Nat.toDigits base number) = number := by
  induction number using Nat.strongRecOn with
  | ind number ih =>
    rw [Nat.toDigits_eq_if wide]
    split
    next small => simp [numberIn, digit?_digitChar number (by omega)]
    next large =>
      have digit : number % base < 16 := Nat.lt_of_lt_of_le (Nat.mod_lt _ (by omega)) known
      rw [numberIn_append, ih _ (Nat.div_lt_self (by omega) wide), digit?_digitChar _ digit]
      exact Nat.div_add_mod number base

theorem ipv4Number?_toDigits (number : Nat) :
    ipv4Number? (Nat.toDigits 10 number) = some number := by
  have value : numberIn 10 (Nat.toDigits 10 number) = number :=
    numberIn_toDigits (by decide) (by decide) number
  have digits := Json.digits_toDigits number
  have all : (Nat.toDigits 10 number).all Char.isDigit = true :=
    List.all_eq_true.mpr digits.digits
  rcases Json.wholePart_toDigits number with zero | ⟨_, unpadded⟩
  · rw [zero] at value ⊢
    rw [← value]
    rfl
  · generalize Nat.toDigits 10 number = text at *
    unfold ipv4Number?
    split
    next => exact absurd rfl digits.nonempty
    next => exact absurd rfl unpadded
    next => exact absurd rfl unpadded
    next => exact absurd rfl unpadded
    next => simp only [all, if_true, value]

/-- The text of a byte of an address, counted from the end. -/
def byteText (address place : Nat) : List Char :=
  Nat.toDigits 10 (address / 256 ^ place % 256)

private theorem ipv4Text_eq (address : Nat) : ipv4Text address =
    ['.'].intercalate [byteText address 3, byteText address 2, byteText address 1,
      byteText address 0] := by
  simp [ipv4Text, byteText, List.intercalate]

theorem dottedParts_ipv4Text (address : Nat) : dottedParts (ipv4Text address) =
    [byteText address 3, byteText address 2, byteText address 1, byteText address 0] := by
  have whole : ∀ part ∈ [byteText address 3, byteText address 2, byteText address 1,
      byteText address 0], ∀ c ∈ part, (c == '.') = false := by
    intro part inside c there
    have digit : c.isDigit = true := by
      simp only [List.mem_cons, List.not_mem_nil, or_false] at inside
      rcases inside with rfl | rfl | rfl | rfl
      all_goals exact (Json.digits_toDigits _).digits c there
    rw [beq_eq_false_iff_ne]
    rintro rfl
    exact absurd digit (by decide)
  have last : byteText address 0 ≠ [] := Nat.toDigits_ne_nil
  rw [dottedParts, ipv4Text_eq, splitWhere_intercalate (by decide) (List.cons_ne_nil _ _) whole]
  simp [last]

theorem endsInNumber_ipv4Text (address : Nat) : endsInNumber (ipv4Text address) = true := by
  have last : (ipv4Number? (byteText address 0)).isSome = true := by
    rw [byteText, ipv4Number?_toDigits]
    rfl
  rw [endsInNumber, dottedParts_ipv4Text]
  simp [last]

theorem ipv4?_ipv4Text {address : Nat} (fits : address < 256 ^ 4) :
    ipv4? (ipv4Text address) = some address := by
  have part (place : Nat) : ipv4Number? (byteText address place) =
      some (address / 256 ^ place % 256) := ipv4Number?_toDigits _
  have bytes : (address / 16777216 % 256 ≤ 255 ∧ address / 65536 % 256 ≤ 255 ∧
      address / 256 % 256 ≤ 255) ∧ address % 256 < 256 := by omega
  have total : address % 256 + address / 16777216 % 256 * 16777216 +
      address / 65536 % 256 * 65536 + address / 256 % 256 * 256 = address := by omega
  rw [ipv4?, dottedParts_ipv4Text]
  simp [part, bytes, total]

/-- Bytes with their weights, and a last number that fills the rest, stay below the next weight. The
weights are kept apart from their values, as numbers of that size are not to be unfolded. -/
theorem total_fits (weight : Nat → Nat) (first : weight 0 = 256 ^ 3) (second : weight 1 = 256 ^ 2)
    (third : weight 2 = 256) {bytes : List Nat} (count : bytes.length ≤ 3)
    (small : ∀ byte ∈ bytes, byte ≤ 255) {last : Nat} (rest : last < 256 ^ (4 - bytes.length)) :
    bytes.zipIdx.foldl (fun total x => total + x.1 * weight x.2) last < 256 ^ 4 := by
  match bytes, count with
  | [], _ => simpa using rest
  | [a], _ =>
    have a' := small a (by simp)
    have total : [a].zipIdx.foldl (fun total x => total + x.1 * weight x.2) last =
      last + a * weight 0 := rfl
    simp only [List.length_cons, List.length_nil] at rest
    rw [total, first]
    omega
  | [a, b], _ =>
    have a' := small a (by simp)
    have b' := small b (by simp)
    have total : [a, b].zipIdx.foldl (fun total x => total + x.1 * weight x.2) last =
      last + a * weight 0 + b * weight 1 := rfl
    simp only [List.length_cons, List.length_nil] at rest
    rw [total, first, second]
    omega
  | [a, b, c], _ =>
    have a' := small a (by simp)
    have b' := small b (by simp)
    have c' := small c (by simp)
    have total : [a, b, c].zipIdx.foldl (fun total x => total + x.1 * weight x.2) last =
      last + a * weight 0 + b * weight 1 + c * weight 2 := rfl
    simp only [List.length_cons, List.length_nil] at rest
    rw [total, first, second, third]
    omega

/-- An address is never larger than its four bytes. -/
theorem ipv4?_fits {name : List Char} {address : Nat} (read : ipv4? name = some address) :
    address < 256 ^ 4 := by
  simp only [ipv4?, Option.bind_eq_bind] at read
  split at read
  next => cases read
  next few =>
    obtain ⟨numbers, parts, read⟩ := Option.bind_eq_some_iff.mp read
    have length := (mapM_some.mp parts).length_eq
    split at read
    next => cases read
    next sound =>
      have count : numbers.dropLast.length ≤ 3 := by
        rw [List.length_dropLast]
        omega
      simp only [Bool.or_eq_true, not_or, List.any_eq_true, decide_eq_true_eq, not_exists, not_and,
        not_lt, Nat.not_le] at sound
      cases read
      exact total_fits (fun place => Nat.pow 256 (3 - place)) rfl rfl rfl count sound.1 sound.2

/-- A group is two bytes. -/
def IsGroup (group : Nat) : Prop :=
  group < 65536

theorem hexDigit_plain {group : Nat} {c : Char} (inside : c ∈ Nat.toDigits 16 group) :
    isHex c = true ∧ c ∉ [':', '.', '[', ']', '#', '/', '?', '@', '\\'] ∧ ' ' < c := by
  have plain : ∀ value < 16, isHex (Nat.digitChar value) = true ∧
      Nat.digitChar value ∉ [':', '.', '[', ']', '#', '/', '?', '@', '\\'] ∧
      ' ' < Nat.digitChar value := by decide
  obtain ⟨value, small, rfl⟩ := exists_digitChar (by decide) inside
  exact plain value small

private theorem group?_toDigits {group : Nat} (fits : IsGroup group) :
    group? (Nat.toDigits 16 group) = some group := by
  have filled : (Nat.toDigits 16 group).isEmpty = false :=
    List.isEmpty_eq_false_iff.mpr Nat.toDigits_ne_nil
  have short : (Nat.toDigits 16 group).length ≤ 4 :=
    (Nat.length_toDigits_le_iff (by decide) (by decide)).mpr fits
  have hex : (Nat.toDigits 16 group).all isHex = true :=
    List.all_eq_true.mpr fun c inside => (hexDigit_plain inside).1
  have long : ¬ 4 < (Nat.toDigits 16 group).length := Nat.not_lt.mpr short
  simp [group?, filled, long, hex, numberIn_toDigits]

/-- Groups without a gap, as they are written. -/
def groupsText (groups : List Nat) : List Char :=
  [':'].intercalate (groups.map (Nat.toDigits 16))

theorem groupsText_single (group : Nat) : groupsText [group] = Nat.toDigits 16 group := by
  rw [groupsText, List.map_singleton, List.intercalate_singleton]

theorem groupsText_cons (group next : Nat) (rest : List Nat) :
    groupsText (group :: next :: rest) =
      Nat.toDigits 16 group ++ ':' :: groupsText (next :: rest) := by
  simp [groupsText, List.intercalate]

theorem groupsText_plain {groups : List Nat} {c : Char} (inside : c ∈ groupsText groups) :
    c = ':' ∨ c ∉ [':', '.', '[', ']', '#', '/', '?', '@', '\\'] ∧ ' ' < c := by
  induction groups with
  | nil => simp [groupsText] at inside
  | cons group rest ih =>
    cases rest with
    | nil =>
      rw [groupsText_single] at inside
      exact .inr (hexDigit_plain inside).2
    | cons next rest =>
      rw [groupsText_cons] at inside
      rcases List.mem_append.mp inside with digit | behind
      · exact .inr (hexDigit_plain digit).2
      · rcases List.mem_cons.mp behind with colon | later
        · exact .inl colon
        · exact ih later

private theorem groups?_groupsText (dotted : Bool) {groups : List Nat}
    (fits : ∀ group ∈ groups, IsGroup group) : groups? dotted (groupsText groups) = some groups := by
  cases groups with
  | nil => rfl
  | cons first rest =>
    have filled : (first :: rest).map (Nat.toDigits 16) ≠ [] := List.cons_ne_nil _ _
    have plain : ∀ part ∈ (first :: rest).map (Nat.toDigits 16), ∀ c ∈ part,
        (c == ':') = false ∧ c ≠ '.' := by
      intro part inside c there
      obtain ⟨group, _, rfl⟩ := List.mem_map.mp inside
      obtain ⟨_, apart, _⟩ := hexDigit_plain there
      constructor
      · rw [beq_eq_false_iff_ne]
        rintro rfl
        exact apart (by decide)
      · rintro rfl
        exact apart (by decide)
    have parts : splitWhere (· == ':') (groupsText (first :: rest)) =
        (first :: rest).map (Nat.toDigits 16) :=
      splitWhere_intercalate (by decide) filled fun part inside c there => (plain part inside c there).1
    have undotted : (((first :: rest).map (Nat.toDigits 16)).getLast?.getD []).contains '.' =
        false := by
      rw [List.getLast?_eq_some_getLast filled, Option.getD_some, List.contains_eq_mem,
        decide_eq_false_iff_not]
      exact fun inside => (plain _ (List.getLast_mem filled) '.' inside).2 rfl
    have each : ((first :: rest).map (Nat.toDigits 16)).mapM group? = some (first :: rest) := by
      rw [mapM_some, List.forall₂_map_left_iff, List.forall₂_same]
      exact fun group inside => group?_toDigits (fits group inside)
    have text : (groupsText (first :: rest)).isEmpty = false := by
      rw [List.isEmpty_eq_false_iff]
      intro empty
      rw [empty] at parts
      have none : Nat.toDigits 16 first = [] := by
        cases rest with
        | nil => simpa [splitWhere] using parts.symm
        | cons next rest => simp [splitWhere] at parts
      exact Nat.toDigits_ne_nil none
    simp only [groups?, text, parts, undotted, Bool.and_false, Bool.false_eq_true, if_false, each]

private theorem splitGap?_part {part : List Char} (whole : ∀ c ∈ part, c ≠ ':') (rest : List Char) :
    splitGap? (part ++ rest) =
      (splitGap? rest).map fun (before, behind) => (part ++ before, behind) := by
  induction part with
  | nil =>
    rw [List.nil_append]
    cases splitGap? rest <;> rfl
  | cons c part ih =>
    obtain ⟨first, others⟩ := List.forall_mem_cons.mp whole
    rw [List.cons_append, splitGap?.eq_def]
    split
    next same => exact absurd (List.cons.inj same).1 first
    next same =>
      cases same
      rw [ih others]
      cases splitGap? rest <;> rfl
    next same => cases same

private theorem splitGap?_colon {rest : List Char} (single : rest.head? ≠ some ':') :
    splitGap? (':' :: rest) =
      (splitGap? rest).map fun (before, behind) => (':' :: before, behind) := by
  rw [splitGap?.eq_def]
  split
  next same => exact absurd (by rw [(List.cons.inj same).2]; rfl) single
  next same =>
    cases same
    rfl
  next same => cases same

/-- Groups hold no gap of their own. -/
theorem splitGap?_groupsText (groups : List Nat) (rest : List Char) :
    splitGap? (groupsText groups ++ rest) =
      (splitGap? rest).map fun (before, behind) => (groupsText groups ++ before, behind) := by
  have whole (group : Nat) : ∀ c ∈ Nat.toDigits 16 group, c ≠ ':' := by
    rintro c inside rfl
    exact (hexDigit_plain inside).2.1 (by decide)
  induction groups with
  | nil => exact splitGap?_part (List.forall_mem_nil _) rest
  | cons group others ih =>
    cases others with
    | nil => simpa only [groupsText_single] using splitGap?_part (whole group) rest
    | cons next others =>
      have single : (groupsText (next :: others) ++ rest).head? ≠ some ':' := by
        obtain ⟨c, digits, text⟩ := List.exists_cons_of_ne_nil (l := Nat.toDigits 16 next)
          Nat.toDigits_ne_nil
        have opens : ∃ more, groupsText (next :: others) = c :: more := by
          cases others with
          | nil => exact ⟨digits, by rw [groupsText_single, text]⟩
          | cons _ _ => exact ⟨_, by rw [groupsText_cons, text]; rfl⟩
        obtain ⟨more, opens⟩ := opens
        rw [opens, List.cons_append, List.head?_cons]
        rintro ⟨⟩
        exact whole next ':' (text ▸ List.mem_cons_self) rfl
      rw [groupsText_cons, List.append_assoc, List.cons_append, splitGap?_part (whole group),
        splitGap?_colon single, ih]
      cases splitGap? rest <;> simp

/-- Some groups are a run of zeros between two parts. -/
def IsGap (groups : List Nat) (gap : Nat × Nat) : Prop :=
  groups = groups.take gap.1 ++ List.replicate gap.2 0 ++ groups.drop (gap.1 + gap.2)

private theorem isGap_longest (groups : List Nat) : IsGap groups (longestGap groups) := by
  have run (place : Nat) :
      IsGap groups (place, ((groups.drop place).takeWhile (· == 0)).length) := by
    have zeros : (groups.drop place).takeWhile (· == 0) =
        List.replicate ((groups.drop place).takeWhile (· == 0)).length 0 :=
      List.eq_replicate_iff.mpr ⟨rfl, fun group inside => by
        simpa using List.mem_takeWhile_imp inside⟩
    have rest : groups.drop (place + ((groups.drop place).takeWhile (· == 0)).length) =
        (groups.drop place).dropWhile (· == 0) := by
      rw [← List.drop_drop]
      conv => lhs; arg 2; rw [← List.takeWhile_append_dropWhile (p := (· == 0))
        (l := groups.drop place)]
      rw [List.drop_left]
    rw [IsGap, ← zeros, rest, List.append_assoc, List.takeWhile_append_dropWhile,
      List.take_append_drop]
  have start : IsGap groups (0, 0) := by simp [IsGap]
  rw [longestGap]
  generalize List.range groups.length = places
  suffices keeps : ∀ best, IsGap groups best →
      IsGap groups (places.foldl (fun best place =>
        if best.2 < ((groups.drop place).takeWhile (· == 0)).length then
          (place, ((groups.drop place).takeWhile (· == 0)).length) else best) best) from
    keeps _ start
  induction places with
  | nil => exact fun _ gap => gap
  | cons place places ih =>
    intro best gap
    rw [List.foldl_cons]
    split
    · exact ih _ (run place)
    · exact ih _ gap

theorem ipv6Text_eq (groups : List Nat) : ipv6Text groups =
    if (longestGap groups).2 < 2 then groupsText groups
    else groupsText (groups.take (longestGap groups).1) ++ ':' :: ':' ::
      groupsText (groups.drop ((longestGap groups).1 + (longestGap groups).2)) := rfl

theorem ipv6?_ipv6Text {groups : List Nat} (count : groups.length = 8)
    (fits : ∀ group ∈ groups, IsGroup group) : ipv6? (ipv6Text groups) = some groups := by
  rw [ipv6Text_eq]
  split
  next =>
    have whole : splitGap? (groupsText groups) = none := by
      have split := splitGap?_groupsText groups []
      rwa [List.append_nil] at split
    rw [ipv6?, whole]
    simp [groups?_groupsText true fits, count]
  next long =>
    have gap := isGap_longest groups
    generalize longestGap groups = found at gap long ⊢
    obtain ⟨start, length⟩ := found
    dsimp only [IsGap] at gap long ⊢
    have split : splitGap? (groupsText (groups.take start) ++ ':' :: ':' ::
        groupsText (groups.drop (start + length))) =
          some (groupsText (groups.take start), groupsText (groups.drop (start + length))) := by
      rw [splitGap?_groupsText, splitGap?]
      simp
    have before : groups? false (groupsText (groups.take start)) = some (groups.take start) :=
      groups?_groupsText false fun group inside => fits group (List.take_subset _ _ inside)
    have behind : groups? true (groupsText (groups.drop (start + length))) =
        some (groups.drop (start + length)) :=
      groups?_groupsText true fun group inside => fits group (List.drop_subset _ _ inside)
    have room : 8 - ((groups.take start).length + (groups.drop (start + length)).length) =
        length := by
      have lengths := congrArg List.length gap
      simp only [List.length_append, List.length_replicate] at lengths
      omega
    have wide : length ≠ 0 := by omega
    rw [ipv6?, split]
    simp only [before, behind, Option.bind_eq_bind, Option.bind_some, room, if_neg wide]
    rw [← gap]

private theorem digit?_lt {c : Char} {value : Nat} (read : Hex.digit? c = some value) : value < 16
    := by
  unfold Hex.digit? at read
  split at read
  next range =>
    have high : c.toNat ≤ 57 := range.2
    cases read
    omega
  next =>
    split at read
    next range =>
      have high : c.toNat ≤ 102 := range.2
      cases read
      omega
    next =>
      split at read
      next range =>
        have high : c.toNat ≤ 70 := range.2
        cases read
        omega
      next => cases read

private theorem numberIn_lt {digits : List Char} (hex : ∀ c ∈ digits, isHex c = true) :
    numberIn 16 digits < 16 ^ digits.length := by
  induction digits using List.reverseRecOn with
  | nil => decide
  | append_singleton front last ih =>
    have before := ih fun c inside => hex c (List.mem_append_left _ inside)
    obtain ⟨value, read⟩ := Option.isSome_iff_exists.mp (hex last (by simp))
    have small := digit?_lt read
    rw [numberIn_append, read, Option.getD_some, List.length_append, List.length_singleton,
      Nat.pow_succ]
    omega

private theorem group?_fits {part : List Char} {group : Nat} (read : group? part = some group) :
    IsGroup group := by
  unfold group? at read
  split at read
  next => cases read
  next sound =>
    simp only [Bool.or_eq_true, not_or, Bool.not_eq_true, decide_eq_false_iff_not,
      Bool.not_eq_false', List.all_eq_true] at sound
    cases read
    have short : part.length ≤ 4 := Nat.not_lt.mp sound.1.2
    calc numberIn 16 part < 16 ^ part.length := numberIn_lt sound.2
      _ ≤ 16 ^ 4 := Nat.pow_le_pow_right (by decide) short

private theorem byte?_fits {part : List Char} {byte : Nat} (read : byte? part = some byte) :
    byte ≤ 255 := by
  simp only [byte?] at read
  split at read
  next => cases read
  next sound =>
    rw [Bool.or_eq_true, not_or, decide_eq_true_iff] at sound
    split at read
    · cases read
    · cases read
      exact Nat.not_lt.mp sound.2

private theorem dottedGroups?_fits {part : List Char} {groups : List Nat}
    (read : dottedGroups? part = some groups) : ∀ group ∈ groups, IsGroup group := by
  rw [dottedGroups?, Option.bind_eq_bind, Option.bind_eq_some_iff] at read
  obtain ⟨bytes, parts, read⟩ := read
  have small := mapM_forall (fun _ _ => byte?_fits) parts
  split at read
  next a b c d =>
    have a' := small a (by simp)
    have b' := small b (by simp)
    have c' := small c (by simp)
    have d' := small d (by simp)
    cases read
    simp only [IsGroup, List.mem_cons, List.not_mem_nil, or_false]
    rintro group (rfl | rfl) <;> omega
  next => cases read

private theorem groups?_fits {dotted : Bool} {text : List Char} {groups : List Nat}
    (read : groups? dotted text = some groups) : ∀ group ∈ groups, IsGroup group := by
  simp only [groups?] at read
  split at read
  next =>
    cases read
    exact List.forall_mem_nil _
  next =>
    split at read
    next =>
      simp only [Option.bind_eq_bind, Option.bind_eq_some_iff] at read
      obtain ⟨before, parts, last, dots, ⟨⟩⟩ := read
      intro group inside
      rcases List.mem_append.mp inside with front | back
      · exact mapM_forall (fun _ _ => group?_fits) parts group front
      · exact dottedGroups?_fits dots group back
    next => exact mapM_forall (fun _ _ => group?_fits) read

/-- An address in brackets is kept as eight groups. -/
theorem ipv6?_groups {text : List Char} {groups : List Nat} (read : ipv6? text = some groups) :
    groups.length = 8 ∧ ∀ group ∈ groups, IsGroup group := by
  unfold ipv6? at read
  split at read
  next =>
    obtain ⟨whole, parts, read⟩ := Option.bind_eq_some_iff.mp read
    split at read
    next count =>
      cases read
      exact ⟨count, groups?_fits parts⟩
    next => cases read
  next =>
    obtain ⟨before, front, read⟩ := Option.bind_eq_some_iff.mp read
    obtain ⟨behind, back, read⟩ := Option.bind_eq_some_iff.mp read
    dsimp only at read
    split at read
    next => cases read
    next gap =>
      cases read
      constructor
      · simp only [List.length_append, List.length_replicate]
        omega
      · intro group inside
        simp only [List.mem_append, List.mem_replicate] at inside
        rcases inside with (inside | ⟨_, rfl⟩) | inside
        · exact groups?_fits front group inside
        · exact (by decide : 0 < 65536)
        · exact groups?_fits back group inside

end Host

end InterfaceSync
