import InterfaceSync.Proofs.NameChars
import InterfaceSync.Proofs.PunycodeText
import InterfaceSync.Url.Domain
import Mathlib.Data.Bool.AllAny

/-! Names in their ASCII form. Such a name is read label by label as the name that it was made of, and
so has itself as its ASCII form, unless a label is too long to be read. -/

namespace InterfaceSync

namespace Domain

theorem isForbidden_false {c : Char} : isForbidden c = false ↔
    ' ' < c ∧ c ≠ '\x7f' ∧ c ∉ "#/:<>?@[\\]^|%".toList := by
  rw [isForbidden, Bool.or_eq_false_iff, Bool.or_eq_false_iff, List.contains_eq_mem,
    decide_eq_false_iff_not, decide_eq_false_iff_not, Char.not_le, beq_eq_false_iff_ne, and_assoc]

/-- How a name comes to its ASCII form, label by label. -/
structure Converted (name : List Char) (labels asciis : List (List Char)) : Prop where
  resolved : ∃ text, normalize? name = some text ∧
    List.Forall₂ (fun part label => resolveLabel? part = some label)
      (splitWhere (· == '.') text) labels
  sound : labels.all isSound = true
  oneWay : labels.any (·.any runsLeft) = true → labels.all runsOneWay = true
  encoded : List.Forall₂ (fun label ascii => labelToAscii? label = some ascii) labels asciis
  allowed : ∀ c ∈ ['.'].intercalate asciis, isForbidden c = false

theorem toAscii?_iff {name ascii : List Char} : toAscii? name = some ascii ↔
    ∃ labels asciis, Converted name labels asciis ∧ ascii = ['.'].intercalate asciis := by
  simp only [toAscii?, Option.bind_eq_bind, Option.bind_eq_some_iff, mapM_some]
  constructor
  · rintro ⟨text, normal, labels, resolved, read⟩
    split at read
    next => cases read
    next sound =>
      split at read
      next => cases read
      next oneWay =>
        obtain ⟨asciis, encoded, read⟩ := Option.bind_eq_some_iff.mp read
        split at read
        next => cases read
        next allowed =>
          cases read
          refine ⟨labels, asciis, ⟨⟨text, normal, resolved⟩, ?_, ?_, mapM_some.mp encoded, ?_⟩, rfl⟩
          · simpa using sound
          · simpa using oneWay
          · simpa using allowed
  · rintro ⟨labels, asciis, ⟨⟨text, normal, resolved⟩, sound, oneWay, encoded, allowed⟩, rfl⟩
    refine ⟨text, normal, labels, resolved, ?_⟩
    have together : ¬ (labels.any (·.any runsLeft) && !labels.all runsOneWay) = true := by
      simpa using oneWay
    have plain : ¬ (['.'].intercalate asciis).any isForbidden = true := by
      simpa using allowed
    rw [if_neg (by simp [sound]), if_neg together, mapM_some.mpr encoded]
    simp only [Option.bind_some, if_neg plain]

def IsPlain (c : Char) : Prop :=
  Punycode.isAscii c = true ∧ c.toLower = c
deriving Decidable

theorem normalize?_plain {text : List Char} (plain : ∀ c ∈ text, IsPlain c) :
    normalize? text = some text := by
  have low : text.all (· < '\u0300') = true := by
    refine List.all_eq_true.mpr fun c inside => decide_eq_true ?_
    have ascii : c.toNat < 128 := of_decide_eq_true (plain c inside).1
    exact Nat.lt_trans ascii (by decide)
  have kept : ∀ c ∈ text, IsKept c := fun c inside => by
    rw [IsKept, mapChar?, if_pos (plain c inside).1, (plain c inside).2]
  rw [normalize?_of_kept kept, Composition.compose, if_pos low]

/-- The ASCII form of a name is that of itself if its labels are read as they were. -/
theorem Converted.again {name : List Char} {labels asciis : List (List Char)}
    (converted : Converted name labels asciis) (filled : asciis ≠ [])
    (plain : ∀ c ∈ ['.'].intercalate asciis, IsPlain c)
    (whole : ∀ ascii ∈ asciis, '.' ∉ ascii)
    (reads : List.Forall₂ (fun ascii label => resolveLabel? ascii = some label) asciis labels) :
    Converted (['.'].intercalate asciis) labels asciis where
  resolved := by
    refine ⟨_, normalize?_plain plain, ?_⟩
    rwa [splitWhere_intercalate (by decide) filled]
    intro ascii inside c there
    rw [beq_eq_false_iff_ne]
    rintro rfl
    exact whole ascii inside there
  sound := converted.sound
  oneWay := converted.oneWay
  encoded := converted.encoded
  allowed := converted.allowed

theorem toAscii?_plain {name : List Char} (plain : ∀ c ∈ name, IsPlain c)
    (bare : ∀ label ∈ splitWhere (· == '.') name, mark.isPrefixOf label = false)
    (allowed : ∀ c ∈ name, isForbidden c = false) : toAscii? name = some name := by
  have ascii : ∀ label ∈ splitWhere (· == '.') name, label.all Punycode.isAscii = true :=
    fun label inside => List.all_eq_true.mpr fun c there =>
      (plain c (mem_splitWhere inside there)).1
  refine toAscii?_iff.mpr ⟨splitWhere (· == '.') name, splitWhere (· == '.') name,
    { resolved := ⟨name, normalize?_plain plain, ?_⟩
      sound := ?_
      oneWay := ?_
      encoded := ?_
      allowed := ?_ }, (intercalate_splitWhere '.' name).symm⟩
  · exact List.forall₂_same.mpr fun label inside => by
      rw [resolveLabel?, if_neg (by rw [bare label inside]; decide)]
  · exact List.all_eq_true.mpr fun label inside => by rw [isSound, ascii label inside]; rfl
  · intro left
    obtain ⟨label, inside, runs⟩ := List.any_eq_true.mp left
    obtain ⟨c, there, runs⟩ := List.any_eq_true.mp runs
    rw [runsLeft, List.all_eq_true.mp (ascii label inside) c there] at runs
    cases runs
  · exact List.forall₂_same.mpr fun label inside => by
      rw [labelToAscii?, if_pos (ascii label inside)]
  · rwa [intercalate_splitWhere]

/-- A label as it is read in a name, with its encoding taken off. -/
structure Label (label : List Char) : Prop where
  normal : normalize? label = some label
  whole : '.' ∉ label
  bare : label.all Punycode.isAscii = true → mark.isPrefixOf label = false

private theorem label_of_resolve {name normal part label : List Char}
    (made : normalize? name = some normal)
    (inside : part ∈ splitWhere (· == '.') normal) (resolved : resolveLabel? part = some label) :
    Label label := by
  have undotted : '.' ∉ part := fun there => absurd (notMem_splitWhere inside '.' there) (by decide)
  unfold resolveLabel? at resolved
  split at resolved
  next marked =>
    obtain ⟨form, rfl⟩ := List.isPrefixOf_iff_prefix.mp marked
    rw [List.drop_left] at resolved
    dsimp only at resolved
    split at resolved
    next => cases resolved
    next sound =>
      split at resolved
      next => cases resolved
      next =>
        obtain ⟨text, decoded, resolved⟩ := Option.bind_eq_some_iff.mp resolved
        split at resolved
        next normal =>
          cases resolved
          obtain ⟨holds, wide⟩ := Punycode.decode?_holds decoded
          rw [Bool.or_eq_true, not_or, beq_iff_eq] at sound
          have last := sound.2
          have filled : form ≠ [] := by
            rintro rfl
            exact last (by decide)
          rw [List.getLast?_append_of_ne_nil _ filled] at last
          obtain ⟨c, there, high⟩ := wide filled last
          refine ⟨eq_of_beq normal, fun dot => ?_, fun low => ?_⟩
          · rcases holds '.' dot with own | outside
            · exact undotted (List.mem_append_right _ own)
            · cases outside
          · rw [List.all_eq_true.mp low c there] at high
            cases high
        next => cases resolved
  next unmarked =>
    cases resolved
    exact ⟨normalize?_label made inside, undotted, fun _ => Bool.eq_false_iff.mpr unmarked⟩

/-- Whether a label in ASCII can be read: it is not encoded or not too long. -/
def isShort (ascii : List Char) : Bool :=
  !mark.isPrefixOf ascii || (ascii.drop mark.length).length ≤ encodedLimit

/-- How the ASCII form of a label comes about. -/
theorem labelToAscii?_cases {label ascii : List Char} (encoded : labelToAscii? label = some ascii) :
    label.all Punycode.isAscii = true ∧ ascii = label ∨
      ¬ label.all Punycode.isAscii = true ∧ label.length ≤ 1000 ∧
        ascii = mark ++ Punycode.encode label := by
  unfold labelToAscii? at encoded
  split at encoded
  next low =>
    cases encoded
    exact .inl ⟨low, rfl⟩
  next wide =>
    split at encoded
    next => cases encoded
    next few =>
      cases encoded
      exact .inr ⟨wide, Nat.not_lt.mp few, rfl⟩

variable {label ascii : List Char}

theorem Label.ascii_plain (read : Label label) (encoded : labelToAscii? label = some ascii) :
    ∀ c ∈ ascii, IsPlain c ∧ c ≠ '.' := by
  have own : ∀ c ∈ label, Punycode.isAscii c = true → IsPlain c ∧ c ≠ '.' := by
    intro c inside low
    have kept := normalize?_kept read.normal c inside
    rw [IsKept, mapChar?, if_pos low, Option.some.injEq, List.singleton_inj] at kept
    refine ⟨⟨low, kept⟩, ?_⟩
    rintro rfl
    exact read.whole inside
  rcases labelToAscii?_cases encoded with ⟨low, rfl⟩ | ⟨_, few, rfl⟩
  · exact fun c inside => own c inside (List.all_eq_true.mp low c inside)
  · intro c inside
    rcases List.mem_append.mp inside with marks | form
    · have plain : ∀ c ∈ mark, IsPlain c ∧ c ≠ '.' :=
        List.all_iff_forall_prop.mp (by decide)
      exact plain c marks
    · rcases Punycode.mem_encode few form with ⟨inside, low⟩ | digit | rfl
      · exact own c inside low
      · obtain ⟨low, lower, _, apart⟩ := Punycode.isDigit_plain digit
        exact ⟨⟨low, lower⟩, apart⟩
      · decide

/-- The ASCII form of a label is read as the label, if it is not too long. -/
theorem Label.resolve_ascii (read : Label label) (encoded : labelToAscii? label = some ascii) :
    resolveLabel? ascii = if isShort ascii then some label else none := by
  have plain := read.ascii_plain encoded
  rcases labelToAscii?_cases encoded with ⟨low, rfl⟩ | ⟨wide, few, rfl⟩
  · rw [resolveLabel?, isShort, read.bare low]
    rfl
  · have marked : mark.isPrefixOf (mark ++ Punycode.encode label) = true := by
      rw [List.isPrefixOf_iff_prefix]
      exact List.prefix_append _ _
    have filled : Punycode.encode label ≠ [] := by
      intro none
      have decoded := Punycode.decode?_encode few
      rw [none] at decoded
      cases decoded
      exact wide rfl
    have last := Punycode.getLast?_encode few wide
    rw [← List.getLast?_append_of_ne_nil mark filled] at last
    have sound : ¬ (!(mark ++ Punycode.encode label).all Punycode.isAscii ||
        (mark ++ Punycode.encode label).getLast? == some '-') = true := by
      have ascii : (mark ++ Punycode.encode label).all Punycode.isAscii = true :=
        List.all_eq_true.mpr fun c inside => (plain c inside).1.1
      rw [ascii, Bool.not_true, Bool.false_or, beq_iff_eq]
      exact last
    rw [resolveLabel?, isShort, if_pos marked, List.drop_left, marked]
    simp only [if_neg sound, Bool.not_true, Bool.false_or, decide_eq_true_eq]
    by_cases short : (Punycode.encode label).length ≤ encodedLimit
    · rw [if_pos short, if_neg (Nat.not_lt.mpr short), Punycode.decode?_encode few]
      simp [read.normal]
    · rw [if_neg short, if_pos (Nat.not_le.mp short)]
      rfl

def isReadable (ascii : List Char) : Bool :=
  (splitWhere (· == '.') ascii).all isShort

section
variable {name : List Char} {labels asciis : List (List Char)}
  (converted : Converted name labels asciis)

include converted

theorem Converted.each_label : ∀ label ∈ labels, Label label := by
  obtain ⟨normal, made, resolved⟩ := converted.resolved
  intro label inside
  obtain ⟨part, held, reads⟩ := forall₂_mem resolved label inside
  exact label_of_resolve made held reads

theorem Converted.plain : ∀ own ∈ asciis, ∀ c ∈ own, IsPlain c ∧ c ≠ '.' := by
  intro own inside
  obtain ⟨label, held, encoded⟩ := forall₂_mem converted.encoded own inside
  exact (converted.each_label label held).ascii_plain encoded

theorem Converted.filled : asciis ≠ [] := by
  rintro rfl
  obtain ⟨normal, _, resolved⟩ := converted.resolved
  cases converted.encoded
  cases parts : splitWhere (· == '.') normal with
  | nil => exact splitWhere_ne_nil _ _ parts
  | cons =>
    rw [parts] at resolved
    cases resolved

theorem Converted.split : splitWhere (· == '.') (['.'].intercalate asciis) = asciis :=
  splitWhere_intercalate (by decide) converted.filled fun own inside c there =>
    beq_eq_false_iff_ne.mpr (converted.plain own inside c there).2

theorem Converted.plain_name : ∀ c ∈ ['.'].intercalate asciis, IsPlain c := by
  intro c inside
  obtain rfl | ⟨own, held, there⟩ := mem_intercalate inside
  · decide
  · exact (converted.plain own held c there).1

theorem Converted.reads : List.Forall₂ (fun label own =>
    resolveLabel? own = if isShort own then some label else none) labels asciis :=
  ((List.forall₂_and_left _ _).mpr ⟨converted.each_label, converted.encoded⟩).imp
    fun _ _ ⟨known, same⟩ => known.resolve_ascii same

theorem Converted.unreadable {own : List Char} (inside : own ∈ asciis) (long : ¬ isShort own = true) :
    toAscii? (['.'].intercalate asciis) = none := by
  cases again : toAscii? (['.'].intercalate asciis) with
  | none => rfl
  | some other =>
    obtain ⟨_, _, ⟨⟨text, normal, resolved⟩, _⟩, _⟩ := toAscii?_iff.mp again
    cases normal.symm.trans (normalize?_plain converted.plain_name)
    rw [converted.split] at resolved
    obtain ⟨_, _, found⟩ := forall₂_mem resolved.flip own inside
    obtain ⟨_, _, reads⟩ := forall₂_mem converted.reads own inside
    cases found.symm.trans (reads.trans (if_neg long))

end

/-- An ASCII form is its own ASCII form, if it can be read. -/
theorem toAscii?_again {name : List Char} (read : toAscii? name = some ascii) :
    toAscii? ascii = if isReadable ascii then some ascii else none := by
  obtain ⟨labels, asciis, converted, rfl⟩ := toAscii?_iff.mp read
  rw [isReadable, converted.split]
  split
  next short =>
    have reads := (List.forall₂_and_left _ _).mpr
      ⟨List.all_eq_true.mp short, converted.reads.flip⟩
    refine toAscii?_iff.mpr ⟨labels, asciis, converted.again converted.filled converted.plain_name
      (fun own inside dot => (converted.plain own inside '.' dot).2 rfl) (reads.imp ?_), rfl⟩
    rintro own label ⟨fits, resolved⟩
    rw [resolved, if_pos fits]
  next long =>
    obtain ⟨own, inside, long⟩ : ∃ own ∈ asciis, ¬ isShort own = true := by
      simpa using long
    exact converted.unreadable inside long

end Domain

end InterfaceSync
