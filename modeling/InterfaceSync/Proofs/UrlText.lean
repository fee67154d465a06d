import InterfaceSync.Proofs.Results
import InterfaceSync.Url.Parser
import Mathlib.Data.Bool.AllAny
import Mathlib.Data.Char
import Mathlib.Data.List.TakeWhile

/-! URLs in normal form and their text. Reading the text of such a URL of the web gives the URL back,
apart from its host, which is read again from its own text; and what is read of any text is in normal
form. -/

namespace InterfaceSync

namespace Percent

/-- A text in which a set leaves nothing to encode. -/
def Plain (set : Char → Bool) (text : List Char) : Prop :=
  ∀ c ∈ text, set c = false

instance (set : Char → Bool) (text : List Char) : Decidable (Plain set text) :=
  List.decidableBAll (fun c => set c = false) text

/-- The characters that escapes are made of. -/
def escapes : List Char := "%0123456789ABCDEF".toList

variable {set : Char → Bool}

theorem encode_plain {text : List Char} (plain : Plain set text) : encode set text = text := by
  induction text with
  | nil => rfl
  | cons c rest ih =>
    obtain ⟨first, others⟩ := List.forall_mem_cons.mp plain
    have tail : rest.flatMap (encodeChar set) = rest := ih others
    rw [encode, List.flatMap_cons, encodeChar, first, tail]
    rfl

private theorem upperDigit_escapes : ∀ value < 16, Hex.upperDigit value ∈ escapes := by decide

theorem encodeByte_escapes (byte : UInt8) : ∀ c ∈ encodeByte byte, c ∈ escapes := by
  have small : byte.toNat < 256 := byte.toNat_lt
  intro c inside
  simp only [encodeByte, List.mem_cons, List.not_mem_nil, or_false] at inside
  rcases inside with rfl | rfl | rfl
  · decide
  · exact upperDigit_escapes _ (by omega)
  · exact upperDigit_escapes _ (by omega)

/-- Encoding leaves nothing to encode, as long as escapes are not encoded themselves. -/
theorem plain_encode (spares : ∀ c ∈ escapes, set c = false) (text : List Char) :
    Plain set (encode set text) := by
  intro c inside
  obtain ⟨raw, _, encoded⟩ := List.mem_flatMap.mp inside
  unfold encodeChar at encoded
  split at encoded
  next =>
    obtain ⟨byte, _, escaped⟩ := List.mem_flatMap.mp encoded
    exact spares c (encodeByte_escapes byte c escaped)
  next kept =>
    cases List.mem_singleton.mp encoded
    exact Bool.not_eq_true _ ▸ kept

theorem userinfo_false {c : Char} :
    userinfo c = false ↔ path c = false ∧ c ∉ "/:;=@[\\]^|".toList := by
  rw [userinfo, Bool.or_eq_false_iff, List.contains_eq_mem, decide_eq_false_iff_not]

theorem fragment_escapes : ∀ c ∈ escapes, fragment c = false :=
  List.all_iff_forall_prop.mp (by decide)

theorem path_escapes : ∀ c ∈ escapes, path c = false :=
  List.all_iff_forall_prop.mp (by decide)

theorem userinfo_escapes (c : Char) (escape : c ∈ escapes) : userinfo c = false := by
  have apart : ∀ c ∈ escapes, c ∉ "/:;=@[\\]^|".toList :=
    List.all_iff_forall_prop.mp (by decide)
  exact userinfo_false.mpr ⟨path_escapes c escape, apart c escape⟩

theorem specialQuery_escapes : ∀ c ∈ escapes, specialQuery c = false :=
  List.all_iff_forall_prop.mp (by decide)

theorem visible_of_controls {c : Char} (kept : controls c = false) (filled : c ≠ ' ') : ' ' < c := by
  rw [controls, Bool.or_eq_false_iff, decide_eq_false_iff_not] at kept
  exact lt_of_le_of_ne (not_lt.mp kept.1) (Ne.symm filled)

theorem visible_of_fragment {c : Char} (kept : fragment c = false) : ' ' < c := by
  simp only [fragment, Bool.or_eq_false_iff, beq_eq_false_iff_ne] at kept
  exact visible_of_controls kept.1.1.1.1.1 kept.1.1.1.1.2

theorem path_false {c : Char} (kept : path c = false) : ' ' < c ∧ c ≠ '#' ∧ c ≠ '?' := by
  simp only [path, Bool.or_eq_false_iff, beq_eq_false_iff_ne] at kept
  exact ⟨visible_of_fragment kept.1.1.1.1, kept.1.1.1.2, kept.1.1.2⟩

private theorem specialQuery_false {c : Char} (kept : specialQuery c = false) : ' ' < c ∧ c ≠ '#' :=
    by
  simp only [specialQuery, query, Bool.or_eq_false_iff, beq_eq_false_iff_ne] at kept
  exact ⟨visible_of_controls kept.1.1.1.1.1.1 kept.1.1.1.1.1.2, kept.1.1.1.2⟩

end Percent

theorem span_append {keep : Char → Bool} {before behind : List Char}
    (kept : ∀ c ∈ before, keep c = true) (ends : ∀ c ∈ behind.head?, keep c = false) :
    (before ++ behind).takeWhile keep = before ∧ (before ++ behind).dropWhile keep = behind := by
  rw [List.takeWhile_append_of_pos kept, List.dropWhile_append_of_pos kept]
  cases behind with
  | nil => simp
  | cons c rest => simp [ends c rfl]

namespace Url

private theorem clean_visible {text : List Char} (visible : ∀ c ∈ text, ' ' < c) : clean text = text
    := by
  have kept (c : Char) (rest : List Char) (inside : c ∈ text) :
      (c :: rest).dropWhile (fun c => decide (c ≤ ' ')) = c :: rest :=
    List.dropWhile_cons_of_neg (by simpa using visible c inside)
  have front (rest : List Char) (part : rest ⊆ text) :
      rest.dropWhile (fun c => decide (c ≤ ' ')) = rest := by
    cases rest with
    | nil => rfl
    | cons c rest => exact kept c rest (part List.mem_cons_self)
  have whole : ∀ c ∈ text, (!(c == '\t' || c == '\n' || c == '\r')) = true := by
    intro c inside
    have above := visible c inside
    have other (blank : Char) (low : blank ≤ ' ') : c ≠ blank := by
      rintro rfl
      exact absurd above (not_lt.mpr low)
    simp [other '\t' (by decide), other '\n' (by decide), other '\r' (by decide)]
  rw [clean, front text (List.Subset.refl _), front _ (fun c inside => List.mem_reverse.mp inside),
    List.reverse_reverse, List.filter_eq_self.mpr whole]

theorem splitMark_suffix {mark : Char} {before : List Char} (apart : mark ∉ before)
    (behind : Option (List Char)) :
    splitMark mark (before ++ suffixText mark behind) = (before, behind) := by
  have kept : ∀ c ∈ before, (c != mark) = true := fun c inside => by
    simpa using fun same : c = mark => apart (same ▸ inside)
  have ends : ∀ c ∈ (suffixText mark behind).head?, (c != mark) = false := by
    cases behind <;> simp [suffixText]
  obtain ⟨front, back⟩ := span_append kept ends
  rw [splitMark, front, back]
  cases behind with
  | none => simp [suffixText]
  | some text => rfl

/-- A character that may stand in a host. -/
def InHost (c : Char) : Prop :=
  ' ' < c ∧ c ∉ ['#', '/', '?', '@', '\\']

instance (c : Char) : Decidable (InHost c) :=
  inferInstanceAs (Decidable (_ ∧ _))

/-- A text that is read as a host where an authority has it. A colon may stand in brackets only. -/
structure HostText (text : List Char) : Prop where
  filled : text ≠ []
  plain : ∀ c ∈ text, InHost c
  colons : (∀ c ∈ text, c ∉ [':', '[', ']']) ∨
    ∃ inner, text = '[' :: inner ++ [']'] ∧ ∀ c ∈ inner, c ∉ ['[', ']']

/-- A segment that a path keeps as it is. -/
structure Segment (text : List Char) : Prop where
  plain : Percent.Plain Percent.path text
  whole : ∀ c ∈ text, c ≠ '/' ∧ c ≠ '\\'
  single : isSingleDot text = false
  double : isDoubleDot text = false

/-- A URL of the web in normal form, by its host and the segments of its path. -/
structure Normal (url : Url) (host : Host) (segments : List (List Char)) : Prop where
  scheme : url.scheme = "http".toList ∨ url.scheme = "https".toList
  username : Percent.Plain Percent.userinfo url.username
  password : Percent.Plain Percent.userinfo url.password
  host_eq : url.host = some host
  hostText : HostText host.text
  port : ∀ port, url.port = some port → port ≤ 65535 ∧ SchemeKind.of url.scheme ≠ .special port
  path_eq : url.path = .segments segments
  filled : segments ≠ []
  each : ∀ segment ∈ segments, Segment segment
  query : ∀ query, url.query = some query → Percent.Plain Percent.specialQuery query
  fragment : ∀ fragment, url.fragment = some fragment → Percent.Plain Percent.fragment fragment

private theorem splitPort_go (inside : Bool) {before : List Char} (rest : List Char)
    (plain : ∀ c ∈ before, c ≠ '[' ∧ c ≠ ']' ∧ (inside = false → c ≠ ':')) :
    splitPort.go inside (before ++ rest) =
      (before ++ (splitPort.go inside rest).1, (splitPort.go inside rest).2) := by
  induction before with
  | nil => rfl
  | cons c before ih =>
    obtain ⟨⟨opens, closes, colon⟩, others⟩ := List.forall_mem_cons.mp plain
    have kept : (c == ':' && !inside) = false := by
      cases inside with
      | true => simp
      | false => simp [colon rfl]
    rw [List.cons_append, splitPort.go]
    simp only [kept, beq_false_of_ne opens, beq_false_of_ne closes, Bool.false_eq_true, if_false,
      ih others]
    rfl

private theorem splitPort_host {text : List Char} (host : HostText text) (port : Option (List Char))
    : splitPort (text ++ suffixText ':' port) = (text, port) := by
  have ends : splitPort.go false (suffixText ':' port) = ([], port) := by
    cases port <;> rfl
  rw [splitPort]
  rcases host.colons with open_ | ⟨inner, rfl, whole⟩
  · have plain : ∀ c ∈ text, c ≠ '[' ∧ c ≠ ']' ∧ (false = false → c ≠ ':') := by
      intro c inside
      simpa [and_comm, and_left_comm, and_assoc] using open_ c inside
    rw [splitPort_go false _ plain, ends, List.append_nil]
  · have plain : ∀ c ∈ inner, c ≠ '[' ∧ c ≠ ']' ∧ (true = false → c ≠ ':') := by
      intro c inside
      simpa using whole c inside
    have closed : splitPort.go true (']' :: suffixText ':' port) = ([']'], port) := by
      rw [splitPort.go]
      simp [ends]
    have opened : splitPort.go false ('[' :: (inner ++ ']' :: suffixText ':' port)) =
        ('[' :: (splitPort.go true (inner ++ ']' :: suffixText ':' port)).1,
          (splitPort.go true (inner ++ ']' :: suffixText ':' port)).2) := rfl
    have text : '[' :: inner ++ [']'] ++ suffixText ':' port =
        '[' :: (inner ++ ']' :: suffixText ':' port) := by
      simp
    rw [text, opened, splitPort_go true _ plain, closed]
    rfl

private theorem parsePort_digits {kind : SchemeKind} {port : Nat} (small : port ≤ 65535)
    (own : kind ≠ .special port) : parsePort kind (Nat.toDigits 10 port) = .ok (some port) := by
  have digits : (Nat.toDigits 10 port).all Char.isDigit = true :=
    List.all_eq_true.mpr fun _ => Nat.isDigit_of_mem_toDigits (by decide) (by decide)
  have value : Nat.ofDigitChars 10 (Nat.toDigits 10 port) 0 = port :=
    Nat.ofDigitChars_toDigits (by decide) (by decide)
  have fits : ¬ 65535 < port := Nat.not_lt.mpr small
  have filled : (Nat.toDigits 10 port).isEmpty = false :=
    List.isEmpty_eq_false_iff.mpr Nat.toDigits_ne_nil
  simp [parsePort, digits, value, fits, filled, own]

/-- The text of a port, without its colon. -/
def portDigits (url : Url) : Option (List Char) :=
  url.port.map (Nat.toDigits 10)

private theorem portText_eq (url : Url) : url.portText = suffixText ':' url.portDigits := by
  rw [portText, portDigits]
  cases url.port <;> rfl

private theorem splitMark_whole {mark : Char} {text : List Char} (apart : mark ∉ text) :
    splitMark mark text = (text, none) := by
  have split := splitMark_suffix apart none
  rwa [suffixText, List.append_nil] at split

private theorem splitCredentials_text {url : Url}
    (username : Percent.Plain Percent.userinfo url.username)
    (password : Percent.Plain Percent.userinfo url.password) {rest : List Char}
    (apart : '@' ∉ rest) :
    splitCredentials (url.credentialsText ++ rest) = (url.username, url.password, rest) := by
  have whole : ∀ c ∈ rest, (c == '@') = false := fun c inside =>
    beq_false_of_ne fun same => apart (same ▸ inside)
  have colonless : ':' ∉ url.username := fun inside =>
    absurd (by decide) (Percent.userinfo_false.mp (username _ inside)).2
  have split (before : List Char) : splitLast? (· == '@') (before ++ '@' :: rest) =
      some (before, rest) := splitLast?_append (by decide) before whole
  unfold credentialsText splitCredentials
  cases none : url.username.isEmpty && url.password.isEmpty with
  | true =>
    obtain ⟨noName, noWord⟩ := Bool.and_eq_true_iff.mp none
    rw [if_pos rfl, List.nil_append, splitLast?_none whole, List.isEmpty_iff.mp noName,
      List.isEmpty_iff.mp noWord]
  | false =>
    rw [if_neg Bool.false_ne_true]
    cases noWord : url.password.isEmpty with
    | true =>
      have encoded : Percent.encode Percent.userinfo [] = [] := rfl
      rw [if_pos rfl, List.append_assoc, List.singleton_append, split]
      simp [splitMark_whole colonless, Percent.encode_plain username, List.isEmpty_iff.mp noWord,
        encoded]
    | false =>
      have text : url.username ++ ':' :: url.password ++ ['@'] ++ rest =
          (url.username ++ suffixText ':' (some url.password)) ++ '@' :: rest := by
        simp [suffixText]
      rw [if_neg Bool.false_ne_true, text, split]
      simp [splitMark_suffix colonless, Percent.encode_plain username,
        Percent.encode_plain password]

theorem inHost_digit {c : Char} (digit : c.isDigit = true) : InHost c := by
  constructor
  · simp only [Char.isDigit, Bool.and_eq_true, decide_eq_true_eq] at digit
    exact lt_of_lt_of_le (by decide : ' ' < '0') digit.1
  · intro mark
    have apart : ∀ c ∈ ['#', '/', '?', '@', '\\'], c.isDigit = false :=
      List.all_iff_forall_prop.mp (by decide)
    rw [apart c mark] at digit
    cases digit

theorem portText_inHost (url : Url) : ∀ c ∈ url.portText, InHost c := by
  intro c inside
  rw [portText] at inside
  cases port : url.port with
  | none => simp [port] at inside
  | some port' =>
    rw [port] at inside
    rcases List.mem_cons.mp inside with rfl | digit
    · decide
    · exact inHost_digit (Nat.isDigit_of_mem_toDigits (by decide) (by decide) digit)

/-- What stands between the two slashes and the path. -/
def authority (url : Url) (host : Host) : List Char :=
  url.credentialsText ++ (host.text ++ url.portText)

theorem chars_eq {url : Url} {host : Host} {segments : List (List Char)}
    (named : url.host = some host) (path : url.path = .segments segments) :
    url.chars = url.scheme ++ ':' :: ('/' :: '/' :: (url.authority host ++
      segments.flatMap ('/' :: ·)) ++ suffixText '?' url.query ++ suffixText '#' url.fragment) := by
  rw [chars, authorityText, named, pathText, path, authority]
  simp

theorem isSlash_special {kind : SchemeKind} (special : kind.isSpecial = true) {c : Char} :
    isSlash kind c = true ↔ c = '/' ∨ c = '\\' := by
  simp [isSlash, special]

private theorem splitWhere_segments {isBreak : Char → Bool} (breaks : isBreak '/' = true)
    {first : List Char} {rest : List (List Char)}
    (whole : ∀ segment ∈ first :: rest, ∀ c ∈ segment, isBreak c = false) :
    splitWhere isBreak (first ++ rest.flatMap ('/' :: ·)) = first :: rest := by
  induction rest generalizing first with
  | nil =>
    rw [List.flatMap_nil, List.append_nil, splitWhere_whole (whole first List.mem_cons_self)]
  | cons second rest ih =>
    obtain ⟨here, others⟩ := List.forall_mem_cons.mp whole
    rw [List.flatMap_cons, List.cons_append, splitWhere_append breaks, splitWhere_whole here,
      ih others]
    rfl

private theorem resolveSegments_each {kind : SchemeKind} (web : kind ≠ .file)
    (before : List (List Char))
    {segments : List (List Char)} (each : ∀ segment ∈ segments, Segment segment) :
    resolveSegments kind before segments = before ++ segments := by
  induction segments generalizing before with
  | nil => rw [resolveSegments, List.append_nil]
  | cons segment rest ih =>
    obtain ⟨first, others⟩ := List.forall_mem_cons.mp each
    rw [resolveSegments]
    simp only [first.double, first.single, Bool.false_eq_true, if_false,
      Percent.encode_plain first.plain]
    split
    next => exact absurd rfl web
    next => rw [ih _ others, List.append_assoc, List.singleton_append]

private theorem parseSegments_text {kind : SchemeKind} {port : Nat} (special : kind = .special port)
    {segments : List (List Char)} (filled : segments ≠ [])
    (each : ∀ segment ∈ segments, Segment segment) :
    parseSegments kind (segments.flatMap ('/' :: ·)) = segments := by
  subst special
  have slash (c : Char) : isSlash (.special port) c = true ↔ c = '/' ∨ c = '\\' :=
    isSlash_special rfl
  have breaks : isSlash (.special port) '/' = true := (slash '/').mpr (.inl rfl)
  have whole : ∀ segment ∈ segments, ∀ c ∈ segment, isSlash (.special port) c = false := by
    intro segment inside c there
    obtain ⟨noSlash, noBackslash⟩ := (each segment inside).whole c there
    rw [← Bool.not_eq_true, slash]
    simp [noSlash, noBackslash]
  cases segments with
  | nil => exact absurd rfl filled
  | cons first rest =>
    have web : SchemeKind.special port ≠ .file := nofun
    have resolved := resolveSegments_each web [] each
    rw [parseSegments.eq_def, List.flatMap_cons, List.cons_append]
    simp only [breaks, if_true, splitWhere_segments breaks whole]
    exact resolved

section
variable {url : Url} {host : Host} {segments : List (List Char)}
  (normal : url.Normal host segments)
include normal

theorem Normal.special : ∃ port, SchemeKind.of url.scheme = .special port := by
  rcases normal.scheme with http | https
  · exact ⟨80, by rw [http]; rfl⟩
  · exact ⟨443, by rw [https]; rfl⟩

private theorem Normal.parsePort_text :
    parsePort (SchemeKind.of url.scheme) ((url.portDigits.getD []).takeWhile (· != '\\')) =
        .ok url.port ∧ (url.portDigits.getD []).dropWhile (· != '\\') = [] := by
  rw [portDigits]
  cases port : url.port with
  | none => exact ⟨rfl, rfl⟩
  | some port' =>
    obtain ⟨small, own⟩ := normal.port _ port
    have kept : ∀ c ∈ Nat.toDigits 10 port', (c != '\\') = true := by
      intro c inside
      have digit : c.isDigit = true := Nat.isDigit_of_mem_toDigits (by decide) (by decide) inside
      rw [bne_iff_ne]
      rintro rfl
      exact absurd digit (by decide)
    rw [Option.map_some, Option.getD_some, List.takeWhile_eq_self_iff.mpr kept,
      List.dropWhile_eq_nil_iff.mpr kept]
    exact ⟨parsePort_digits small own, rfl⟩

private theorem Normal.parseAuthority_text (atEnd : Bool) :
    parseAuthority (SchemeKind.of url.scheme) (url.authority host) atEnd =
      (Host.parse host.text).map fun host => ⟨url.username, url.password, some host, url.port, []⟩ := by
  have apart : '@' ∉ host.text ++ url.portText := by
    intro inside
    have plain : InHost '@' := by
      rcases List.mem_append.mp inside with named | port
      · exact normal.hostText.plain _ named
      · exact url.portText_inHost _ port
    exact absurd plain (by decide)
  have filled : host.text.isEmpty = false := List.isEmpty_eq_false_iff.mpr normal.hostText.filled
  obtain ⟨port, special⟩ := normal.special
  obtain ⟨parsed, behind⟩ := normal.parsePort_text
  unfold parseAuthority authority
  rw [splitCredentials_text normal.username normal.password apart, url.portText_eq]
  simp only [splitPort_host normal.hostText, filled, Bool.false_eq_true, if_false]
  rw [special] at parsed ⊢
  simp only [SchemeKind.isSpecial, if_true]
  cases Host.parse host.text with
  | error error => rfl
  | ok read =>
    simp only [parsed, behind]
    rfl

private theorem Normal.credentials_plain :
    ∀ c ∈ url.credentialsText, ' ' < c ∧ c ∉ ['#', '/', '?', '\\'] := by
  have kept (c : Char) (plain : Percent.userinfo c = false) :
      ' ' < c ∧ c ∉ ['#', '/', '?', '\\'] := by
    obtain ⟨path, marks⟩ := Percent.userinfo_false.mp plain
    obtain ⟨visible, hash, question⟩ := Percent.path_false path
    refine ⟨visible, fun mark => ?_⟩
    simp only [List.mem_cons, List.not_mem_nil, or_false] at mark
    rcases mark with rfl | rfl | rfl | rfl
    · exact hash rfl
    · exact marks (by decide)
    · exact question rfl
    · exact marks (by decide)
  have own : ∀ c ∈ [':', '@'], ' ' < c ∧ c ∉ ['#', '/', '?', '\\'] :=
    List.all_iff_forall_prop.mp (by decide)
  intro c inside
  have cases : c ∈ url.username ∨ c ∈ url.password ∨ c ∈ [':', '@'] := by
    rw [credentialsText] at inside
    split at inside
    · cases inside
    · split at inside
      · rcases List.mem_append.mp inside with name | mark
        · exact .inl name
        · exact .inr (.inr (List.mem_cons_of_mem _ mark))
      · rcases List.mem_append.mp inside with before | mark
        · rcases List.mem_append.mp before with name | behind
          · exact .inl name
          · rcases List.mem_cons.mp behind with rfl | word
            · exact .inr (.inr List.mem_cons_self)
            · exact .inr (.inl word)
        · exact .inr (.inr (List.mem_cons_of_mem _ mark))
  rcases cases with name | word | mark
  · exact kept c (normal.username c name)
  · exact kept c (normal.password c word)
  · exact own c mark

theorem Normal.authority_plain :
    ∀ c ∈ url.authority host, ' ' < c ∧ c ∉ ['#', '/', '?', '\\'] := by
  have apart {c : Char} (plain : InHost c) : ' ' < c ∧ c ∉ ['#', '/', '?', '\\'] := by
    refine ⟨plain.1, fun mark => plain.2 ?_⟩
    simp only [List.mem_cons, List.not_mem_nil, or_false] at mark ⊢
    tauto
  intro c inside
  rcases List.mem_append.mp inside with before | rest
  · exact normal.credentials_plain c before
  · rcases List.mem_append.mp rest with named | port
    · exact apart (normal.hostText.plain c named)
    · exact apart (url.portText_inHost c port)

theorem Normal.path_plain :
    ∀ c ∈ segments.flatMap ('/' :: ·), ' ' < c ∧ c ≠ '#' ∧ c ≠ '?' := by
  intro c inside
  obtain ⟨segment, listed, there⟩ := List.mem_flatMap.mp inside
  rcases List.mem_cons.mp there with rfl | within
  · decide
  · exact Percent.path_false ((normal.each segment listed).plain c within)

theorem Normal.query_plain : ∀ c ∈ suffixText '?' url.query, ' ' < c ∧ c ≠ '#' := by
  intro c inside
  cases query : url.query with
  | none =>
    rw [query] at inside
    cases inside
  | some text =>
    rw [query] at inside
    rcases List.mem_cons.mp inside with rfl | within
    · decide
    · exact Percent.specialQuery_false (normal.query text query c within)

private theorem Normal.fragment_plain : ∀ c ∈ suffixText '#' url.fragment, ' ' < c := by
  intro c inside
  cases fragment : url.fragment with
  | none =>
    rw [fragment] at inside
    cases inside
  | some text =>
    rw [fragment] at inside
    rcases List.mem_cons.mp inside with rfl | within
    · decide
    · exact Percent.visible_of_fragment (normal.fragment text fragment c within)

private theorem Normal.visible : ∀ c ∈ url.chars, ' ' < c := by
  have scheme : ∀ c ∈ url.scheme, ' ' < c := by
    rcases normal.scheme with http | https
    · rw [http]
      exact List.all_iff_forall_prop.mp (by decide)
    · rw [https]
      exact List.all_iff_forall_prop.mp (by decide)
  have marks : ' ' < ':' ∧ ' ' < '/' := by decide
  intro c inside
  simp only [chars_eq normal.host_eq normal.path_eq, List.mem_append, List.mem_cons] at inside
  rcases inside with named | rfl | ((rfl | rfl | before | path) | query) | fragment
  · exact scheme c named
  · exact marks.1
  · exact marks.2
  · exact marks.2
  · exact (normal.authority_plain c before).1
  · exact (normal.path_plain c path).1
  · exact (normal.query_plain c query).1
  · exact normal.fragment_plain c fragment

private theorem Normal.splitScheme?_text (rest : List Char) :
    splitScheme? (url.scheme ++ ':' :: rest) = some (url.scheme, rest) := by
  rcases normal.scheme with http | https
  · rw [http]
    rfl
  · rw [https]
    rfl

private theorem Normal.splitAuthority_text {kind : SchemeKind} (special : kind.isSpecial = true) :
    splitAuthority kind
        (('/' :: '/' :: (url.authority host ++ segments.flatMap ('/' :: ·))).dropWhile
          (isSlash kind)) =
      (url.authority host, segments.flatMap ('/' :: ·)) := by
  have slash (c : Char) : isSlash kind c = true ↔ c = '/' ∨ c = '\\' := isSlash_special special
  have breaks : isSlash kind '/' = true := (slash '/').mpr (.inl rfl)
  have kept : ∀ c ∈ url.authority host, (! isSlash kind c) = true := by
    intro c inside
    have plain := (normal.authority_plain c inside).2
    rw [Bool.not_eq_true', ← Bool.not_eq_true, slash]
    rintro (rfl | rfl)
    · exact plain (by decide)
    · exact plain (by decide)
  have ends : ∀ c ∈ (segments.flatMap ('/' :: ·)).head?, (! isSlash kind c) = false := by
    cases segments with
    | nil => nofun
    | cons first rest => simp [breaks]
  have dropped : ('/' :: '/' :: (url.authority host ++ segments.flatMap ('/' :: ·))).dropWhile
      (isSlash kind) = url.authority host ++ segments.flatMap ('/' :: ·) := by
    rw [List.dropWhile_cons_of_pos breaks, List.dropWhile_cons_of_pos breaks]
    cases opens : url.authority host with
    | nil =>
      have empty : host.text = [] :=
        (List.append_eq_nil_iff.mp (List.append_eq_nil_iff.mp opens).2).1
      exact absurd empty normal.hostText.filled
    | cons c rest =>
      have first := kept c (opens ▸ List.mem_cons_self)
      exact List.dropWhile_cons_of_neg (by simpa using first)
  obtain ⟨front, back⟩ := span_append kept ends
  rw [dropped, splitAuthority, front, back]

/-- Reading the text of a URL in normal form comes to reading its host. -/
theorem Normal.parseChars_chars :
    parseChars url.chars =
      (Host.parse host.text).map fun host => { url with host := some host } := by
  obtain ⟨port, special⟩ := normal.special
  have apart {mark : Char} (before : mark ∈ ['#', '/', '?', '\\']) (slash : mark ≠ '/')
      (path : ∀ c ∈ segments.flatMap ('/' :: ·), c ≠ mark) :
      mark ∉ '/' :: '/' :: (url.authority host ++ segments.flatMap ('/' :: ·)) := by
    simp only [List.mem_cons, List.mem_append, slash, false_or]
    rintro (inside | inside)
    · exact (normal.authority_plain mark inside).2 before
    · exact path mark inside rfl
  have question : '?' ∉ '/' :: '/' :: (url.authority host ++ segments.flatMap ('/' :: ·)) :=
    apart (by decide) (by decide) fun c inside => (normal.path_plain c inside).2.2
  have hash : '#' ∉ '/' :: '/' :: (url.authority host ++ segments.flatMap ('/' :: ·)) ++
      suffixText '?' url.query := by
    rw [List.mem_append, not_or]
    exact ⟨apart (by decide) (by decide) fun c inside => (normal.path_plain c inside).2.1,
      fun inside => (normal.query_plain '#' inside).2 rfl⟩
  have query : url.query.map (parseQuery (.special port)) = url.query := by
    cases given : url.query with
    | none => rfl
    | some text => exact congrArg some (Percent.encode_plain (normal.query text given))
  have fragment : url.fragment.map (Percent.encode Percent.fragment) = url.fragment := by
    cases given : url.fragment with
    | none => rfl
    | some text => exact congrArg some (Percent.encode_plain (normal.fragment text given))
  have path := parseSegments_text special normal.filled normal.each
  rw [special] at path
  rw [parseChars, clean_visible normal.visible, chars_eq normal.host_eq normal.path_eq,
    normal.splitScheme?_text]
  simp only [splitMark_suffix hash, splitMark_suffix question, query, fragment, special]
  have web : (SchemeKind.special port).isSpecial = true := rfl
  have authority := normal.parseAuthority_text
  rw [special] at authority
  simp only [normal.splitAuthority_text web, authority]
  cases Host.parse host.text with
  | error error => rfl
  | ok read =>
    have same : url.path = .segments segments := normal.path_eq
    simp [Except.map, bind, Except.bind, pure, Except.pure, path, same, web]

end

end Url

end InterfaceSync
