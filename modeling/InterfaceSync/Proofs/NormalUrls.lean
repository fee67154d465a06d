import InterfaceSync.Proofs.UrlText

/-! What is read of a text is a URL in normal form, whatever the text has in the place of each part. -/

namespace InterfaceSync

namespace Percent

variable {set : Char → Bool} {text : List Char}

private theorem mem_encode {c : Char} (inside : c ∈ encode set text) : c ∈ text ∨ c ∈ escapes := by
  obtain ⟨raw, listed, encoded⟩ := List.mem_flatMap.mp inside
  unfold encodeChar at encoded
  split at encoded
  next =>
    obtain ⟨byte, _, escaped⟩ := List.mem_flatMap.mp encoded
    exact .inr (encodeByte_escapes byte c escaped)
  next =>
    cases List.mem_singleton.mp encoded
    exact .inl listed

/-- The first byte of a character is not that of another one. -/
theorem utf8EncodeChar_head (c : Char) : ∃ byte bytes,
    String.utf8EncodeChar c = byte :: bytes ∧ (byte.toNat = c.toNat ∨ 128 ≤ byte.toNat) := by
  unfold String.utf8EncodeChar
  have bound : c.val.toNat < 0x110000 := by
    rcases c.valid with low | ⟨_, high⟩
    · exact Nat.lt_trans low (by decide)
    · exact high
  dsimp only
  split
  next low => exact ⟨_, _, rfl, .inl (by rw [UInt8.toNat_ofNat']; exact Nat.mod_eq_of_lt (by omega))⟩
  next =>
    split
    next => exact ⟨_, _, rfl, .inr (by rw [UInt8.toNat_ofNat']; omega)⟩
    next =>
      split
      next => exact ⟨_, _, rfl, .inr (by rw [UInt8.toNat_ofNat']; omega)⟩
      next => exact ⟨_, _, rfl, .inr (by rw [UInt8.toNat_ofNat']; omega)⟩

/-- A text that is encoded into another one has an escape, and it is for none of the characters that
are left alone. -/
theorem encode_escape (changed : ¬ Plain set text) : ∃ before byte behind c,
    encode set text = before ++ encodeByte byte ++ behind ∧ set c = true ∧
      (byte.toNat = c.toNat ∨ 128 ≤ byte.toNat) := by
  induction text with
  | nil => exact absurd (List.forall_mem_nil _) changed
  | cons c rest ih =>
    cases kept : set c with
    | true =>
      obtain ⟨byte, bytes, bytes_eq, first⟩ := utf8EncodeChar_head c
      refine ⟨[], byte, bytes.flatMap encodeByte ++ encode set rest, c, ?_, kept, first⟩
      rw [encode, List.flatMap_cons, encodeChar, if_pos kept, bytes_eq, List.flatMap_cons]
      simp [encode]
    | false =>
      have later : ¬ Plain set rest := fun plain =>
        changed (List.forall_mem_cons.mpr ⟨kept, plain⟩)
      obtain ⟨before, byte, behind, other, encoded, held, first⟩ := ih later
      refine ⟨c :: before, byte, behind, other, ?_, held, first⟩
      rw [encode, List.flatMap_cons, encodeChar, if_neg (by simp [kept]), ← encode, encoded]
      simp

end Percent

namespace Url

def dotForms : List (List Char) :=
  [".".toList, "%2e".toList, "..".toList, ".%2e".toList, "%2e.".toList, "%2e%2e".toList]

private theorem dot_forms {segment : List Char}
    (dots : isSingleDot segment = true ∨ isDoubleDot segment = true) :
    segment.map Char.toLower ∈ dotForms := by
  have form {text : List Char} {name : String} (same : String.ofList text = name) :
      text = name.toList := by
    rw [← same, String.toList_ofList]
  rcases dots with single | double
  · unfold isSingleDot at single
    split at single
    next same => rw [form same]; decide
    next same => rw [form same]; decide
    next => cases single
  · unfold isDoubleDot at double
    split at double
    next same => rw [form same]; decide
    next same => rw [form same]; decide
    next same => rw [form same]; decide
    next same => rw [form same]; decide
    next => cases double

theorem dotForms_escape : ∀ form ∈ dotForms, ∀ i < 7, form[i]? = some '%' →
    form[i + 1]? = some '2' ∧ form[i + 2]? = some 'e' := by
  decide

private theorem upperDigit_toLower : ∀ value < 16,
    ((Hex.upperDigit value).toLower = '2' → value = 2) ∧
      ((Hex.upperDigit value).toLower = 'e' → value = 14) := by
  decide

theorem dotForms_byte {byte : UInt8} {before behind : List Char}
    (form : (before ++ Percent.encodeByte byte ++ behind).map Char.toLower ∈ dotForms) :
    byte.toNat = 46 := by
  have text : (before ++ Percent.encodeByte byte ++ behind).map Char.toLower =
      before.map Char.toLower ++ '%' :: (Hex.upperDigit (byte.toNat / 16)).toLower ::
        (Hex.upperDigit (byte.toNat % 16)).toLower :: behind.map Char.toLower := by
    simp only [Percent.encodeByte, List.map_append, List.map_cons, List.append_assoc,
      List.cons_append, List.nil_append]
    rfl
  rw [text] at form
  have short : ∀ form ∈ dotForms, form.length < 8 := by decide
  have place : (before.map Char.toLower).length < 7 := by
    have most := short _ form
    simp only [List.length_append, List.length_cons] at most
    omega
  obtain ⟨high, low⟩ := dotForms_escape _ form _ place (by simp)
  have small : byte.toNat < 256 := byte.toNat_lt
  have sixteens := (upperDigit_toLower (byte.toNat / 16) (by omega)).1 (by simpa using high)
  have ones := (upperDigit_toLower (byte.toNat % 16) (by omega)).2 (by simpa using low)
  omega

/-- Encoding turns no other segment into a dot segment. -/
theorem encode_undotted {segment : List Char} (single : isSingleDot segment = false)
    (double : isDoubleDot segment = false) :
    isSingleDot (Percent.encode Percent.path segment) = false ∧
      isDoubleDot (Percent.encode Percent.path segment) = false := by
  rw [← Bool.not_eq_true, ← Bool.not_eq_true, ← not_or]
  intro dots
  by_cases plain : Percent.Plain Percent.path segment
  · rw [Percent.encode_plain plain, single, double] at dots
    rcases dots with ⟨⟨⟩⟩ | ⟨⟨⟩⟩
  · obtain ⟨before, byte, behind, c, encoded, held, first⟩ := Percent.encode_escape plain
    have form := dot_forms dots
    rw [encoded] at form
    have value := dotForms_byte form
    have dot : c = '.' := Char.toNat_inj.mp (by
      have point : ('.' : Char).toNat = 46 := rfl
      omega)
    rw [dot] at held
    exact absurd held (by decide)

private theorem segment_encode {segment : List Char} (whole : ∀ c ∈ segment, c ≠ '/' ∧ c ≠ '\\')
    (single : isSingleDot segment = false) (double : isDoubleDot segment = false) :
    Segment (Percent.encode Percent.path segment) := by
  obtain ⟨single, double⟩ := encode_undotted single double
  refine ⟨Percent.plain_encode Percent.path_escapes _, fun c inside => ?_, single, double⟩
  rcases Percent.mem_encode inside with raw | escape
  · exact whole c raw
  · have apart : ∀ c ∈ Percent.escapes, c ≠ '/' ∧ c ≠ '\\' :=
      List.all_iff_forall_prop.mp (by decide)
    exact apart c escape

private theorem segment_nil : Segment [] where
  plain := List.forall_mem_nil _
  whole := List.forall_mem_nil _
  single := by decide
  double := by decide

private theorem parentSegments_subset (segments : List (List Char)) :
    parentSegments segments ⊆ segments := by
  rw [parentSegments]
  split
  · exact List.Subset.refl _
  · exact List.dropLast_subset _

theorem resolveSegments_segments {kind : SchemeKind} (web : kind ≠ .file)
    {before todo : List (List Char)} (kept : ∀ segment ∈ before, Segment segment)
    (whole : ∀ segment ∈ todo, ∀ c ∈ segment, c ≠ '/' ∧ c ≠ '\\') :
    (∀ segment ∈ resolveSegments kind before todo, Segment segment) ∧
      (before ≠ [] ∨ todo ≠ [] → resolveSegments kind before todo ≠ []) := by
  induction todo generalizing before with
  | nil => exact ⟨kept, fun filled => filled.resolve_right fun empty => empty rfl⟩
  | cons segment rest ih =>
    obtain ⟨here, others⟩ := List.forall_mem_cons.mp whole
    have close {segments : List (List Char)} (each : ∀ segment ∈ segments, Segment segment) :
        (∀ segment ∈ if rest.isEmpty then segments ++ [[]] else segments, Segment segment) ∧
          ((if rest.isEmpty then segments ++ [[]] else segments) ≠ [] ∨ rest ≠ []) := by
      cases rest with
      | nil =>
        refine ⟨fun segment inside => ?_, .inl (by simp)⟩
        rcases List.mem_append.mp inside with inside | last
        · exact each segment inside
        · exact List.mem_singleton.mp last ▸ segment_nil
      | cons next rest => exact ⟨each, .inr (List.cons_ne_nil _ _)⟩
    rw [resolveSegments]
    cases double : isDoubleDot segment with
    | true =>
      obtain ⟨each, filled⟩ := close fun segment inside =>
        kept segment (parentSegments_subset before inside)
      obtain ⟨segments, nonempty⟩ := ih each others
      exact ⟨segments, fun _ => nonempty filled⟩
    | false =>
      cases single : isSingleDot segment with
      | true =>
        obtain ⟨each, filled⟩ := close kept
        obtain ⟨segments, nonempty⟩ := ih each others
        exact ⟨segments, fun _ => nonempty filled⟩
      | false =>
        have each : ∀ segment' ∈ before ++ [Percent.encode Percent.path segment],
            Segment segment' := by
          intro segment' inside
          rcases List.mem_append.mp inside with inside | last
          · exact kept segment' inside
          · exact List.mem_singleton.mp last ▸ segment_encode here single double
        simp only [Bool.false_eq_true, if_false]
        split
        next => exact absurd rfl web
        next =>
          obtain ⟨segments, nonempty⟩ := ih each others
          exact ⟨segments, fun _ => nonempty (.inl (by simp))⟩

private theorem parseSegments_segments (port : Nat) (text : List Char) :
    (∀ segment ∈ parseSegments (.special port) text, Segment segment) ∧
      parseSegments (.special port) text ≠ [] := by
  have whole (inner : List Char) : ∀ segment ∈ splitWhere (isSlash (.special port)) inner,
      ∀ c ∈ segment, c ≠ '/' ∧ c ≠ '\\' := by
    intro segment inside c there
    have slash := notMem_splitWhere inside c there
    rw [← Bool.not_eq_true, isSlash_special rfl, not_or] at slash
    exact slash
  have web : SchemeKind.special port ≠ .file := nofun
  have result (inner : List Char) := resolveSegments_segments web (List.forall_mem_nil _) (whole inner)
  rw [parseSegments.eq_def]
  exact ⟨(result _).1, (result _).2 (.inr (splitWhere_ne_nil _ _))⟩

private theorem splitCredentials_plain (text : List Char) :
    Percent.Plain Percent.userinfo (splitCredentials text).1 ∧
      Percent.Plain Percent.userinfo (splitCredentials text).2.1 := by
  have encoded := Percent.plain_encode Percent.userinfo_escapes
  unfold splitCredentials
  split
  next => exact ⟨List.forall_mem_nil _, List.forall_mem_nil _⟩
  next => exact ⟨encoded _, encoded _⟩

private theorem parsePort_ok {kind : SchemeKind} {digits : List Char} {port : Nat}
    (read : parsePort kind digits = .ok (some port)) : port ≤ 65535 ∧ kind ≠ .special port := by
  simp only [parsePort] at read
  split at read
  next => cases read
  next fits =>
    split at read
    next => cases read
    next own =>
      cases read
      rw [Bool.or_eq_true, not_or, decide_eq_true_iff] at fits
      rw [Bool.or_eq_true, not_or, decide_eq_true_iff] at own
      exact ⟨Nat.not_lt.mp fits.2, own.2⟩

theorem parseAuthority_ok {port : Nat} {text : List Char} {atEnd : Bool} {authority : Authority}
    (read : parseAuthority (.special port) text atEnd = .ok authority) :
    Percent.Plain Percent.userinfo authority.username ∧
      Percent.Plain Percent.userinfo authority.password ∧
      (∃ host written, authority.host = some host ∧ Host.parse written = .ok host) ∧
      ∀ own, authority.port = some own → own ≤ 65535 ∧ SchemeKind.special port ≠ .special own := by
  obtain ⟨username, password⟩ := splitCredentials_plain text
  simp only [parseAuthority, SchemeKind.isSpecial, Bool.true_or, if_true] at read
  split at read
  next => cases read
  next =>
    obtain ⟨host, parsed, read⟩ := bind_ok.mp read
    obtain ⟨own, port, ⟨⟩⟩ := bind_ok.mp read
    refine ⟨username, password, ⟨host, _, rfl, parsed⟩, fun given same => ?_⟩
    cases same
    exact parsePort_ok port

/-- How a URL of a special scheme comes out of its pieces. -/
structure Pieced (url : Url) (port : Nat) : Prop where
  authority : ∃ text atEnd authority, parseAuthority (.special port) text atEnd = .ok authority ∧
    url.username = authority.username ∧ url.password = authority.password ∧
    url.host = authority.host ∧ url.port = authority.port
  path : ∃ text, url.path = .segments (parseSegments (.special port) text)
  query : ∃ query : Option (List Char), url.query = query.map (parseQuery (.special port))
  fragment : ∃ fragment : Option (List Char),
    url.fragment = fragment.map (Percent.encode Percent.fragment)

private theorem pieced_of_parseChars {text : List Char} {url : Url} {port : Nat}
    (read : parseChars text = .ok url) (special : SchemeKind.of url.scheme = .special port) :
    url.Pieced port := by
  unfold parseChars at read
  cases split : splitScheme? (clean text) with
  | none =>
    rw [split] at read
    cases read
  | some parts =>
    obtain ⟨scheme, rest⟩ := parts
    rw [split] at read
    dsimp only at read
    -- The scheme of the result is the one that was read, so no other kind can lead to it.
    cases kind : SchemeKind.of scheme with
    | special own =>
      simp only [kind, SchemeKind.isSpecial, Bool.not_true, Bool.and_false, Bool.false_eq_true,
        if_false] at read
      obtain ⟨authority, parsed, ⟨⟩⟩ := bind_ok.mp read
      cases kind.symm.trans special
      exact ⟨⟨_, _, authority, parsed, rfl, rfl, rfl, rfl⟩, ⟨_, rfl⟩, ⟨_, rfl⟩, ⟨_, rfl⟩⟩
    | file =>
      simp only [kind] at read
      obtain ⟨_, _, ⟨⟩⟩ := bind_ok.mp read
      cases kind.symm.trans special
    | other =>
      simp only [kind] at read
      split at read
      next impossible => cases impossible
      next impossible => cases impossible
      next =>
        obtain ⟨_, _, ⟨⟩⟩ := bind_ok.mp read
        cases kind.symm.trans special
      next =>
        cases read
        cases kind.symm.trans special
      next =>
        cases read
        cases kind.symm.trans special

/-- A URL of the web is read in normal form, with a host that was read. -/
theorem normal_of_parseChars {text : List Char} {url : Url} (read : parseChars text = .ok url)
    (web : url.scheme = "http".toList ∨ url.scheme = "https".toList) :
    ∃ host segments written, Host.parse written = .ok host ∧
      (HostText host.text → url.Normal host segments) := by
  obtain ⟨port, special⟩ : ∃ port, SchemeKind.of url.scheme = .special port := by
    rcases web with http | https
    · exact ⟨80, by rw [http]; rfl⟩
    · exact ⟨443, by rw [https]; rfl⟩
  obtain ⟨⟨_, _, authority, parsed, username, password, hostOf, portOf⟩, ⟨pathText, path⟩,
    ⟨query, queryOf⟩, ⟨fragment, fragmentOf⟩⟩ := pieced_of_parseChars read special
  obtain ⟨plainName, plainWord, ⟨host, written, named, hostRead⟩, portFits⟩ :=
    parseAuthority_ok parsed
  obtain ⟨each, filled⟩ := parseSegments_segments port pathText
  refine ⟨host, parseSegments (.special port) pathText, written, hostRead, fun hostText => ?_⟩
  refine
    { scheme := web
      username := username ▸ plainName
      password := password ▸ plainWord
      host_eq := hostOf.trans named
      hostText
      port := fun own given => special ▸ portFits own (portOf ▸ given)
      path_eq := path
      filled
      each
      query := fun text given => ?_
      fragment := fun text given => ?_ }
  · obtain ⟨raw, _, rfl⟩ := Option.map_eq_some_iff.mp (queryOf ▸ given)
    exact Percent.plain_encode Percent.specialQuery_escapes raw
  · obtain ⟨raw, _, rfl⟩ := Option.map_eq_some_iff.mp (fragmentOf ▸ given)
    exact Percent.plain_encode Percent.fragment_escapes raw

end Url

end InterfaceSync
