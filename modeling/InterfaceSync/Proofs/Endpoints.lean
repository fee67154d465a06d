import InterfaceSync.Proofs.EffectiveSettings
import InterfaceSync.Proofs.HostText
import InterfaceSync.Proofs.NormalUrls
import Mathlib.Data.List.DropRight

/-! Where resources are asked for. The name of a resource is put behind the whole text of a base, so it
is part of the path only if nothing follows the path. -/

namespace InterfaceSync

def trimmed (text : List Char) : List Char :=
  text.rdropWhile (· == '/')

theorem trimmed_slash (text : List Char) : trimmed (text ++ ['/']) = trimmed text :=
  List.rdropWhile_concat_pos _ _ _ (by decide)

theorem trimmed_whole (text : List Char) {last : Char} (whole : last ≠ '/') :
    trimmed (text ++ [last]) = text ++ [last] :=
  List.rdropWhile_concat_neg _ _ _ (by simpa using whole)

private theorem trimmed_append (before : List Char) {mark : Char} (whole : mark ≠ '/')
    (behind : List Char) : trimmed (before ++ mark :: behind) = before ++ mark :: trimmed behind := by
  induction behind using List.reverseRecOn with
  | nil => exact trimmed_whole before whole
  | append_singleton rest last ih =>
    have text : before ++ mark :: (rest ++ [last]) = before ++ mark :: rest ++ [last] := by simp
    rw [text]
    by_cases slash : last = '/'
    · subst slash
      rw [trimmed_slash, trimmed_slash, ih]
    · rw [trimmed_whole _ slash, trimmed_whole _ slash, text]

theorem trimmed_segments {front : List Char} (edge : trimmed front = front)
    {segments : List (List Char)} (whole : ∀ segment ∈ segments, '/' ∉ segment) :
    trimmed (front ++ segments.flatMap ('/' :: ·)) =
      front ++ (segments.rdropWhile List.isEmpty).flatMap ('/' :: ·) := by
  induction segments using List.reverseRecOn with
  | nil => rw [List.rdropWhile_nil, List.flatMap_nil, List.append_nil, edge]
  | append_singleton rest last ih =>
    have others : ∀ segment ∈ rest, '/' ∉ segment := fun segment inside =>
      whole segment (List.mem_append_left _ inside)
    have own : '/' ∉ last := whole last (by simp)
    rw [List.flatMap_append, List.flatMap_singleton, ← List.append_assoc]
    rcases List.eq_nil_or_concat' last with rfl | ⟨text, c, rfl⟩
    · rw [trimmed_slash, ih others, List.rdropWhile_concat_pos _ _ _ (by rfl)]
    · have ends : c ≠ '/' := by
        rintro rfl
        exact own (by simp)
      have filled : ¬ (text ++ [c]).isEmpty = true := by simp
      rw [List.rdropWhile_concat_neg _ _ _ filled, List.flatMap_append, List.flatMap_singleton]
      have text : front ++ rest.flatMap ('/' :: ·) ++ '/' :: (text ++ [c]) =
          front ++ rest.flatMap ('/' :: ·) ++ '/' :: text ++ [c] := by simp
      rw [text, trimmed_whole _ ends, ← text]
      simp

private theorem mem_trimmed {text : List Char} {c : Char} (inside : c ∈ trimmed text) : c ∈ text :=
  (List.rdropWhile_prefix _ _).subset inside

namespace Resource

def chars (resource : Resource) : List Char :=
  resource.name.toList

private theorem segment_chars (resource : Resource) : Url.Segment resource.chars := by
  cases resource with
  | _ => exact ⟨by decide, List.all_iff_forall_prop.mp (by decide), by decide, by decide⟩

private theorem plain_chars (resource : Resource) :
    Percent.Plain Percent.specialQuery ('/' :: resource.chars) ∧
      Percent.Plain Percent.fragment ('/' :: resource.chars) := by
  cases resource with
  | _ => constructor <;> decide

end Resource

namespace Url

/-- The segments of a path with a resource behind them, in the place of the slashes at the end. -/
def beneath (segments : List (List Char)) (resource : Resource) : List (List Char) :=
  segments.rdropWhile List.isEmpty ++ [resource.chars]

/-- The URL whose text is that of another one with a resource behind it, which then belongs to what
comes last in the text. -/
def hung (url : Url) (segments : List (List Char)) (resource : Resource) : Url :=
  match url.fragment, url.query with
  | some fragment, _ => { url with fragment := some (trimmed fragment ++ '/' :: resource.chars) }
  | none, some query => { url with query := some (trimmed query ++ '/' :: resource.chars) }
  | none, none => { url with path := .segments (beneath segments resource) }

variable {url : Url} {resource : Resource} {host : Host} {segments : List (List Char)}

private theorem Normal.authority_last (normal : url.Normal host segments) :
    ∃ before mark, url.authority host = before ++ [mark] ∧ mark ≠ '/' := by
  have filled : url.authority host ≠ [] := by
    intro empty
    exact normal.hostText.filled (List.append_eq_nil_iff.mp (List.append_eq_nil_iff.mp empty).2).1
  rcases List.eq_nil_or_concat' (url.authority host) with empty | ⟨before, mark, text⟩
  · exact absurd empty filled
  · refine ⟨before, mark, text, ?_⟩
    rintro rfl
    exact (normal.authority_plain '/' (text ▸ by simp)).2 (by decide)

private theorem plain_trimmed {set : Char → Bool} {text name : List Char}
    (plain : Percent.Plain set text)
    (named : Percent.Plain set name) : Percent.Plain set (trimmed text ++ name) := by
  intro c inside
  rcases List.mem_append.mp inside with kept | added
  · exact plain c (mem_trimmed kept)
  · exact named c added

theorem hung_fragment {text : List Char} (given : url.fragment = some text) :
    url.hung segments resource =
      { url with fragment := some (trimmed text ++ '/' :: resource.chars) } := by
  rw [hung, given]

theorem hung_query {text : List Char} (bare : url.fragment = none)
    (given : url.query = some text) : url.hung segments resource =
      { url with query := some (trimmed text ++ '/' :: resource.chars) } := by
  rw [hung, bare, given]

theorem hung_path (bare : url.fragment = none) (open_ : url.query = none) :
    url.hung segments resource = { url with path := .segments (beneath segments resource) } := by
  rw [hung, bare, open_]

variable (normal : url.Normal host segments)
include normal

private theorem Normal.hung_normal :
    ∃ hungSegments, (url.hung segments resource).Normal host hungSegments := by
  obtain ⟨query, fragment⟩ := resource.plain_chars
  cases givenFragment : url.fragment with
  | some text =>
    have plain : ∀ own, some (trimmed text ++ '/' :: resource.chars) = some own →
        Percent.Plain Percent.fragment own := by
      rintro _ ⟨⟩
      exact plain_trimmed (normal.fragment text givenFragment) fragment
    rw [hung_fragment givenFragment]
    exact ⟨segments, { normal with fragment := plain }⟩
  | none =>
    cases givenQuery : url.query with
    | some text =>
      have plain : ∀ own, some (trimmed text ++ '/' :: resource.chars) = some own →
          Percent.Plain Percent.specialQuery own := by
        rintro _ ⟨⟩
        exact plain_trimmed (normal.query text givenQuery) query
      rw [hung_query givenFragment givenQuery]
      exact ⟨segments, { normal with query := plain }⟩
    | none =>
      have each : ∀ segment ∈ beneath segments resource, Segment segment := by
        intro segment inside
        rcases List.mem_append.mp inside with kept | added
        · exact normal.each segment ((List.rdropWhile_prefix _ _).subset kept)
        · exact List.mem_singleton.mp added ▸ resource.segment_chars
      rw [hung_path givenFragment givenQuery]
      exact ⟨_, { normal with path_eq := rfl, filled := by simp [beneath], each }⟩

private theorem Normal.hung_chars :
    trimmed url.chars ++ '/' :: resource.chars = (url.hung segments resource).chars := by
  obtain ⟨before, mark, authority, edge⟩ := normal.authority_last
  have text := chars_eq normal.host_eq normal.path_eq
  cases givenFragment : url.fragment with
  | some fragment =>
    have front : url.chars = url.scheme ++ ':' :: ('/' :: '/' :: (url.authority host ++
        segments.flatMap ('/' :: ·)) ++ suffixText '?' url.query) ++ '#' :: fragment := by
      rw [text, givenFragment]
      simp [suffixText]
    have changed := @chars_eq
      { url with fragment := some (trimmed fragment ++ '/' :: resource.chars) } host segments
      normal.host_eq normal.path_eq
    rw [front, trimmed_append _ (by decide), hung_fragment givenFragment, changed]
    simp [suffixText, Url.authority, credentialsText, portText]
  | none =>
    cases givenQuery : url.query with
    | some query =>
      have front : url.chars = url.scheme ++ ':' :: ('/' :: '/' :: (url.authority host ++
          segments.flatMap ('/' :: ·))) ++ '?' :: query := by
        rw [text, givenFragment, givenQuery]
        simp [suffixText]
      have changed := @chars_eq
        { url with query := some (trimmed query ++ '/' :: resource.chars) } host segments
        normal.host_eq normal.path_eq
      rw [front, trimmed_append _ (by decide), hung_query givenFragment givenQuery, changed]
      simp [suffixText, Url.authority, credentialsText, portText, givenFragment]
    | none =>
      have front : url.chars = (url.scheme ++ ':' :: '/' :: '/' :: before) ++ [mark] ++
          segments.flatMap ('/' :: ·) := by
        rw [text, givenFragment, givenQuery, authority]
        simp [suffixText]
      have whole : ∀ segment ∈ segments, '/' ∉ segment := fun segment inside there =>
        ((normal.each segment inside).whole '/' there).1 rfl
      have changed := @chars_eq { url with path := .segments (beneath segments resource) } host
        (beneath segments resource) normal.host_eq rfl
      have same : { url with path := .segments (beneath segments resource) }.authority host =
        before ++ [mark] := authority
      rw [front, trimmed_segments (trimmed_whole _ edge) whole, hung_path givenFragment givenQuery,
        changed, same]
      simp [suffixText, givenFragment, givenQuery, beneath]

theorem Normal.endpoint_eq : Client.endpoint ⟨url⟩ resource =
    (Host.parse host.text).map fun host =>
      { url.hung segments resource with host := some host } := by
  obtain ⟨_, hung⟩ : ∃ hungSegments, (url.hung segments resource).Normal host hungSegments :=
    normal.hung_normal
  have text : Client.endpoint ⟨url⟩ resource =
    parseChars (trimmed url.chars ++ '/' :: resource.chars) := rfl
  rw [text, normal.hung_chars, hung.parseChars_chars]

omit normal

def EndsInPath (url : Url) : Prop :=
  url.query = none ∧ url.fragment = none

/-- The URL that a resource is asked for under is the base with the name of the resource behind what
comes last in its text. -/
structure Asks (url asked : Url) (resource : Resource) : Prop where
  scheme : asked.scheme = url.scheme
  username : asked.username = url.username
  password : asked.password = url.password
  host : asked.host = url.host
  port : asked.port = url.port
  path : url.EndsInPath →
    asked.pathText = trimmed url.pathText ++ '/' :: resource.chars ∧ asked.EndsInPath
  query : ∀ text, url.query = some text → url.fragment = none →
    asked = { url with query := some (trimmed text ++ '/' :: resource.chars) }
  fragment : ∀ text, url.fragment = some text →
    asked = { url with fragment := some (trimmed text ++ '/' :: resource.chars) }

include normal

private theorem Normal.asks_hung : url.Asks (url.hung segments resource) resource := by
  have path : url.EndsInPath →
      (url.hung segments resource).pathText = trimmed url.pathText ++ '/' :: resource.chars ∧
        (url.hung segments resource).EndsInPath := by
    rintro ⟨open_, bare⟩
    have whole : ∀ segment ∈ segments, '/' ∉ segment := fun segment inside there =>
      ((normal.each segment inside).whole '/' there).1 rfl
    have trim := @trimmed_segments [] rfl segments whole
    rw [List.nil_append, List.nil_append] at trim
    rw [hung_path bare open_]
    refine ⟨?_, open_, bare⟩
    simp only [pathText, normal.path_eq, trim, beneath, List.flatMap_append, List.flatMap_singleton]
  cases givenFragment : url.fragment with
  | some text =>
    rw [hung_fragment givenFragment] at path ⊢
    exact ⟨rfl, rfl, rfl, rfl, rfl, path, fun _ _ bare => absurd bare (by simp [givenFragment]),
      fun own given => by cases givenFragment.symm.trans given; rfl⟩
  | none =>
    cases givenQuery : url.query with
    | some text =>
      rw [hung_query givenFragment givenQuery] at path ⊢
      exact ⟨rfl, rfl, rfl, rfl, rfl, path,
        fun own given _ => by cases givenQuery.symm.trans given; rfl,
        fun _ given => absurd given (by simp [givenFragment])⟩
    | none =>
      rw [hung_path givenFragment givenQuery] at path ⊢
      exact ⟨rfl, rfl, rfl, rfl, rfl, path, fun _ given => absurd given (by simp [givenQuery]),
        fun _ given => absurd given (by simp [givenFragment])⟩

end Url

namespace Client

/-- Whether the text of a base can be read again: no label of its host is too long. -/
def isReadable (base : Url) : Bool :=
  base.host.all Host.isReadable

variable {raw : String} {base : Url}

theorem normal_of_base (accepted : readApiBase raw = .ok base) :
    ∃ host segments, host.Read ∧ base.Normal host segments := by
  obtain ⟨parsed, web⟩ := readApiBase_ok.mp accepted
  obtain ⟨host, segments, written, parsedHost, normal⟩ := Url.normal_of_parseChars parsed web
  have read : host.Read := Host.read_of_parse parsedHost
  exact ⟨host, segments, read, normal read.hostText⟩

theorem endpoint_asks (accepted : readApiBase raw = .ok base) (resource : Resource) :
    ∃ asked, base.Asks asked resource ∧ endpoint ⟨base⟩ resource =
      if isReadable base then .ok asked else .error .invalidDomain := by
  obtain ⟨host, segments, read, normal⟩ := normal_of_base accepted
  have asks : base.Asks (base.hung segments resource) resource := normal.asks_hung
  have same : { base.hung segments resource with host := some host } =
      base.hung segments resource := by
    rw [← normal.host_eq, ← asks.host]
  refine ⟨_, asks, ?_⟩
  rw [normal.endpoint_eq, read.parse_text, isReadable, normal.host_eq, Option.all_some]
  by_cases readable : host.isReadable = true
  · rw [if_pos readable, if_pos readable, Except.map, same]
  · rw [if_neg readable, if_neg readable, Except.map]

private theorem asks_of_endpoint (accepted : readApiBase raw = .ok base) {resource : Resource}
    {asked : Url} (answer : endpoint ⟨base⟩ resource = .ok asked) : base.Asks asked resource := by
  obtain ⟨_, asks, endpoint⟩ := endpoint_asks accepted resource
  rw [endpoint] at answer
  split at answer
  next =>
    cases answer
    exact asks
  next => cases answer

/-- Where the resources of a base are. -/
structure Placement (base : Url) : Prop where
  hosted : base.host ≠ none
  readable : isReadable base = true → ∀ resource, ∃ asked,
    endpoint ⟨base⟩ resource = .ok asked ∧ base.Asks asked resource
  unreadable : isReadable base = false → ∀ resource,
    endpoint ⟨base⟩ resource = .error .invalidDomain
  alike : ∀ raw other, readApiBase raw = .ok other → base.EndsInPath → other.EndsInPath →
    ∀ resource asked otherAsked, endpoint ⟨base⟩ resource = .ok asked →
      endpoint ⟨other⟩ resource = .ok otherAsked →
      (asked.pathText = otherAsked.pathText ↔ trimmed base.pathText = trimmed other.pathText)

/-- Every accepted base has its resources in one place, if its text can be read again. They are below
its path if nothing stands behind the path, and otherwise all of them have the path of the base. -/
theorem placement (accepted : readApiBase raw = .ok base) : Placement base where
  hosted := by
    obtain ⟨host, _, _, normal⟩ := normal_of_base accepted
    rw [normal.host_eq]
    exact Option.some_ne_none host
  readable able resource := by
    obtain ⟨asked, asks, endpoint⟩ := endpoint_asks accepted resource
    exact ⟨asked, by rw [endpoint, if_pos able], asks⟩
  unreadable unable resource := by
    obtain ⟨asked, _, endpoint⟩ := endpoint_asks accepted resource
    rw [endpoint, unable, if_neg Bool.false_ne_true]
  alike raw other otherAccepted ends otherEnds resource asked otherAsked answer otherAnswer := by
    rw [((asks_of_endpoint accepted answer).path ends).1,
      ((asks_of_endpoint otherAccepted otherAnswer).path otherEnds).1, List.append_left_inj]

/-- A base whose text has nothing but a host, a path and what follows it. -/
def plainBase (path : List String) (query : Option String) : Url where
  scheme := "http".toList
  username := []
  password := []
  host := some (.domain "h.test".toList)
  port := none
  path := .segments (path.map String.toList)
  query := query.map String.toList
  fragment := none

theorem placement_slashes :
    readApiBase "http://h.test/api//" = .ok (plainBase ["api", "", ""] none) ∧
      isReadable (plainBase ["api", "", ""] none) = true ∧
      Placement (plainBase ["api", "", ""] none) ∧
      endpoint ⟨plainBase ["api", "", ""] none⟩ .ifnames =
        .ok (plainBase ["api", "ifnames"] none) := by
  have accepted : readApiBase "http://h.test/api//" = .ok (plainBase ["api", "", ""] none) := by
    decide +kernel
  exact ⟨accepted, by decide +kernel, placement accepted, by decide +kernel⟩

/-- Behind a query there is no place below the path, and the slash at the end of the path counts. -/
theorem placement_behindQuery :
    let base := plainBase ["api"] (some "x=1")
    let asked := plainBase ["api"] (some "x=1/ifnames")
    let slashed := plainBase ["api", ""] (some "x=1")
    let slashedAsked := plainBase ["api", ""] (some "x=1/ifnames")
    (readApiBase "http://h.test/api?x=1" = .ok base ∧ endpoint ⟨base⟩ .ifnames = .ok asked ∧
      asked.pathText ≠ trimmed base.pathText ++ '/' :: Resource.ifnames.chars) ∧
    (readApiBase "http://h.test/api/?x=1" = .ok slashed ∧
      endpoint ⟨slashed⟩ .ifnames = .ok slashedAsked ∧
      trimmed slashed.pathText = trimmed base.pathText ∧ slashedAsked.pathText ≠ asked.pathText) := by
  decide +kernel

end Client

end InterfaceSync
