import InterfaceSync.Proofs.AddressText
import InterfaceSync.Proofs.NameText
import InterfaceSync.Proofs.UrlText

/-! Hosts and their text. The text of a host that was read can stand in a URL. -/

namespace InterfaceSync

namespace Host

open Url (HostText InHost)

private theorem inHost_of_apart {c : Char}
    (apart : c ∉ [':', '.', '[', ']', '#', '/', '?', '@', '\\'] ∧ ' ' < c) : InHost c :=
  ⟨apart.2, fun inside => apart.1 (List.mem_of_mem_drop (i := 4) inside)⟩

theorem ipv4Text_digits (address : Nat) :
    ∀ c ∈ ipv4Text address, c = '.' ∨ ∃ value < 10, c = Nat.digitChar value := by
  intro c inside
  simp only [ipv4Text, List.mem_append, List.mem_cons] at inside
  rcases inside with ((d | rfl | d) | rfl | d) | rfl | d
  all_goals first | exact .inl rfl | exact .inr (exists_digitChar (by decide) d)

private theorem ipv4Text_plain {address : Nat} {c : Char} (inside : c ∈ ipv4Text address) :
    Domain.IsPlain c ∧ Domain.isForbidden c = false ∧ c ∉ ['x', '%', '['] := by
  rw [Domain.isForbidden_false]
  have digits : ∀ value < 10, Domain.IsPlain (Nat.digitChar value) ∧
      (' ' < Nat.digitChar value ∧ Nat.digitChar value ≠ '\x7f' ∧
        Nat.digitChar value ∉ "#/:<>?@[\\]^|%".toList) ∧
      Nat.digitChar value ∉ ['x', '%', '['] := by decide
  rcases ipv4Text_digits address c inside with rfl | ⟨value, small, rfl⟩
  · decide
  · exact digits value small

private theorem hostText_ipv4 (address : Nat) : HostText (ipv4Text address) := by
  have digits : ∀ value < 10, InHost (Nat.digitChar value) ∧
      Nat.digitChar value ∉ [':', '[', ']'] := by decide
  have kept : ∀ c ∈ ipv4Text address, InHost c ∧ c ∉ [':', '[', ']'] := by
    intro c inside
    rcases ipv4Text_digits address c inside with rfl | ⟨value, small, rfl⟩
    · decide
    · exact digits value small
  exact ⟨by simp [ipv4Text], fun c inside => (kept c inside).1,
    .inl fun c inside => (kept c inside).2⟩

private theorem ipv6Text_plain {groups : List Nat} {c : Char} (inside : c ∈ ipv6Text groups) :
    c = ':' ∨ c ∉ [':', '.', '[', ']', '#', '/', '?', '@', '\\'] ∧ ' ' < c := by
  rw [ipv6Text_eq] at inside
  split at inside
  next => exact groupsText_plain inside
  next =>
    simp only [List.mem_append, List.mem_cons] at inside
    rcases inside with before | rfl | rfl | behind
    · exact groupsText_plain before
    · exact .inl rfl
    · exact .inl rfl
    · exact groupsText_plain behind

private theorem hostText_ipv6 (groups : List Nat) : HostText ('[' :: ipv6Text groups ++ [']']) := by
  refine ⟨by simp, fun c inside => ?_, .inr ⟨_, rfl, fun c inside mark => ?_⟩⟩
  · rcases List.mem_append.mp inside with front | last
    · rcases List.mem_cons.mp front with rfl | inner
      · decide
      · rcases ipv6Text_plain inner with rfl | apart
        · decide
        · exact inHost_of_apart apart
    · cases List.mem_singleton.mp last
      decide
  · rcases ipv6Text_plain inside with rfl | apart
    · exact absurd mark (by decide)
    · refine apart.1 ?_
      simp only [List.mem_cons, List.not_mem_nil, or_false] at mark
      rcases mark with rfl | rfl <;> decide

private theorem hostText_name {name : List Char} (filled : name ≠ [])
    (allowed : ∀ c ∈ name, Domain.isForbidden c = false) : HostText name where
  filled
  plain c inside := by
    obtain ⟨visible, _, apart⟩ := Domain.isForbidden_false.mp (allowed c inside)
    refine ⟨visible, fun mark => apart ?_⟩
    simp only [List.mem_cons, List.not_mem_nil, or_false] at mark
    rcases mark with rfl | rfl | rfl | rfl | rfl <;> decide
  colons := .inl fun c inside mark => by
    have apart := (Domain.isForbidden_false.mp (allowed c inside)).2.2
    simp only [List.mem_cons, List.not_mem_nil, or_false] at mark
    rcases mark with rfl | rfl | rfl <;> exact apart (by decide)

/-- What can be read as a host. -/
inductive Read : Host → Prop
  | ipv6 {text : List Char} {groups : List Nat} (read : ipv6? text = some groups) :
    Read (.ipv6 groups)
  | ipv4 {name : List Char} {address : Nat} (read : ipv4? name = some address) :
    Read (.ipv4 address)
  | domain {name ascii : List Char} (read : Domain.toAscii? name = some ascii)
    (filled : ascii ≠ []) (named : endsInNumber ascii = false) : Read (.domain ascii)

theorem read_of_parse {written : List Char} {host : Host}
    (parsed : Host.parse written = .ok host) : Read host := by
  unfold Host.parse at parsed
  cases bracket : bracketed? written with
  | some result =>
    rw [bracket, Option.getD_some] at parsed
    subst parsed
    unfold bracketed? at bracket
    split at bracket
    next =>
      have inner := Option.some.inj bracket
      split at inner
      next =>
        split at inner
        next read =>
          cases inner
          exact .ipv6 read
        next => cases inner
      next => cases inner
    next => cases bracket
  | none =>
    rw [bracket, Option.getD_none] at parsed
    split at parsed
    next => cases parsed
    next => cases parsed
    next name filled read =>
      obtain ⟨decoded, _, ascii⟩ := Option.bind_eq_some_iff.mp read
      split at parsed
      next =>
        split at parsed
        next address =>
          cases parsed
          exact .ipv4 address
        next => cases parsed
      next named =>
        cases parsed
        exact .domain ascii filled (by simpa using named)

theorem Read.hostText {host : Host} (read : Read host) : HostText host.text := by
  cases read with
  | ipv6 => exact hostText_ipv6 _
  | ipv4 => exact hostText_ipv4 _
  | domain read filled =>
    obtain ⟨_, _, converted, rfl⟩ := Domain.toAscii?_iff.mp read
    exact hostText_name filled converted.allowed

theorem parse_name {name : List Char} (plain : '%' ∉ name) (unbracketed : '[' ∉ name) :
    Host.parse name =
      match Domain.toAscii? name with
      | none => .error .invalidDomain
      | some [] => .error .emptyHost
      | some ascii =>
        if endsInNumber ascii then
          match ipv4? ascii with
          | some address => .ok (.ipv4 address)
          | none => .error .invalidIpv4
        else .ok (.domain ascii) := by
  have open_ : bracketed? name = none := by
    unfold bracketed?
    split
    next => exact absurd List.mem_cons_self unbracketed
    next => rfl
  have decoded : Percent.decode? name = some name := by
    rw [Percent.decode?, if_neg (by simpa using plain)]
  rw [Host.parse, open_, decoded]
  rfl

private theorem parse_ipv6 {groups : List Nat} (count : groups.length = 8)
    (fits : ∀ group ∈ groups, IsGroup group) :
    Host.parse (Host.ipv6 groups).text = .ok (.ipv6 groups) := by
  have inner : Host.parse (Host.ipv6 groups).text =
      (bracketed? ('[' :: (ipv6Text groups ++ [']']))).getD _ := rfl
  rw [inner, bracketed?]
  simp [ipv6?_ipv6Text count fits]

private theorem parse_ipv4 {address : Nat} (fits : address < 256 ^ 4) :
    Host.parse (Host.ipv4 address).text = .ok (.ipv4 address) := by
  have kept : ∀ c ∈ ipv4Text address, _ := fun _ inside => ipv4Text_plain inside
  have ascii : Domain.toAscii? (ipv4Text address) = some (ipv4Text address) := by
    refine Domain.toAscii?_plain (fun c inside => (kept c inside).1) (fun label inside => ?_)
      fun c inside => (kept c inside).2.1
    rw [Bool.eq_false_iff]
    intro marked
    have there : 'x' ∈ label := (List.isPrefixOf_iff_prefix.mp marked).subset (by decide)
    exact (kept 'x' (mem_splitWhere inside there)).2.2 (by decide)
  have filled : ipv4Text address ≠ [] := by simp [ipv4Text]
  rw [Host.text, parse_name, ascii]
  · split
    next => contradiction
    next empty => exact absurd (Option.some.inj empty) filled
    next own same =>
      cases same
      rw [if_pos (endsInNumber_ipv4Text address), ipv4?_ipv4Text fits]
  · exact fun inside => (kept _ inside).2.2 (by decide)
  · exact fun inside => (kept _ inside).2.2 (by decide)

/-- Whether the text of a host can be read: no label of a name is too long. -/
def isReadable : Host → Bool
  | .domain name => Domain.isReadable name
  | .ipv4 _ => true
  | .ipv6 _ => true

/-- The text of a host that was read is read as that host, unless it is too long. -/
theorem Read.parse_text {host : Host} (read : Read host) :
    Host.parse host.text = if host.isReadable then .ok host else .error .invalidDomain := by
  cases read with
  | ipv6 read =>
    obtain ⟨count, fits⟩ := ipv6?_groups read
    exact parse_ipv6 count fits
  | ipv4 read => exact parse_ipv4 (ipv4?_fits read)
  | @domain _ name read filled named =>
    have apart : ∀ c ∈ name, c ∉ "#/:<>?@[\\]^|%".toList := by
      obtain ⟨_, _, converted, rfl⟩ := Domain.toAscii?_iff.mp read
      exact fun c inside => (Domain.isForbidden_false.mp (converted.allowed c inside)).2.2
    rw [Host.text, parse_name (fun there => apart '%' there (by decide))
      (fun there => apart '[' there (by decide)), Domain.toAscii?_again read, isReadable]
    by_cases readable : Domain.isReadable name = true
    · rw [if_pos readable, if_pos readable]
      split
      next none => cases none
      next empty => exact absurd (Option.some.inj empty) filled
      next own same =>
        cases same
        rw [if_neg (by rw [named]; exact Bool.false_ne_true)]
    · rw [if_neg readable, if_neg readable]

end Host

end InterfaceSync
