import InterfaceSync.Text.CharTable
import Mathlib.Algebra.Group.Nat.Defs
import Mathlib.Order.Basic

/-! Tables of characters. A search ends at the one row that holds a character. What holds of all
characters of a table is checked on its entries, with sets of characters put down as the bits of a
number. -/

namespace InterfaceSync

theorem toNat_ofNat {number : Nat} (valid : number.isValidChar) :
    (Char.ofNat number).toNat = number := by
  rw [Char.ofNat, dif_pos valid]
  rfl

theorem toNat_lt (c : Char) : c.toNat < 0x110000 := by
  rcases c.valid with low | ⟨_, high⟩
  · exact Nat.lt_trans low (by decide)
  · exact high

namespace CharRow

theorem inOrder_cons {row : CharRow} {rest : List CharRow} (ordered : inOrder (row :: rest) = true) :
    inOrder rest = true ∧ row.first ≤ row.last ∧ ∀ next ∈ rest, row.last < next.first := by
  induction rest generalizing row with
  | nil => exact ⟨rfl, by simpa [inOrder] using ordered, List.forall_mem_nil _⟩
  | cons next rest ih =>
    simp only [inOrder, Bool.and_eq_true, decide_eq_true_eq] at ordered
    obtain ⟨⟨own, apart⟩, later⟩ := ordered
    obtain ⟨_, filled, others⟩ := ih later
    refine ⟨later, own, List.forall_mem_cons.mpr ⟨apart, fun other inside => ?_⟩⟩
    have := others other inside
    omega

private theorem inOrder_filled {rows : List CharRow} (ordered : inOrder rows = true) :
    ∀ row ∈ rows, row.first ≤ row.last := by
  induction rows with
  | nil => exact List.forall_mem_nil _
  | cons row rest ih =>
    obtain ⟨later, own, _⟩ := inOrder_cons ordered
    exact List.forall_mem_cons.mpr ⟨own, ih later⟩

private theorem inOrder_pairwise {rows : List CharRow} (ordered : inOrder rows = true) :
    rows.Pairwise fun row next => row.last < next.first := by
  induction rows with
  | nil => exact .nil
  | cons row rest ih =>
    obtain ⟨later, _, apart⟩ := inOrder_cons ordered
    exact .cons apart (ih later)

end CharRow

namespace CharTable

/-- A search between two places ends where the rows cease to lie in front of a character, if they do
so between these places. -/
theorem search_spec {rows : Array CharRow} {number low high : Nat}
    (rising : ∀ (i j : Nat) (row next : CharRow), i ≤ j → rows[i]? = some row → rows[j]? = some next →
      row.last ≤ next.last)
    (between : ∀ (i : Nat) (row : CharRow), rows[i]? = some row →
      (i < low → row.last < number) ∧ (high ≤ i → number ≤ row.last))
    (within_rows : high ≤ rows.size) (i : Nat) (row : CharRow) (held : rows[i]? = some row) :
    row.last < number ↔ i < search rows number low high := by
  fun_induction search rows number low high with
  | case1 low high wide middle before ih =>
    have inside : middle < rows.size := by omega
    rw [Array.getElem?_eq_getElem inside, Option.any_some, decide_eq_true_eq] at before
    refine ih (fun j other there => ⟨fun below => ?_, (between j other there).2⟩) within_rows
    exact Nat.lt_of_le_of_lt
      (rising j middle other _ (by omega) there (Array.getElem?_eq_getElem inside)) before
  | case2 low high wide middle before ih =>
    have inside : middle < rows.size := by omega
    rw [Array.getElem?_eq_getElem inside, Option.any_some, decide_eq_true_eq, Nat.not_lt] at before
    refine ih (fun j other there => ⟨(between j other there).1, fun above => ?_⟩) (by omega)
    exact Nat.le_trans before
      (rising middle j _ other above (Array.getElem?_eq_getElem inside) there)
  | case3 low high narrow =>
    obtain ⟨below, above⟩ := between i row held
    constructor
    · intro less
      by_contra reached
      have := above (by omega)
      omega
    · exact below

variable {table : CharTable}

theorem filled {row : CharRow} (inside : row ∈ table.rows) : row.first ≤ row.last :=
  CharRow.inOrder_filled table.ordered row (Array.mem_toList_iff.mpr inside)

theorem apart {i j : Nat} {row next : CharRow} (less : i < j) (first : table.rows[i]? = some row)
    (second : table.rows[j]? = some next) : row.last < next.first := by
  have ordered := List.pairwise_iff_getElem.mp (CharRow.inOrder_pairwise table.ordered)
  obtain ⟨fits, rfl⟩ := Array.getElem?_eq_some_iff.mp first
  obtain ⟨fits', rfl⟩ := Array.getElem?_eq_some_iff.mp second
  exact ordered i j fits fits' less

private theorem search_iff {number i : Nat} {row : CharRow} (held : table.rows[i]? = some row) :
    row.last < number ↔ i < search table.rows number 0 table.rows.size := by
  refine search_spec (fun i j row next upTo first second => ?_) (fun i row there => ⟨?_, ?_⟩)
    (Nat.le_refl _) i row held
  · rcases Nat.lt_or_eq_of_le upTo with less | rfl
    · exact Nat.le_trans (Nat.le_of_lt (apart less first second))
        (filled (Array.mem_of_getElem? second))
    · cases first.symm.trans second
      exact Nat.le_refl _
  · exact fun impossible => absurd impossible (Nat.not_lt_zero i)
  · intro outside
    rw [Array.getElem?_eq_none outside] at there
    cases there

/-- A search finds the row that holds a character, wherever it stands. -/
theorem row?_iff {c : Char} {row : CharRow} :
    table.row? c = some row ↔ row ∈ table.rows ∧ row.contains c.toNat = true := by
  rw [row?, Option.filter_eq_some_iff]
  refine and_congr_left fun own => ⟨Array.mem_of_getElem?, fun inside => ?_⟩
  obtain ⟨i, fits, rfl⟩ := Array.mem_iff_getElem.mp inside
  have held : table.rows[i]? = some table.rows[i] := Array.getElem?_eq_getElem fits
  simp only [CharRow.contains, Bool.and_eq_true, decide_eq_true_eq] at own
  generalize place : search table.rows c.toNat 0 table.rows.size = found
  have upTo : found ≤ i := by
    have reached := @search_iff table c.toNat i _ held
    omega
  rcases Nat.lt_or_eq_of_le upTo with less | rfl
  · have there : table.rows[found]? = some table.rows[found] := Array.getElem?_eq_getElem (by omega)
    have reached := @search_iff table c.toNat found _ there
    have before := apart less there held
    omega
  · exact held

private theorem contains_iff {c : Char} :
    table.contains c = true ↔ ∃ row ∈ table.rows, row.contains c.toNat = true := by
  simp [contains, Option.isSome_iff_exists, row?_iff]

end CharTable

namespace CharRow

variable {row : CharRow} {number : Nat}

def members (row : CharRow) : List Nat :=
  List.range' row.first ((row.last - row.first) / row.step + 1) row.step

theorem mem_members (filled : row.first ≤ row.last) :
    number ∈ row.members ↔ row.contains number = true := by
  simp only [members, List.mem_range', contains, Bool.and_eq_true, decide_eq_true_eq, beq_iff_eq]
  constructor
  · rintro ⟨i, few, rfl⟩
    have reached : row.step * i ≤ row.last - row.first :=
      Nat.le_trans (Nat.mul_le_mul_left _ (Nat.lt_succ_iff.mp few)) (Nat.mul_div_le _ _)
    exact ⟨⟨by omega, by omega⟩, by simp⟩
  · rintro ⟨⟨above, below⟩, whole⟩
    refine ⟨(number - row.first) / row.step, Nat.lt_succ_of_le (Nat.div_le_div_right ?_), ?_⟩
    · omega
    · have parts := Nat.div_add_mod (number - row.first) row.step
      omega

def imageOf (row : CharRow) (number : Nat) : List Nat :=
  match row.image with
  | [single] => [single + (number - row.first)]
  | image => image

end CharRow

/-- The characters of a table, and what each of them becomes. -/
def CharTable.entries (table : CharTable) : List (Nat × List Nat) :=
  table.rows.toList.flatMap fun row => row.members.map fun number => (number, row.imageOf number)

theorem CharTable.image?_iff {table : CharTable} {c : Char} {text : List Char} :
    table.image? c = some text ↔
      ∃ image, (c.toNat, image) ∈ table.entries ∧ text = image.map Char.ofNat := by
  have image (row : CharRow) : (match row.image with
      | [single] => [Char.ofNat (single + (c.toNat - row.first))]
      | image => image.map Char.ofNat) = (row.imageOf c.toNat).map Char.ofNat := by
    unfold CharRow.imageOf
    split <;> rfl
  simp only [image?, Option.map_eq_some_iff, row?_iff, entries, List.mem_flatMap,
    List.mem_map, Prod.mk.injEq, Array.mem_toList_iff]
  constructor
  · rintro ⟨row, ⟨inside, held⟩, rfl⟩
    exact ⟨_, ⟨row, inside, _, (CharRow.mem_members (filled inside)).mpr held, rfl, rfl⟩, image row⟩
  · rintro ⟨_, ⟨row, inside, number, held, rfl, rfl⟩, rfl⟩
    exact ⟨row, ⟨inside, (CharRow.mem_members (filled inside)).mp held⟩, image row⟩

theorem testBit_foldr {α : Type} (f : α → Nat) (items : List α) (number : Nat) :
    (items.foldr (fun item set => f item ||| set) 0).testBit number =
      items.any fun item => (f item).testBit number := by
  induction items with
  | nil => exact Nat.zero_testBit number
  | cons item rest ih => rw [List.foldr_cons, Nat.testBit_or, ih, List.any_cons]

def CharRow.bits (row : CharRow) : Nat :=
  if row.step = 1 then (2 ^ (row.last + 1 - row.first) - 1) <<< row.first
  else row.members.foldr (fun number set => 1 <<< number ||| set) 0

private theorem CharRow.testBit_bits {row : CharRow} (filled : row.first ≤ row.last) (number : Nat)
    : row.bits.testBit number = row.contains number := by
  unfold bits
  split
  next dense =>
    rw [Nat.testBit_shiftLeft, Nat.testBit_two_pow_sub_one, Bool.eq_iff_iff]
    simp only [contains, dense, Nat.mod_one, Bool.and_eq_true, decide_eq_true_eq, beq_self_eq_true,
      and_true]
    omega
  next =>
    rw [testBit_foldr, Bool.eq_iff_iff, ← mem_members filled, List.any_eq_true]
    simp [Nat.shiftLeft_eq, Nat.testBit_two_pow]

/-- The characters of a table as bits. -/
def CharTable.bits (table : CharTable) : Nat :=
  table.rows.toList.foldr (fun row set => row.bits ||| set) 0

theorem CharTable.testBit_bits {table : CharTable} (c : Char) :
    table.bits.testBit c.toNat = table.contains c := by
  rw [bits, testBit_foldr, Bool.eq_iff_iff, contains_iff, List.any_eq_true]
  simp only [Array.mem_toList_iff]
  refine exists_congr fun row => and_congr_right fun inside => ?_
  rw [CharRow.testBit_bits (filled inside)]

end InterfaceSync
