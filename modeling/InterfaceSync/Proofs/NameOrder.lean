import InterfaceSync.NameMap
import Mathlib.Tactic.SplitIfs

/-! The order of names. A mapping keeps its names in the order of their code points, which is that
of their bytes in UTF-8. -/

namespace InterfaceSync

def utf8 (text : String) : List UInt8 :=
  text.toUTF8.data.toList

private theorem utf8_eq (text : String) : utf8 text = text.toList.flatMap String.utf8EncodeChar :=
    by
  rw [utf8, String.toUTF8_eq_toByteArray]
  conv => lhs; rw [← String.ofList_toList (s := text)]
  rw [String.toByteArray_ofList, List.utf8Encode, List.data_toByteArray]

private theorem digits_lt {first second : Nat} (less : first < second) :
    first / 262144 < second / 262144 ∨ first / 262144 = second / 262144 ∧
      (first / 4096 % 64 < second / 4096 % 64 ∨ first / 4096 % 64 = second / 4096 % 64 ∧
        (first / 64 % 64 < second / 64 % 64 ∨ first / 64 % 64 = second / 64 % 64 ∧
          first % 64 < second % 64)) := by
  omega

/-- No encoding begins another one, so what follows a smaller character does not matter. -/
theorem utf8EncodeChar_lt {first second : Char} (less : first < second) (rest rest' : List UInt8) :
    String.utf8EncodeChar first ++ rest < String.utf8EncodeChar second ++ rest' := by
  have below : first.val.toNat < second.val.toNat := less
  have bound : second.val.toNat < 0x110000 := by
    rcases second.valid with low | ⟨_, high⟩
    · exact Nat.lt_trans low (by decide)
    · exact high
  unfold String.utf8EncodeChar
  generalize first.val.toNat = low at *
  generalize second.val.toNat = high at *
  have digits := digits_lt below
  have leading : high / 262144 < 8 := by omega
  dsimp only
  split_ifs <;>
    simp (disch := omega) only [List.cons_append, List.nil_append, List.cons_lt_cons_iff,
      UInt8.lt_iff_toNat_lt, ← UInt8.toNat_inj, UInt8.toNat_ofNat', Nat.mod_eq_of_lt] <;>
    omega

/-- The order of code points is that of the bytes. -/
theorem utf8_lt {first second : String} (less : first < second) : utf8 first < utf8 second := by
  rw [utf8_eq, utf8_eq]
  have chars : first.toList < second.toList := String.lt_iff.mp less
  generalize first.toList = first at chars
  generalize second.toList = second at chars
  induction chars with
  | @nil char rest =>
    cases encoded : String.utf8EncodeChar char with
    | nil => exact absurd encoded String.utf8EncodeChar_ne_nil
    | cons byte bytes =>
      rw [List.flatMap_cons, encoded]
      exact List.nil_lt_cons _ _
  | rel less => exact utf8EncodeChar_lt less _ _
  | cons _ ih => exact List.append_left_lt ih

namespace NameMap

variable {α : Type} (map : NameMap α)

theorem names_ascend : map.names.Pairwise fun first second => utf8 first < utf8 second :=
  List.pairwise_map.mpr (map.ordered.imp utf8_lt)

theorem mem_names {name : String} : name ∈ map.names ↔ ∃ value, map.get? name = some value := by
  constructor
  · intro inside
    obtain ⟨entry, listed, rfl⟩ := List.mem_map.mp inside
    exact ⟨entry.2, lookup_of_mem map.ordered listed⟩
  · rintro ⟨value, found⟩
    exact List.mem_map.mpr ⟨(name, value), lookup_mem found, rfl⟩

end NameMap

end InterfaceSync
