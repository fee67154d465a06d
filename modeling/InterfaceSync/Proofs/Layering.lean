import InterfaceSync.Settings.Load

/-! Layers put on each other. What a merged table holds under a key is what its two layers hold
there, one over the other, as long as no layer names a key twice; files and variables never do. -/

namespace InterfaceSync

namespace Setting

/-- An entry of an upper layer over one of a lower layer, where either may be missing. -/
def overlay : Option Setting → Option Setting → Option Setting
  | some lower, some upper => some (lower.merge upper)
  | none, upper => upper
  | lower, none => lower

@[simp] theorem overlay_none (lower : Option Setting) : overlay lower none = lower := by
  cases lower <;> rfl

@[simp] theorem none_overlay (upper : Option Setting) : overlay none upper = upper := by
  cases upper <;> rfl

def isTable : Setting → Bool
  | .table _ => true
  | _ => false

theorem merge_table (lower upper : List (String × Setting)) :
    (table lower).merge (.table upper) = .table (mergeEntries lower upper) := by
  rw [merge]

theorem merge_onto {lower : Setting} (plain : lower.isTable = false) (upper : Setting) :
    lower.merge upper = upper := by
  cases upper with
  | table upper =>
    cases lower with
    | table lower => cases plain
    | _ => rw [merge]; nofun
  | _ => rw [merge]

theorem merge_plain (lower : Setting) {upper : Setting} (plain : upper.isTable = false) :
    lower.merge upper = upper := by
  cases upper with
  | table upper => cases plain
  | _ => rw [merge]

theorem lookup_mergeEntries (lower : List (String × Setting)) {upper : List (String × Setting)}
    (ordered : Ordered upper) (key : String) :
    (mergeEntries lower upper).lookup key = overlay (lower.lookup key) (upper.lookup key) := by
  induction upper generalizing lower with
  | nil =>
    rw [mergeEntries]
    exact (overlay_none _).symm
  | cons head rest ih =>
    obtain ⟨name, value⟩ := head
    obtain ⟨above, tail⟩ := List.pairwise_cons.mp ordered
    have step : mergeEntries lower ((name, value) :: rest) =
        mergeEntries (insertEntry name ((overlay (lower.lookup name) (some value)).getD value) lower)
          rest := by
      rw [mergeEntries]
      cases lower.lookup name <;> rfl
    rw [step, ih _ tail, lookup_insertEntry, lookup_entry]
    by_cases here : key = name
    · subst here
      rw [if_pos rfl, if_pos rfl, lookup_below above, overlay_none]
      cases lower.lookup key <;> rfl
    · rw [if_neg here, if_neg here]

/-- Keys stand in their order at every depth, and whole numbers lie in some range. -/
inductive WellFormed (fits : Int → Prop) : Setting → Prop
  | text (value : String) : WellFormed fits (.text value)
  | whole {value : Int} : fits value → WellFormed fits (.whole value)
  | fraction : WellFormed fits .fraction
  | truth (value : Bool) : WellFormed fits (.truth value)
  | list {items : List Setting} : (∀ item ∈ items, WellFormed fits item) →
      WellFormed fits (.list items)
  | table {entries : List (String × Setting)} : Ordered entries →
      (∀ entry ∈ entries, WellFormed fits entry.2) → WellFormed fits (.table entries)

variable {fits : Int → Prop}

/-- Entries of a table that is well-formed. -/
def Tidy (fits : Int → Prop) (entries : List (String × Setting)) : Prop :=
  WellFormed fits (.table entries)

theorem Tidy.ordered {entries : List (String × Setting)} (tidy : Tidy fits entries) :
    Ordered entries := by
  cases tidy with
  | table ordered _ => exact ordered

theorem Tidy.lookup {entries : List (String × Setting)} (tidy : Tidy fits entries) {key : String}
    {value : Setting} (found : entries.lookup key = some value) : WellFormed fits value := by
  cases tidy with
  | table _ each => exact each _ (lookup_mem found)

theorem Tidy.empty : Tidy fits [] :=
  .table .nil nofun

private theorem Tidy.insertEntry {entries : List (String × Setting)} (tidy : Tidy fits entries)
    (key : String) {value : Setting} (formed : WellFormed fits value) :
    Tidy fits (insertEntry key value entries) := by
  cases tidy with
  | table ordered each =>
    refine .table (ordered_insertEntry key value ordered) ?_
    intro entry inside
    rcases mem_insertEntry inside with rfl | before
    · exact formed
    · exact each entry before

mutual
theorem wellFormed_merge {lower : Setting} (formed : WellFormed fits lower) {upper : Setting}
    (formed' : WellFormed fits upper) : WellFormed fits (lower.merge upper) := by
  match upper, formed' with
  | .table entries, formed' =>
    match lower, formed with
    | .table below, formed =>
      rw [merge_table]
      exact tidy_mergeEntries formed formed'
    | .text _, _ | .whole _, _ | .fraction, _ | .truth _, _ | .list _, _ =>
      rw [merge_onto rfl]
      exact formed'
  | .text _, formed' | .whole _, formed' | .fraction, formed' | .truth _, formed'
  | .list _, formed' =>
    rw [merge_plain lower rfl]
    exact formed'

theorem tidy_mergeEntries {lower : List (String × Setting)} (tidy : Tidy fits lower)
    {upper : List (String × Setting)} (tidy' : Tidy fits upper) :
    Tidy fits (mergeEntries lower upper) := by
  match upper, tidy' with
  | [], _ =>
    rw [mergeEntries]
    exact tidy
  | (key, value) :: rest, .table ordered each =>
    have formed : WellFormed fits value := each _ List.mem_cons_self
    have tidy'' : Tidy fits rest := .table (List.pairwise_cons.mp ordered).2
      fun entry inside => each entry (List.mem_cons_of_mem _ inside)
    rw [mergeEntries]
    apply tidy_mergeEntries _ tidy''
    apply tidy.insertEntry key
    split
    next below found => exact wellFormed_merge (tidy.lookup found) formed
    next => exact formed
end

end Setting

end InterfaceSync
