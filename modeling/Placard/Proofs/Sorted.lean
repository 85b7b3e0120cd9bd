/-
# Entries in the order of their keys

What `putSorted` makes of a list of entries: it puts one entry, and is seen by no other key.
-/
import Placard.Text.Sorted

namespace Placard.Text

variable {α : Type} {key : String} {value : α} {entries : List (String × α)}

/-- The keys are those that were there, and the one that is put. -/
theorem mem_keys_putSorted {name : String} :
    name ∈ (putSorted key value entries).map Prod.fst ↔ name = key ∨ name ∈ entries.map Prod.fst := by
  induction entries with
  | nil => simp [putSorted]
  | cons hd rest ih =>
      obtain ⟨k, v⟩ := hd
      rw [putSorted]
      split
      · rename_i heq
        simp [heq]
      · split
        · simp
        · rw [List.map_cons, List.mem_cons, ih, List.map_cons, List.mem_cons]
          exact or_left_comm

theorem lookup_entry {name : String} :
    ((key, value) :: entries).lookup name =
      if name = key then some value else entries.lookup name := by
  rw [List.lookup_cons]
  by_cases hn : name = key
  · rw [if_pos hn, beq_iff_eq.mpr hn]
  · rw [if_neg hn, beq_eq_false_iff_ne.mpr hn]

/-- The entry that is put is found under its key, and the others are found as before. -/
theorem lookup_putSorted {name : String} :
    (putSorted key value entries).lookup name =
      if name = key then some value else entries.lookup name := by
  induction entries with
  | nil => exact lookup_entry
  | cons hd rest ih =>
      obtain ⟨k, v⟩ := hd
      rw [putSorted]
      split
      · rename_i heq
        subst heq
        rw [lookup_entry, lookup_entry]
        split <;> rfl
      · rename_i hne
        split
        · exact lookup_entry
        · rw [lookup_entry, lookup_entry, ih]
          by_cases hn : name = key
          · rw [if_pos hn, if_neg (hn ▸ hne), if_pos hn]
          · rw [if_neg hn, if_neg hn]

end Placard.Text
