/-
# Sorted entries

Entries under texts, in the order of the texts by their code points, each text once.
-/

namespace Placard.Text

variable {α : Type}

/-- The entries are in the order of their keys, each key once. -/
def SortedByKey (entries : List (String × α)) : Prop := entries.Pairwise (·.1 < ·.1)

instance {entries : List (String × α)} : Decidable (SortedByKey entries) :=
  inferInstanceAs (Decidable (List.Pairwise _ _))

/-- Puts an entry in its place, instead of one under the same key. -/
def putSorted (key : String) (value : α) : List (String × α) → List (String × α)
  | [] => [(key, value)]
  | (k, v) :: rest =>
    if key = k then (key, value) :: rest
    else if key < k then (key, value) :: (k, v) :: rest
    else (k, v) :: putSorted key value rest

variable {key : String} {value : α} {entries : List (String × α)}

theorem mem_putSorted {e : String × α} (h : e ∈ putSorted key value entries) :
    e = (key, value) ∨ e ∈ entries := by
  induction entries with
  | nil => exact Or.inl (List.mem_singleton.mp h)
  | cons hd rest ih =>
      obtain ⟨k, v⟩ := hd
      rw [putSorted] at h
      split at h
      · exact (List.mem_cons.mp h).imp_right (List.mem_cons_of_mem _)
      · split at h
        · exact List.mem_cons.mp h
        · rcases List.mem_cons.mp h with rfl | h
          · exact Or.inr List.mem_cons_self
          · exact (ih h).imp_right (List.mem_cons_of_mem _)

theorem SortedByKey.put (h : SortedByKey entries) : SortedByKey (putSorted key value entries) := by
  induction entries with
  | nil => exact List.pairwise_singleton _ _
  | cons hd rest ih =>
      obtain ⟨k, v⟩ := hd
      obtain ⟨hk, hrest⟩ := List.pairwise_cons.mp h
      rw [putSorted]
      split
      · rename_i heq
        rw [heq]
        exact List.pairwise_cons.mpr ⟨hk, hrest⟩
      · rename_i hne
        split
        · rename_i hlt
          refine List.pairwise_cons.mpr ⟨fun e he => ?_, h⟩
          rcases List.mem_cons.mp he with rfl | he
          · exact hlt
          · exact String.lt_trans hlt (hk e he)
        · rename_i hge
          refine List.pairwise_cons.mpr ⟨fun e he => ?_, ih hrest⟩
          rcases mem_putSorted he with rfl | he
          · exact String.not_le.mp fun hle => hne (String.le_antisymm hle (String.not_lt.mp hge))
          · exact hk e he

end Placard.Text
