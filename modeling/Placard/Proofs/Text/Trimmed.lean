/-
# Trimmed texts

A text is trimmed at both ends by dropping blanks from its front, twice, with a reversal in between.
What is left stands between blanks in the text (`exists_trimList`), and what has no blank in it is
found again between any blanks (`trimList_between`).
-/
import Mathlib.Data.List.TakeWhile
import Placard.Text.Blank

namespace Placard.Text

variable {cs front back : List Char} {s : String}

theorem exists_trimList (cs : List Char) : ∃ front back, cs = front ++ trimList cs ++ back ∧
    (∀ c ∈ front, isBlank c = true) ∧ ∀ c ∈ back, isBlank c = true := by
  have hfront := List.takeWhile_append_dropWhile (p := isBlank) (l := cs)
  have hback := List.takeWhile_append_dropWhile (p := isBlank)
    (l := (cs.dropWhile isBlank).reverse)
  refine ⟨cs.takeWhile isBlank, ((cs.dropWhile isBlank).reverse.takeWhile isBlank).reverse, ?_,
    fun c hc => List.mem_takeWhile_imp hc,
    fun c hc => List.mem_takeWhile_imp (List.mem_reverse.mp hc)⟩
  rw [trimList, List.append_assoc, ← List.reverse_append, hback, List.reverse_reverse, hfront]

theorem dropWhile_isBlank_of_none (h : ∀ c ∈ cs, isBlank c = false) :
    cs.dropWhile isBlank = cs :=
  List.dropWhile_eq_self_iff.mpr fun hl => by simp [h _ (List.getElem_mem hl)]

theorem trimList_between (hfront : ∀ c ∈ front, isBlank c = true)
    (hback : ∀ c ∈ back, isBlank c = true) (h : ∀ c ∈ cs, isBlank c = false) :
    trimList (front ++ cs ++ back) = cs := by
  have hrev : ∀ c ∈ cs.reverse, isBlank c = false := fun c hc => h c (List.mem_reverse.mp hc)
  have hbackRev : ∀ c ∈ back.reverse, isBlank c = true := fun c hc =>
    hback c (List.mem_reverse.mp hc)
  unfold trimList
  rw [List.append_assoc, List.dropWhile_append_of_pos hfront]
  cases cs with
  | nil =>
      rw [List.nil_append, List.dropWhile_eq_nil_iff.mpr hback]
      rfl
  | cons c cs =>
      have hc : isBlank c = false := h c List.mem_cons_self
      rw [List.cons_append, List.dropWhile_cons_of_neg (by simp [hc]), ← List.cons_append,
        List.reverse_append, List.dropWhile_append_of_pos hbackRev,
        dropWhile_isBlank_of_none hrev, List.reverse_reverse]

theorem trim_of_none (h : ∀ c ∈ s.toList, isBlank c = false) : trim s = s := by
  have hall : trimList ([] ++ s.toList ++ []) = s.toList :=
    trimList_between (List.forall_mem_nil _) (List.forall_mem_nil _) h
  rw [List.nil_append, List.append_nil] at hall
  rw [trim, hall, String.ofList_toList]

theorem trimList_eq_nil : trimList cs = [] ↔ ∀ c ∈ cs, isBlank c = true := by
  constructor
  · intro h
    obtain ⟨front, back, hcs, hfront, hback⟩ := exists_trimList cs
    rw [h, List.append_nil] at hcs
    rw [hcs]
    exact List.forall_mem_append.mpr ⟨hfront, hback⟩
  · intro h
    rw [trimList, List.dropWhile_eq_nil_iff.mpr h]
    rfl

theorem trim_isEmpty : (trim s).isEmpty = true ↔ ∀ c ∈ s.toList, isBlank c = true := by
  rw [← trimList_eq_nil, trim, String.isEmpty_iff, ← String.toList_eq_nil_iff, String.toList_ofList]

end Placard.Text
