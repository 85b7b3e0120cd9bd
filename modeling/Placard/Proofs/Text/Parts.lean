/-
# Parts and words

A text is taken apart character by character, with the part in hand: at separators into its parts,
and at blanks into its words.  The parts are those of `List.splitOnP` (`splitList_eq`), and the words
are the parts between blanks that are not empty (`wordList_eq`), so what is said here follows from the
laws of that function.

| | |
| :-- | :-- |
| a separator | ends the parts before it and begins those after it (`splitList_append`) |
| a blank | does the same for words (`wordList_append`) |
| words with single blanks between them | are read back (`wordList_intercalate`) |
-/
import Placard.Text.Blank

namespace Placard.Text

variable {p : Char → Bool} {c : Char} {as bs cs part word : List Char}

/-! ## Parts -/

theorem splitFrom_eq : splitFrom p part cs = cs.splitOnPPrepend p part := by
  induction cs generalizing part with
  | nil => rw [splitFrom, List.splitOnPPrepend_nil]
  | cons c cs ih =>
      rw [splitFrom, List.splitOnPPrepend_cons_eq_if, ih, ih]
      rfl

theorem splitList_eq : splitList p cs = cs.splitOnP p := splitFrom_eq

/-- A separator ends the parts before it and begins those after it. -/
theorem splitList_append (h : p c = true) :
    splitList p (as ++ c :: bs) = splitList p as ++ splitList p bs := by
  rw [splitList_eq, splitList_eq, splitList_eq, List.splitOnP_append_cons _ _ h]

theorem splitList_cons (h : p c = true) : splitList p (c :: cs) = [] :: splitList p cs := by
  have hnil : splitList p ([] ++ c :: cs) = splitList p [] ++ splitList p cs := splitList_append h
  exact hnil

theorem splitList_of_none (h : ∀ c ∈ cs, p c = false) : splitList p cs = [cs] := by
  rw [splitList_eq, List.splitOnP_eq_singleton h]

theorem splitList_ne_nil : splitList p cs ≠ [] := by
  rw [splitList_eq]
  exact List.splitOnP_ne_nil _ _

theorem splitAt_ne_nil {sep : Char} {s : String} : splitAt sep s ≠ [] := fun h =>
  splitList_ne_nil (List.map_eq_nil_iff.mp h)

/-- No part holds a separator, if the part in hand holds none. -/
theorem splitFrom_none {q : List Char} (hpart : ∀ c ∈ part, p c = false)
    (hq : q ∈ splitFrom p part cs) : ∀ c ∈ q, p c = false := by
  induction cs generalizing part with
  | nil =>
      rw [splitFrom, List.mem_singleton] at hq
      subst hq
      exact fun c hc => hpart c (List.mem_reverse.mp hc)
  | cons a cs ih =>
      rw [splitFrom] at hq
      split at hq
      · rcases List.mem_cons.mp hq with rfl | hq
        · exact fun c hc => hpart c (List.mem_reverse.mp hc)
        · exact ih (fun c hc => absurd hc List.not_mem_nil) hq
      · rename_i ha
        refine ih (fun c hc => ?_) hq
        rcases List.mem_cons.mp hc with rfl | hc
        · simpa using ha
        · exact hpart c hc

theorem splitList_none {q : List Char} (hq : q ∈ splitList p cs) : ∀ c ∈ q, p c = false :=
  splitFrom_none (fun _ hc => absurd hc List.not_mem_nil) hq

/-! ## Words -/

/-- A word: it is not empty, and there is no blank in it. -/
def IsWord (word : List Char) : Prop := word ≠ [] ∧ ∀ c ∈ word, isBlank c = false

theorem wordsFrom_eq :
    wordsFrom word cs = (cs.splitOnPPrepend isBlank word).filter (· ≠ []) := by
  induction cs generalizing word with
  | nil =>
      rw [wordsFrom, List.splitOnPPrepend_nil]
      cases word <;> simp
  | cons c cs ih =>
      rw [wordsFrom, List.splitOnPPrepend_cons_eq_if, ih, ih, List.splitOnPPrepend_nil_right]
      split
      · cases word <;> simp
      · rfl

theorem wordList_eq : wordList cs = (cs.splitOnP isBlank).filter (· ≠ []) := wordsFrom_eq

theorem isWord_of_mem (h : word ∈ wordList cs) : IsWord word := by
  rw [wordList_eq, ← splitList_eq] at h
  obtain ⟨hmem, hne⟩ := List.mem_filter.mp h
  exact ⟨of_decide_eq_true hne, splitList_none hmem⟩

theorem wordList_append (h : isBlank c = true) :
    wordList (as ++ c :: bs) = wordList as ++ wordList bs := by
  rw [wordList_eq, wordList_eq, wordList_eq, List.splitOnP_append_cons _ _ h, List.filter_append]

theorem wordList_of_isWord (h : IsWord word) : wordList word = [word] := by
  rw [wordList_eq, List.splitOnP_eq_singleton h.2]
  simp [h.1]

/-- Words with single blanks between them are read back. -/
theorem wordList_intercalate {ws : List (List Char)} (h : ∀ word ∈ ws, IsWord word) :
    wordList ([' '].intercalate ws) = ws := by
  induction ws with
  | nil => rfl
  | cons word rest ih =>
      obtain ⟨hword, hrest⟩ := List.forall_mem_cons.mp h
      cases rest with
      | nil => rw [List.intercalate_singleton, wordList_of_isWord hword]
      | cons next rest =>
          rw [List.intercalate_cons_cons, List.append_assoc, List.singleton_append,
            wordList_append (by decide), wordList_of_isWord hword, ih hrest]
          rfl

theorem intercalate_ne_nil {ws : List (List Char)} (hws : ws ≠ []) (h : [] ∉ ws) :
    [' '].intercalate ws ≠ [] := by
  cases ws with
  | nil => exact absurd rfl hws
  | cons word rest =>
      have hword : word ≠ [] := fun he => h (he ▸ List.mem_cons_self)
      cases rest with
      | nil => rwa [List.intercalate_singleton]
      | cons next rest =>
          rw [List.intercalate_cons_cons]
          simp [hword]

end Placard.Text
