/-
# Breaking a text into lines

A paragraph is put on lines word by word, and a line that is in hand grows as long as it fits.  What
comes of that is told by the words on each line: the lines hold the words of the paragraph in order,
none of them is empty, a line of several words fits, and no line has room for the first word of the
next one (`Filled`).  The recursion carries the words of the line in hand, which are at least one and
fit if they are more (`fillLines_filled`).

Nothing is asked of the measure, so all of this holds for every face and every width, a negative one
and one that is no number included.  A line is read back into its words because words have no blanks
in them, and that gives the same facts about the texts of the lines (`Wraps`, `wrap_paragraphs`).
-/
import Mathlib.Data.List.Chain
import Mathlib.Data.List.Forall2
import Placard.Font.Face
import Placard.Proofs.Text.Parts

namespace Placard.FontFace

variable {fits : List Char → Bool} {line word : List Char} {row ws rest : List (List Char)}
  {rows : List (List (List Char))}

/-! ## Words on lines -/

/-- The words of a line with single blanks between them. -/
def spaced (row : List (List Char)) : List Char := [' '].intercalate row

@[simp] theorem spaced_singleton : spaced [word] = word := List.intercalate_singleton

theorem spaced_append {others : List (List Char)} (hrow : row ≠ []) (hothers : others ≠ []) :
    spaced (row ++ others) = spaced row ++ ' ' :: spaced others := by
  unfold spaced
  induction row with
  | nil => exact absurd rfl hrow
  | cons word rest ih =>
      rw [List.cons_append]
      cases rest with
      | nil =>
          rw [List.nil_append, List.intercalate_cons_of_ne_nil hothers, List.intercalate_singleton,
            List.append_assoc, List.singleton_append]
      | cons next rest =>
          have hne : next :: rest ++ others ≠ [] := List.cons_ne_nil _ _
          rw [List.intercalate_cons_of_ne_nil hne, ih (List.cons_ne_nil _ _),
            List.intercalate_cons_cons]
          simp only [List.append_assoc]

theorem spaced_concat (hrow : row ≠ []) : spaced (row ++ [word]) = spaced row ++ ' ' :: word := by
  rw [spaced_append hrow (List.cons_ne_nil _ _), spaced_singleton]

/-- Words on lines, each of which is as full as it can be. -/
structure Filled (fits : List Char → Bool) (ws : List (List Char))
    (rows : List (List (List Char))) : Prop where
  flatten_eq : rows.flatten = ws
  nil_notMem : [] ∉ rows
  within : ∀ row ∈ rows, 2 ≤ row.length → fits (spaced row) = true
  /-- A line has no room for the first word of the next one. -/
  full : rows.IsChain fun row next =>
    ∃ word ∈ next.head?, fits (spaced row ++ ' ' :: word) = false

theorem Filled.head_head (h : Filled fits (word :: rest) rows) {row : List (List Char)}
    (hrow : row ∈ rows.head?) : row.head? = some word := by
  obtain ⟨hflatten, hnil, -, -⟩ := h
  cases rows with
  | nil => cases hrow
  | cons first others =>
      obtain rfl : first = row := Option.some.inj hrow
      cases first with
      | nil => exact absurd List.mem_cons_self hnil
      | cons head tail =>
          rw [List.flatten_cons, List.cons_append] at hflatten
          rw [List.head?_cons, (List.cons.inj hflatten).1]

/-- The words that are left fill lines, the first of which is the line in hand. -/
theorem fillLines_filled (rest : List (List Char)) (hrow : row ≠ [])
    (hfits : 2 ≤ row.length → fits (spaced row) = true) :
    ∃ rows, Filled fits (row ++ rest) rows ∧ fillLines fits (spaced row) rest = rows.map spaced := by
  induction rest generalizing row with
  | nil =>
      refine ⟨[row], ⟨by simp, ?_, ?_, .singleton row⟩, rfl⟩
      · simpa using hrow.symm
      · simpa using hfits
  | cons word rest ih =>
      rw [fillLines]
      split
      · -- the word goes on the line in hand
        rename_i hroom
        rw [← spaced_concat hrow] at hroom ⊢
        have hlonger : row ++ [word] ≠ [] := by simp
        obtain ⟨rows, hfilled, heq⟩ := ih hlonger fun _ => hroom
        rw [List.append_assoc, List.singleton_append] at hfilled
        exact ⟨rows, hfilled, heq⟩
      · -- the word begins the next line
        rename_i hroom
        obtain ⟨rows, hfilled, heq⟩ := ih (List.cons_ne_nil word [])
          fun hlen => absurd hlen (Nat.not_succ_le_self 1)
        rw [spaced_singleton] at heq
        refine ⟨row :: rows, ⟨?_, ?_, ?_, ?_⟩, by rw [heq, List.map_cons]⟩
        · rw [List.flatten_cons, hfilled.flatten_eq, List.singleton_append]
        · exact List.not_mem_cons_of_ne_of_not_mem hrow.symm hfilled.nil_notMem
        · exact List.forall_mem_cons.mpr ⟨hfits, hfilled.within⟩
        · refine List.isChain_cons.mpr ⟨fun next hnext => ?_, hfilled.full⟩
          exact ⟨word, hfilled.head_head hnext, Bool.eq_false_iff.mpr hroom⟩

/-- The words of a paragraph fill its lines. -/
theorem paragraphLines_filled (fits : List Char → Bool) (hws : ws ≠ []) :
    ∃ rows, Filled fits ws rows ∧ paragraphLines fits ws = rows.map spaced := by
  cases ws with
  | nil => exact absurd rfl hws
  | cons word rest =>
      obtain ⟨rows, hfilled, heq⟩ := fillLines_filled rest
        (List.cons_ne_nil word []) fun hlen => absurd hlen (Nat.not_succ_le_self 1)
      exact ⟨rows, hfilled, by rwa [spaced_singleton] at heq⟩

theorem Filled.isWord (h : Filled fits ws rows) (hws : ∀ word ∈ ws, Text.IsWord word)
    (hrow : row ∈ rows) : ∀ word ∈ row, Text.IsWord word := fun word hword =>
  hws word (h.flatten_eq ▸ List.mem_flatten.mpr ⟨row, hrow, hword⟩)

/-! ## Lines of text -/

/-- What the lines of a paragraph are, given which lines fit. -/
structure Wraps (fits : String → Prop) (paragraph : String) (lines : List String) : Prop where
  ne_nil : lines ≠ []
  /-- No word is lost, and none changes its place. -/
  words_eq : lines.flatMap Text.words = Text.words paragraph
  line_eq : ∀ line ∈ lines, line = " ".intercalate (Text.words line)
  /-- A paragraph without words is an empty line. -/
  empty : Text.words paragraph = [] → lines = [""]
  nonempty : Text.words paragraph ≠ [] → "" ∉ lines
  within : ∀ line ∈ lines, 2 ≤ (Text.words line).length → fits line
  /-- No line has room for the first word of the next one. -/
  full : lines.IsChain fun line next =>
    ∃ word ∈ (Text.words next).head?, ¬ fits (line ++ " " ++ word)

theorem words_ofList_spaced (hrow : ∀ word ∈ row, Text.IsWord word) :
    Text.words (String.ofList (spaced row)) = row.map String.ofList := by
  rw [Text.words, String.toList_ofList, spaced, Text.wordList_intercalate hrow]

theorem ofList_spaced : String.ofList (spaced row) = " ".intercalate (row.map String.ofList) := by
  rw [← String.toList_inj, String.toList_ofList, String.toList_intercalate, List.map_map, spaced]
  simp [Function.comp_def]

theorem wraps_of_filled {paragraph : String} (hws : Text.wordList paragraph.toList ≠ [])
    (h : Filled fits (Text.wordList paragraph.toList) rows) :
    Wraps (fun line => fits line.toList = true) paragraph
      (rows.map fun row => String.ofList (spaced row)) := by
  have hwords : ∀ row ∈ rows, Text.words (String.ofList (spaced row)) = row.map String.ofList :=
    fun row hrow => words_ofList_spaced (h.isWord (fun _ => Text.isWord_of_mem) hrow)
  have hne : Text.words paragraph ≠ [] := by simpa [Text.words] using hws
  refine ⟨?_, ?_, ?_, fun hempty => absurd hempty hne, fun _ hblank => ?_, ?_, ?_⟩
  · rintro hnil
    rw [List.map_eq_nil_iff.mp hnil] at h
    exact hws h.flatten_eq.symm
  · rw [List.flatMap_map, List.flatMap_congr hwords, ← List.map_flatMap, List.flatMap_id',
      h.flatten_eq, Text.words]
  · rw [List.forall_mem_map]
    intro row hrow
    rw [hwords row hrow, ofList_spaced]
  · -- an empty line would have no words
    obtain ⟨row, hrow, heq⟩ := List.mem_map.mp hblank
    have hnone := hwords row hrow
    rw [heq, show Text.words "" = [] from rfl] at hnone
    exact h.nil_notMem (List.map_eq_nil_iff.mp hnone.symm ▸ hrow)
  · rw [List.forall_mem_map]
    intro row hrow hlen
    rw [hwords row hrow, List.length_map] at hlen
    rw [String.toList_ofList]
    exact h.within row hrow hlen
  · rw [List.isChain_map]
    refine h.full.imp_of_mem_imp fun row next _ hnext ⟨word, hword, hfull⟩ => ?_
    refine ⟨String.ofList word, ?_, ?_⟩
    · rw [hwords next hnext, List.head?_map, hword]
      rfl
    · simp [hfull]

theorem wraps_paragraphLines (paragraph : String) :
    Wraps (fun line => fits line.toList = true) paragraph
      ((paragraphLines fits (Text.wordList paragraph.toList)).map String.ofList) := by
  by_cases hws : Text.wordList paragraph.toList = []
  · rw [hws]
    have hnone : Text.words paragraph = [] := by rw [Text.words, hws, List.map_nil]
    refine ⟨List.cons_ne_nil _ _, hnone.symm, ?_, fun _ => rfl, fun h => absurd hnone h, ?_, ?_⟩
    · exact List.forall_mem_singleton.mpr rfl
    · exact List.forall_mem_singleton.mpr fun hlen => absurd hlen (by decide)
    · exact .singleton _
  · obtain ⟨rows, hfilled, heq⟩ := paragraphLines_filled fits hws
    rw [heq, List.map_map]
    exact wraps_of_filled hws hfilled

/-- Breaking a text into lines loses no word, keeps to the width, and ends no line too early.  The
lines are those of the paragraphs, one after the other. -/
theorem wrap_paragraphs (face : FontFace) (text : String) (width : Float) :
    ∃ groups : List (List String), face.wrap text width = groups.flatten ∧
      List.Forall₂ (Wraps fun line => ¬ width < face.width line) (Text.splitAt '\n' text) groups := by
  refine ⟨(Text.splitList (· == '\n') text.toList).map fun paragraph =>
    (paragraphLines (face.fits width) (Text.wordList paragraph)).map String.ofList, ?_, ?_⟩
  · rw [wrap, List.flatMap_def]
  · have hfits : (fun line : String => ¬ width < face.width line) =
        fun line => face.fits width line.toList = true := by
      funext line
      simp [fits, FontFace.width]
    rw [Text.splitAt, List.forall₂_map_left_iff, List.forall₂_map_right_iff, hfits]
    refine List.forall₂_same.mpr fun paragraph _ => ?_
    simpa using wraps_paragraphLines (String.ofList paragraph)

end Placard.FontFace
