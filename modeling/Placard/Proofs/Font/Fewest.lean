/-
# No division into fewer lines

Lines are filled greedily, so each of them takes as many words as it can.  That is the best that can
be done with the number of lines, as long as what fits still fits with words taken away from its ends:
then no division of the words into lines that fit has fewer lines (`wrap_fewest`).

The reason is that the greedy lines stay ahead.  While words are put on lines, the line in hand begins
no earlier than the line of the other division that is its match; so when a word has no room on the
line in hand, it has none on that line either, and both go on to the next one
(`fillLines_length_le`).

What is asked of a face is that no line of the text gets narrower when words are added at either end
(`Widens`).  The built-in face does that at every size that is not negative (`widens_of_bitmap`).
-/
import Placard.Proofs.Font.Width
import Placard.Proofs.Font.Wrap

namespace Placard.FontFace

variable {face : FontFace} {text : String} {width : Float} {fits : List Char → Bool}
  {row rest before ws : List (List Char)} {rows : List (List (List Char))}

/-! ## Staying ahead -/

/-- What fits still fits with fewer words at its ends, on the lines of the words. -/
def Loosens (fits : List Char → Bool) (ws : List (List Char)) : Prop :=
  ∀ row longer, row ≠ [] → row <:+: longer → longer <:+: ws →
    fits (spaced longer) = true → fits (spaced row) = true

/-- A line that fits ends before a word that has no room after some of its words. -/
theorem exists_skipped {word : List Char} {first others : List (List Char)}
    (hloosens : Loosens fits ws) (hrow : row ≠ []) (hroom : fits (spaced (row ++ [word])) ≠ true)
    (hfirst : first.length = 1 ∨ fits (spaced first) = true) (hpart : first <:+: ws)
    (heq : first ++ others = before ++ row ++ word :: rest) :
    ∃ skipped, others = skipped ++ word :: rest := by
  rcases List.append_eq_append_iff.mp heq with ⟨skipped, -, hothers⟩ | ⟨more, hfirst', hmore⟩
  · exact ⟨skipped, hothers⟩
  · cases more with
    | nil => exact ⟨[], hmore.symm⟩
    | cons word' more =>
        obtain ⟨rfl, -⟩ := List.cons.inj hmore
        have hlong : first.length ≠ 1 := by
          have := List.length_pos_of_ne_nil hrow
          rw [hfirst', List.length_append, List.length_append, List.length_cons]
          omega
        refine absurd (hloosens (row ++ [word]) first (by simp) ?_ hpart ?_) hroom
        · exact ⟨before, more, by rw [hfirst']; simp⟩
        · exact hfirst.resolve_left hlong

/-- The words after `before` are put on no more lines than there are in a division of all of them that
begins with `before`. -/
theorem fillLines_length_le (hloosens : Loosens fits ws) (hrow : row ≠ [])
    (hflatten : rows.flatten = before ++ row ++ rest) (hpart : rows.flatten <:+: ws)
    (hrows : ∀ row ∈ rows, row.length = 1 ∨ fits (spaced row) = true) :
    (fillLines fits (spaced row) rest).length ≤ rows.length := by
  induction rest generalizing row before rows with
  | nil =>
      refine List.length_pos_of_ne_nil fun hnil => ?_
      rw [hnil, List.flatten_nil, List.append_nil] at hflatten
      exact hrow (List.append_eq_nil_iff.mp hflatten.symm).2
  | cons word rest ih =>
      rw [fillLines]
      split
      · -- the line in hand still begins where it began
        rw [← spaced_concat hrow]
        have hlonger : rows.flatten = before ++ (row ++ [word]) ++ rest := by
          rw [hflatten, ← List.append_assoc, List.append_assoc _ [word], List.singleton_append]
        exact ih (by simp) hlonger hpart hrows
      · rename_i hroom
        rw [← spaced_concat hrow] at hroom
        cases rows with
        | nil => simp at hflatten
        | cons first others =>
            rw [List.flatten_cons] at hflatten hpart
            obtain ⟨hfirst, hothers⟩ := List.forall_mem_cons.mp hrows
            have hinit := (List.prefix_append first others.flatten).isInfix.trans hpart
            have htail := (List.suffix_append first others.flatten).isInfix.trans hpart
            -- the word that has no room begins a later line in the other division, too
            obtain ⟨skipped, hskipped⟩ := exists_skipped hloosens hrow hroom hfirst hinit hflatten
            have hlater : others.flatten = skipped ++ [word] ++ rest := by
              rw [hskipped, List.append_assoc, List.singleton_append]
            have hlen := ih (List.cons_ne_nil word []) hlater htail hothers
            rw [spaced_singleton] at hlen
            exact Nat.succ_le_succ hlen

theorem paragraphLines_length_le (hloosens : Loosens fits ws) (hflatten : rows.flatten = ws)
    (hws : ws ≠ []) (hrows : ∀ row ∈ rows, row.length = 1 ∨ fits (spaced row) = true) :
    (paragraphLines fits ws).length ≤ rows.length := by
  cases ws with
  | nil => exact absurd rfl hws
  | cons word rest =>
      have hall : rows.flatten = [] ++ [word] ++ rest := hflatten
      have hlen := fillLines_length_le hloosens (List.cons_ne_nil word []) hall
        (hflatten ▸ List.infix_refl _) hrows
      rwa [spaced_singleton] at hlen

/-! ## Faces -/

/-- No line of the words gets narrower when words are added at either end, as far as widths are
numbers. -/
def Widens (face : FontFace) (ws : List String) : Prop :=
  ∀ line longer : List String, line ≠ [] → line <:+: longer → longer <:+: ws →
    (face.width (" ".intercalate line)).isNaN = true ∨
      face.width (" ".intercalate line) ≤ face.width (" ".intercalate longer)

theorem width_spaced : face.width (" ".intercalate (row.map String.ofList)) =
    face.widthOf (spaced row) := by
  rw [← ofList_spaced, FontFace.width, String.toList_ofList]

/-- A line that is too wide for a width is still too wide for it with more words. -/
theorem loosens_of_widens (h : face.Widens (ws.map String.ofList)) :
    Loosens (face.fits width) ws := by
  intro row longer hrow hpart hlonger hfits
  have hle := h (row.map String.ofList) (longer.map String.ofList) (by simpa using hrow)
    (hpart.map _) (hlonger.map _)
  rw [width_spaced, width_spaced] at hle
  rw [FontFace.fits, Bool.not_eq_true', decide_eq_false_iff_not] at hfits ⊢
  intro hwide
  rcases hle with hnan | hle
  · rw [(isNaN_of_lt hwide).2] at hnan
    cases hnan
  · exact hfits (Binary.lt_of_lt_le hwide hle)

/-! ## The built-in face -/

theorem spaced_part {longer : List (List Char)} (hrow : row ≠ []) (h : row <:+: longer) :
    spaced row <:+: spaced longer := by
  obtain ⟨before, after, rfl⟩ := h
  have hprefix : spaced row <+: spaced (row ++ after) := by
    cases after with
    | nil => rw [List.append_nil]
    | cons word rest =>
        rw [spaced_append hrow (List.cons_ne_nil _ _)]
        exact List.prefix_append _ _
  rw [List.append_assoc]
  cases before with
  | nil => exact hprefix.isInfix
  | cons word rest =>
      rw [spaced_append (List.cons_ne_nil _ _) (by simp [hrow])]
      exact hprefix.isInfix.trans ((List.suffix_cons _ _).trans (List.suffix_append _ _)).isInfix

/-- Single blanks between the words make a text no longer. -/
theorem length_spaced_wordsFrom {word cs : List Char} :
    (spaced (Text.wordsFrom word cs)).length ≤ word.length + cs.length := by
  induction cs generalizing word with
  | nil =>
      rw [Text.wordsFrom]
      split
      · exact Nat.zero_le _
      · simp
  | cons c cs ih =>
      have hnone := @ih []
      have hmore := @ih (c :: word)
      rw [List.length_nil] at hnone
      rw [List.length_cons] at hmore ⊢
      rw [Text.wordsFrom]
      split
      · split
        · omega
        · cases hrest : Text.wordsFrom [] cs with
          | nil => simp
          | cons next rest =>
              rw [hrest] at hnone
              rw [← List.singleton_append, spaced_append (List.cons_ne_nil _ _)
                (List.cons_ne_nil _ _), spaced_singleton]
              simp only [List.length_append, List.length_reverse, List.length_cons]
              omega
      · omega

/-- The built-in face gives a line of more characters more width. -/
theorem widens_of_bitmap (hsource : face.source = .bitmap) (hsize : ¬ widen face.size < 0)
    (htext : text.length < 2 ^ 48) : face.Widens (Text.words text) := by
  intro line longer hline hpart hlonger
  have hrow : ∀ l : List String, (l.map String.toList).map String.ofList = l := fun l => by
    simp [Function.comp_def]
  rw [← hrow line, ← hrow longer, width_spaced, width_spaced]
  have hwords : longer.map String.toList <:+: Text.wordList text.toList := by
    have hmap := hlonger.map String.toList
    rwa [Text.words, List.map_map, show String.toList ∘ String.ofList = id from
      funext fun _ => String.toList_ofList, List.map_id] at hmap
  have hne : line.map String.toList ≠ [] := by simpa using hline
  have hshort := (spaced_part hne (hpart.map String.toList)).length_le
  have hlong := (spaced_part (fun hnil => hne (by simpa [hnil] using hpart.map String.toList))
    hwords).length_le
  have hall : (spaced (Text.wordList text.toList)).length ≤ text.length := by
    have hfrom := @length_spaced_wordsFrom [] text.toList
    rwa [List.length_nil, Nat.zero_add, String.length_toList] at hfrom
  refine widthOf_le hsource hsize (Text.intercalate_ne_nil hne fun hnil => ?_) hshort (by omega)
  -- no word is empty
  exact (Text.isWord_of_mem ((hpart.map String.toList).trans hwords |>.subset hnil)).1 rfl

/-! ## Divisions of a text -/

/-- A division of words into lines, each of which is a single word or fits. -/
structure Divides (fits : String → Prop) (ws : List String) (lines : List (List String)) : Prop where
  flatten_eq : lines.flatten = ws
  within : ∀ line ∈ lines, line.length = 1 ∨ fits (" ".intercalate line)

theorem wrap_of_line (hline : '\n' ∉ text.toList) : face.wrap text width =
    (paragraphLines (face.fits width) (Text.wordList text.toList)).map String.ofList := by
  rw [wrap, Text.splitList_of_none, List.flatMap_singleton]
  exact fun c hc => beq_eq_false_iff_ne.mpr fun heq => hline (heq ▸ hc)

theorem Filled.divides {fits : List Char → Bool} (h : Filled fits ws rows) :
    Divides (fun line => fits line.toList = true) (ws.map String.ofList)
      (rows.map (List.map String.ofList)) := by
  refine ⟨by rw [← List.map_flatten, h.flatten_eq], List.forall_mem_map.mpr fun row hrow => ?_⟩
  rw [List.length_map, ← ofList_spaced, String.toList_ofList]
  have hne : row ≠ [] := fun hnil => h.nil_notMem (hnil ▸ hrow)
  have hpos := List.length_pos_of_ne_nil hne
  by_cases hone : row.length = 1
  · exact Or.inl hone
  · exact Or.inr (h.within row hrow (by omega))

theorem Divides.letters {fits : List Char → Bool} {lines : List (List String)}
    (h : Divides (fun line => fits line.toList = true) (ws.map String.ofList) lines) :
    ∃ rows : List (List (List Char)), lines = rows.map (List.map String.ofList) ∧
      rows.flatten = ws ∧
        ∀ row ∈ rows, row.length = 1 ∨ fits (spaced row) = true := by
  obtain ⟨hflatten, hwithin⟩ := h
  obtain ⟨rows, rfl⟩ : ∃ rows : List (List (List Char)), lines = rows.map (List.map String.ofList) :=
    ⟨lines.map (List.map String.toList), by simp [Function.comp_def]⟩
  refine ⟨rows, rfl, ?_, fun row hrow => ?_⟩
  · rw [← List.map_flatten] at hflatten
    exact List.map_injective_iff.mpr (fun _ _ => String.ofList_inj.mp) hflatten
  · have hrowfits := hwithin _ (List.mem_map_of_mem hrow)
    rwa [List.length_map, ← ofList_spaced, String.toList_ofList] at hrowfits

/-- A text in one paragraph is divided into lines that fit, and if no line of it gets narrower with
more words, there is no such division with fewer lines. -/
theorem wrap_fewest (face : FontFace) (text : String) (width : Float)
    (hline : '\n' ∉ text.toList) (hwords : Text.words text ≠ []) :
    (∃ lines, Divides (fun line => ¬ width < face.width line) (Text.words text) lines ∧
      face.wrap text width = lines.map (" ".intercalate ·)) ∧
    (face.Widens (Text.words text) → ∀ lines,
      Divides (fun line => ¬ width < face.width line) (Text.words text) lines →
        (face.wrap text width).length ≤ lines.length) ∧
    (face.source = .bitmap → ¬ widen face.size < 0 → text.length < 2 ^ 48 →
      face.Widens (Text.words text)) := by
  have hfits : ∀ line : String, (¬ width < face.width line) =
      (face.fits width line.toList = true) := fun line => by simp [fits, FontFace.width]
  have hws : Text.wordList text.toList ≠ [] := by simpa [Text.words] using hwords
  simp only [hfits]
  refine ⟨?_, fun hwidens lines hdiv => ?_, widens_of_bitmap⟩
  · obtain ⟨rows, hfilled, heq⟩ := paragraphLines_filled (face.fits width) hws
    refine ⟨_, hfilled.divides, ?_⟩
    rw [wrap_of_line hline, heq, List.map_map, List.map_map]
    exact List.map_congr_left fun row _ => ofList_spaced
  · obtain ⟨rows, rfl, hflatten, hrows⟩ := hdiv.letters
    rw [wrap_of_line hline, List.length_map, List.length_map]
    exact paragraphLines_length_le (loosens_of_widens hwidens) hflatten hws hrows

/-- Three words that take two lines. -/
theorem wrap_fewest_builtin :
    (⟨.bitmap, 24⟩ : FontFace).wrap "ab c d" 40 = ["ab", "c d"] ∧ ∀ lines,
      Divides (fun line => ¬ (40 : Float) < (⟨.bitmap, 24⟩ : FontFace).width line)
        ["ab", "c", "d"] lines → 2 ≤ lines.length := by
  have hwrap : (⟨.bitmap, 24⟩ : FontFace).wrap "ab c d" 40 = ["ab", "c d"] := by decide +kernel
  obtain ⟨-, hfewest, hwidens⟩ := wrap_fewest ⟨.bitmap, 24⟩ "ab c d" 40 (by decide)
    (by decide +kernel)
  refine ⟨hwrap, ?_⟩
  have hlen := hfewest (hwidens rfl (by decide +kernel) (by decide))
  rw [hwrap] at hlen
  exact hlen

end Placard.FontFace
