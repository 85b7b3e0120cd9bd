/-
# Names and their spelling

Two names are the same but for their spelling if they are letter for letter the same, the case of
the letters and all underscores left out of account (`SameName`).  The normal form of a name is
another thing: it is made of the lower case of the whole text, and there the last sigma of a word
has a form of its own, so that an underscore after it shows.

| | |
| :-- | :-- |
| the normal form, final sigmas as plain ones | the letters of the name (`map_unfinal_normalName`) |
| a normal form without sigmas | the letters of the name (`normalName_eq_iff`) |

No field is named with a sigma.  So names that are the same but for their spelling name the same
field, or none.
-/
import Placard.Yaml.Record

namespace Placard.Text

/-! ## Letters -/

/-- The plain form of a sigma that ends a word. -/
def unfinal (c : Char) : Char := if c = 'ς' then 'σ' else c

/-- What a letter is in lower case, wherever it stands. -/
def caseless (c : Char) : List Char :=
  if c = 'İ' then ['i', '\u0307'] else [unfinal (lowerChar c)]

/-- The letters of a name without regard to their case; underscores are none. -/
def letters (cs : List Char) : List Char := (cs.filter (· ≠ '_')).flatMap caseless

/-- Two names are the same but for letter case and underscores. -/
def SameName (s t : String) : Prop := letters s.toList = letters t.toList

instance {s t : String} : Decidable (SameName s t) := instDecidableEqList _ _

variable {c : Char} {before cs : List Char} {s t : String}

theorem SameName.symm (h : SameName s t) : SameName t s := Eq.symm h

theorem map_unfinal (h : 'ς' ∉ cs) : cs.map unfinal = cs := by
  have hself : ∀ c ∈ cs, unfinal c = id c := by
    intro c hc
    have hne : c ≠ 'ς' := fun hfinal => h (hfinal ▸ hc)
    exact if_neg hne
  rw [List.map_congr_left hself, List.map_id]

/-- The code points that letters are moved to lie behind that of the underscore. -/
theorem le_image_of_mem_lowerRuns : ∀ r ∈ lowerRuns, 0x60 ≤ r.first + r.shift := by
  decide +kernel

theorem lowerChar_eq_underscore (h : lowerChar c = '_') : c = '_' := by
  unfold lowerChar at h
  split at h
  · rename_i hascii
    have hall : ∀ n < 0x80, (Char.ofNat n).toLower = '_' → Char.ofNat n = '_' := by decide
    rw [← Char.ofNat_toNat c] at h ⊢
    exact hall c.toNat hascii h
  · dsimp only at h
    split at h
    · rename_i r hr
      have himage := le_image_of_mem_lowerRuns r (List.mem_of_find?_eq_some hr)
      have hrun := List.find?_some hr
      rw [Bool.and_eq_true, Bool.and_eq_true, decide_eq_true_eq] at hrun
      unfold Char.ofNat at h
      by_cases hvalid : (c.toNat + r.shift).toNat.isValidChar
      · rw [dif_pos hvalid] at h
        have hnat : (c.toNat + r.shift).toNat = 0x5F := congrArg Char.toNat h
        omega
      · rw [dif_neg hvalid] at h
        cases h
    · exact h

/-- The lower case of a text has the letters of the text, whatever comes before it. -/
theorem map_unfinal_lowerFrom :
    ((lowerFrom before cs).filter (· ≠ '_')).map unfinal = letters cs := by
  unfold letters
  induction cs generalizing before with
  | nil => rfl
  | cons c cs ih =>
      rw [lowerFrom, List.filter_append, List.map_append, ih]
      by_cases hu : c = '_'
      · subst hu
        rfl
      · rw [List.filter_cons_of_pos (by simpa using hu), List.flatMap_cons]
        refine congrArg (· ++ _) ?_
        unfold caseless
        by_cases hsigma : c = 'Σ'
        · subst hsigma
          rw [if_pos rfl]
          cases meetsCased before && !meetsCased cs with
          | true => rfl
          | false => rfl
        · rw [if_neg hsigma]
          by_cases hdot : c = 'İ'
          · subst hdot
            rfl
          · rw [if_neg hdot, if_neg hdot,
              List.filter_cons_of_pos (by simpa using mt lowerChar_eq_underscore hu)]
            rfl

end Placard.Text

namespace Placard.Yaml
open Text

variable {s t n : String}

theorem map_unfinal_normalName : (normalName s).toList.map unfinal = letters s.toList := by
  unfold normalName lower
  rw [String.toList_ofList, String.toList_ofList]
  exact map_unfinal_lowerFrom

/-- There is no sigma in the name. -/
def HasNoSigma (n : String) : Prop := 'σ' ∉ n.toList ∧ 'ς' ∉ n.toList

instance : Decidable (HasNoSigma n) := instDecidableAnd

/-- A normal form without sigmas is what the letters are. -/
theorem normalName_eq_iff (hn : HasNoSigma n) : normalName s = n ↔ letters s.toList = n.toList := by
  rw [← map_unfinal_normalName]
  constructor
  · rintro rfl
    exact map_unfinal hn.2
  · intro h
    -- a final sigma would have become a plain one, and there is none
    have hno : 'ς' ∉ (normalName s).toList := fun hmem =>
      hn.1 (h ▸ List.mem_map.mpr ⟨'ς', hmem, rfl⟩)
    rw [map_unfinal hno] at h
    exact String.toList_inj.mp h

/-- Names that are the same but for their spelling have the same normal form, unless there is a
sigma in it. -/
theorem normalName_eq_of_sameName (h : SameName s t) (hs : HasNoSigma (normalName s)) :
    normalName t = normalName s :=
  (normalName_eq_iff hs).mpr (h.symm.trans ((normalName_eq_iff hs).mp rfl))

theorem HasNoSigma.of_sameName (h : SameName s t) (hs : HasNoSigma (normalName s)) :
    HasNoSigma (normalName t) := by
  rw [normalName_eq_of_sameName h hs]
  exact hs

end Placard.Yaml
