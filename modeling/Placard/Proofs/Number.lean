/-
# What spells a number

How a number is read is told by how its text is put together.  A number without a minus sign is
spelled by decimal digits after at most one plus sign (`Spells`), and its value is that of
`Nat.ofDigitChars`.  There may be zeros before it, and nothing else around it: no blank, no point.
A minus sign in the place of the plus sign spells the number below zero (`SpellsWhole`).

The reader takes the digits one by one, and it reads digits to any base, so a letter is refused for
its value and not for being a letter (`hexDigit?_letter`).
-/
import Placard.Number.Reader

namespace Placard.Number

/-! ## Digits -/

theorem hexDigit?_digit {c : Char} (h : c.isDigit = true) :
    hexDigit? c = some (c.toNat - 48) ∧ c.toNat - 48 < 10 := by
  obtain ⟨h₁, h₂⟩ := Char.isDigit_iff_toNat.mp h
  refine ⟨if_pos h, ?_⟩
  have h₃ : c.toNat ≤ 57 := h₂
  omega

theorem hexDigit?_letter {c : Char} {d : Nat} (h : c.isDigit ≠ true) (hd : hexDigit? c = some d) :
    10 ≤ d := by
  unfold hexDigit? at hd
  rw [if_neg h] at hd
  split at hd
  · rename_i hl
    simp only [Bool.and_eq_true, decide_eq_true_eq] at hl
    have h₁ : 97 ≤ c.toNat := hl.1
    cases hd
    omega
  · split at hd
    · rename_i hu
      simp only [Bool.and_eq_true, decide_eq_true_eq] at hu
      have h₁ : 65 ≤ c.toNat := hu.1
      cases hd
      omega
    · cases hd

/-- The digits after `n` are read as the decimal number that they continue. -/
theorem digitsFrom_ten {cs : List Char} {n m : Nat} :
    digitsFrom 10 n cs = some m ↔
      (∀ c ∈ cs, c.isDigit = true) ∧ m = Nat.ofDigitChars 10 cs n := by
  induction cs generalizing n with
  | nil => simp only [digitsFrom, Option.some.injEq, List.not_mem_nil, false_imp_iff, implies_true,
      true_and, Nat.ofDigitChars_nil, eq_comm]
  | cons c cs ih =>
      by_cases hc : c.isDigit = true
      · obtain ⟨hd, hlt⟩ := hexDigit?_digit hc
        simp only [digitsFrom, hd, if_pos hlt, ih, List.forall_mem_cons, hc, true_and,
          Nat.ofDigitChars_cons]
        rfl
      · have hnone : digitsFrom 10 n (c :: cs) = none := by
          cases hd : hexDigit? c with
          | none => simp only [digitsFrom, hd]
          | some d =>
              have hlarge : ¬ d < 10 := Nat.not_lt.mpr (hexDigit?_letter hc hd)
              simp only [digitsFrom, hd, if_neg hlarge]
        simp [hnone, hc]

theorem digits?_eq_some {cs : List Char} {n : Nat} :
    digits? cs = some n ↔
      cs ≠ [] ∧ (∀ c ∈ cs, c.isDigit = true) ∧ n = Nat.ofDigitChars 10 cs 0 := by
  unfold digits? inBase?
  cases cs with
  | nil => simp
  | cons c cs => simp only [List.isEmpty_cons, Bool.false_eq_true, if_false, digitsFrom_ten,
      ne_eq, List.cons_ne_nil, not_false_eq_true, true_and]

/-! ## Whole numbers without a minus sign -/

/-- The text is one or more decimal digits, after at most one plus sign, and `n` is their value. -/
def Spells (s : String) (n : Nat) : Prop :=
  ∃ ds : List Char, (s.toList = ds ∨ s.toList = '+' :: ds) ∧ ds ≠ [] ∧
    (∀ d ∈ ds, d.isDigit = true) ∧ n = Nat.ofDigitChars 10 ds 0

variable {s : String} {n : Nat}

theorem spells_of_plus {ds : List Char} (h : s.toList = '+' :: ds) :
    Spells s n ↔ digits? ds = some n := by
  rw [digits?_eq_some]
  constructor
  · rintro ⟨es, he | he, hes⟩
    · rw [h] at he
      exact absurd (hes.2.1 '+' (he ▸ List.mem_cons_self)) (by decide)
    · cases h.symm.trans he
      exact hes
  · exact fun hds => ⟨ds, Or.inr h, hds⟩

theorem spells_of_noPlus (h : ∀ ds, s.toList ≠ '+' :: ds) :
    Spells s n ↔ digits? s.toList = some n := by
  rw [digits?_eq_some]
  constructor
  · rintro ⟨es, he | he, hes⟩
    · rw [he]
      exact hes
    · exact absurd he (h es)
  · exact fun hds => ⟨s.toList, Or.inl rfl, hds⟩

/-- The numbers that are read are those below the bound that are spelled. -/
theorem natural?_eq_some {bound : Nat} : natural? bound s = some n ↔ Spells s n ∧ n < bound := by
  unfold natural?
  dsimp only
  split
  · rename_i m hm
    have hn : Spells s n ↔ m = n := by
      split at hm
      · rw [spells_of_plus ‹_›, hm, Option.some.injEq]
      · rw [spells_of_noPlus ‹_›, hm, Option.some.injEq]
    rw [hn]
    split
    · rename_i hlt
      rw [Option.some.injEq]
      exact ⟨fun he => ⟨he, he ▸ hlt⟩, And.left⟩
    · rename_i hge
      constructor
      · intro he
        cases he
      · rintro ⟨rfl, hlt⟩
        exact absurd hlt hge
  · rename_i hm
    have hn : Spells s n ↔ none = some n := by
      split at hm
      · rw [spells_of_plus ‹_›, hm]
      · rw [spells_of_noPlus ‹_›, hm]
    rw [hn]
    exact ⟨fun he => absurd he.symm (Option.some_ne_none n), And.left⟩

/-- The sizes that are read are the numbers of 32 bits that are spelled. -/
theorem size?_eq_some : size? s = some n ↔ Spells s n ∧ n < UInt32.size := natural?_eq_some

/-! ## Whole numbers with any sign -/

/-- The text spells a number without a minus sign, or it is a minus sign and one or more decimal
digits; and `z` is the number. -/
def SpellsWhole (s : String) (z : Int) : Prop :=
  (∃ n : Nat, Spells s n ∧ z = n) ∨
    ∃ ds : List Char, s.toList = '-' :: ds ∧ ds ≠ [] ∧ (∀ d ∈ ds, d.isDigit = true) ∧
      z = -(Nat.ofDigitChars 10 ds 0 : Int)

variable {z z' : Int} {v : Int64}

theorem not_spells_of_minus {ds : List Char} (h : s.toList = '-' :: ds) : ¬ Spells s n := by
  rintro ⟨es, he | he, -, hdigits, -⟩
  · exact absurd (hdigits '-' (he ▸ h ▸ List.mem_cons_self)) (by decide)
  · cases h.symm.trans he

theorem spellsWhole_of_noMinus (h : ∀ ds, s.toList ≠ '-' :: ds) :
    SpellsWhole s z ↔ ∃ n : Nat, Spells s n ∧ z = n :=
  or_iff_left fun ⟨ds, hds, _⟩ => h ds hds

theorem spellsWhole_of_minus {ds : List Char} (h : s.toList = '-' :: ds) :
    SpellsWhole s z ↔ ∃ n : Nat, digits? ds = some n ∧ -(n : Int) = z := by
  constructor
  · rintro (⟨n, hn, -⟩ | ⟨es, hes, hne, hdigits, rfl⟩)
    · exact absurd hn (not_spells_of_minus h)
    · cases h.symm.trans hes
      exact ⟨_, digits?_eq_some.mpr ⟨hne, hdigits, rfl⟩, rfl⟩
  · rintro ⟨n, hn, rfl⟩
    obtain ⟨hne, hdigits, rfl⟩ := digits?_eq_some.mp hn
    exact Or.inr ⟨ds, h, hne, hdigits, rfl⟩

theorem whole?_eq_some : whole? s.toList = some z ↔ SpellsWhole s z := by
  unfold whole?
  split
  · rename_i cs h
    rw [spellsWhole_of_minus h]
    cases digits? cs with
    | none => exact iff_of_false nofun fun ⟨_, hn, _⟩ => nomatch hn
    | some n =>
        change some (-(n : Int)) = some z ↔ _
        simp only [Option.some.injEq, exists_eq_left']
  · rename_i cs h
    have hsign : ∀ ds, s.toList ≠ '-' :: ds := fun ds hds => by cases h.symm.trans hds
    simp only [spellsWhole_of_noMinus hsign, spells_of_plus h, eq_comm (a := z)]
    exact Option.map_eq_some_iff
  · rename_i hminus hplus
    simp only [spellsWhole_of_noMinus hminus, spells_of_noPlus hplus, eq_comm (a := z)]
    exact Option.map_eq_some_iff

theorem SpellsWhole.unique (h : SpellsWhole s z) (h' : SpellsWhole s z') : z = z' :=
  Option.some.inj ((whole?_eq_some.mpr h).symm.trans (whole?_eq_some.mpr h'))

theorem SpellsWhole.toList_ne_nil (h : SpellsWhole s z) : s.toList ≠ [] := by
  obtain ⟨n, ⟨ds, hs | hs, hne, -, -⟩, -⟩ | ⟨ds, hs, -, -, -⟩ := h
  · exact hs ▸ hne
  · exact hs ▸ List.cons_ne_nil _ _
  · exact hs ▸ List.cons_ne_nil _ _

theorem SpellsWhole.mem (h : SpellsWhole s z) {c : Char} (hc : c ∈ s.toList) :
    c.isDigit = true ∨ c = '+' ∨ c = '-' := by
  obtain ⟨n, ⟨ds, hs | hs, -, hdigits, -⟩, -⟩ | ⟨ds, hs, -, hdigits, -⟩ := h
  · exact Or.inl (hdigits c (hs ▸ hc))
  · rw [hs, List.mem_cons] at hc
    exact hc.symm.imp (hdigits c) Or.inl
  · rw [hs, List.mem_cons] at hc
    exact hc.symm.imp (hdigits c) Or.inr

/-- The whole number is in the range of amounts. -/
def IsAmount (z : Int) : Prop := coordinateMin ≤ z ∧ z ≤ coordinateMax

instance : Decidable (IsAmount z) := instDecidableAnd

theorem IsAmount.toInt_ofInt (h : IsAmount z) : (Int64.ofInt z).toInt = z :=
  Int64.toInt_ofInt_of_le h.1 (Int.lt_add_one_of_le h.2)

theorem isAmount_toInt (v : Int64) : IsAmount v.toInt := ⟨v.minValue_le_toInt, v.toInt_le⟩

/-- A whole number that is spelled is read as an amount if it is in the range. -/
theorem amount?_of_spellsWhole (h : SpellsWhole s z) :
    amount? s = if IsAmount z then some (.ofInt z) else none := by
  rw [amount?, whole?_eq_some.mpr h]
  rfl

theorem amount?_of_not_spellsWhole (h : ∀ z, ¬ SpellsWhole s z) : amount? s = none := by
  have hnone : whole? s.toList = none := Option.eq_none_iff_forall_ne_some.mpr fun z hz =>
    h z (whole?_eq_some.mp hz)
  rw [amount?, hnone]

/-- The amounts that are read are the numbers of 64 bits that are spelled. -/
theorem amount?_eq_some : amount? s = some v ↔ SpellsWhole s v.toInt := by
  constructor
  · intro h
    by_cases hs : ∃ z, SpellsWhole s z
    · obtain ⟨z, hz⟩ := hs
      rw [amount?_of_spellsWhole hz] at h
      split at h
      · rename_i hrange
        rw [← Option.some.inj h, hrange.toInt_ofInt]
        exact hz
      · cases h
    · rw [amount?_of_not_spellsWhole fun z hz => hs ⟨z, hz⟩] at h
      cases h
  · intro h
    rw [amount?_of_spellsWhole h, if_pos (isAmount_toInt v), Int64.ofInt_toInt]

end Placard.Number
