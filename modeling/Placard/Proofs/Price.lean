/-
# Amounts as they are written

An amount is written with its digits in groups of three, counted from the right, while the separators
are put in from the left.  What decides about one is the number of digits that are left, so the groups
are told by recursion on the digits: the first group has what is left over when threes are taken away,
and at least one digit, and there are three in each of the others (`groups_eq`).

No separator is a digit or a sign, so an amount is read back by leaving the separators out
(`InGroups.plain_eq`), and different amounts are never written alike, whatever follows them.
-/
import Mathlib.Data.List.Basic
import Placard.Plugin.Caption

namespace Placard.Price

variable {locale : Locale} {amount : Int64} {separator : Char} {ds : List Char} {n : Nat}

/-! ## Digits in groups -/

/-- The digits are in groups of three but for the first one, which is not empty. -/
theorem groups_eq (separator : Char) (h : ds ≠ []) : ∃ (first : List Char) (rest : List (List Char)),
    ds = first ++ rest.flatten ∧ groups separator ds = first ++ rest.flatMap (separator :: ·) ∧
      first.length = (ds.length - 1) % 3 + 1 ∧ ∀ group ∈ rest, group.length = 3 := by
  induction ds with
  | nil => exact absurd rfl h
  | cons d ds ih =>
      cases ds with
      | nil => exact ⟨[d], [], rfl, rfl, rfl, List.forall_mem_nil _⟩
      | cons next ds =>
          obtain ⟨first, rest, hds, hgroups, hfirst, hrest⟩ := ih (List.cons_ne_nil _ _)
          simp only [List.length_cons, Nat.add_sub_cancel] at hfirst ⊢
          rw [groups, hgroups, List.length_cons]
          split
          · -- the group in hand is full, and the digit is the first group
            rename_i hfull
            refine ⟨[d], first :: rest, by rw [hds]; rfl, rfl, ?_, ?_⟩
            · rw [hfull.2, List.length_singleton]
            · exact List.forall_mem_cons.mpr ⟨by omega, hrest⟩
          · rename_i hroom
            have hroom : (ds.length + 1) % 3 ≠ 0 := fun hfull => hroom ⟨List.cons_ne_nil _ _, hfull⟩
            refine ⟨d :: first, rest, by rw [hds]; rfl, rfl, ?_, hrest⟩
            rw [List.length_cons]
            omega

/-- Without the separators there are the digits again. -/
theorem filter_groups (h : ∀ d ∈ ds, d ≠ separator) :
    (groups separator ds).filter (· ≠ separator) = ds := by
  induction ds with
  | nil => rfl
  | cons d ds ih =>
      obtain ⟨hd, hds⟩ := List.forall_mem_cons.mp h
      rw [groups]
      split
      · rw [List.filter_cons_of_pos (by simpa using hd), List.filter_cons_of_neg (by simp), ih hds]
      · rw [List.filter_cons_of_pos (by simpa using hd), ih hds]

/-! ## Decimal digits -/

theorem digits_eq : digits n = Nat.toDigits 10 n := Nat.toList_repr

theorem isDigit_of_mem_digits {c : Char} (h : c ∈ digits n) : c.isDigit = true :=
  Nat.isDigit_of_mem_toDigits (by decide) (by decide) (digits_eq ▸ h)

/-- Zero is the one number that begins with a zero. -/
theorem head_digits : (digits n).head? = some '0' ↔ n = 0 := by
  rw [digits_eq]
  induction n using Nat.strongRecOn with
  | ind n ih =>
      rw [Nat.toDigits_eq_if (by decide)]
      split
      · rw [List.head?_cons, Option.some.injEq, Nat.digitChar_eq_zero]
      · rw [List.head?_append_of_ne_nil _ Nat.toDigits_ne_nil, ih (n / 10) (by omega)]
        omega

theorem separator_ne_digit {c : Char} (h : c.isDigit = true) : c ≠ locale.separator := by
  rintro rfl
  cases locale <;> cases h

theorem separator_ne_sign : '-' ≠ locale.separator := by cases locale <;> decide

/-! ## Amounts -/

def sign (amount : Int64) : List Char := if amount < 0 then ['-'] else []

theorem toList_grouped : (grouped locale amount).toList =
    sign amount ++ groups locale.separator (digits amount.toInt.natAbs) := by
  rw [grouped, String.toList_ofList, sign]
  split
  · rfl
  · rfl

theorem lt_zero_iff : amount < 0 ↔ amount.toInt < 0 := Int64.lt_iff_toInt_lt

theorem toList_toString :
    (toString amount.toInt).toList = sign amount ++ digits amount.toInt.natAbs := by
  rw [Int.toString_eq_repr, Int.repr_eq_if, sign, digits]
  by_cases hneg : amount < 0
  · have hlt : amount.toInt < 0 := lt_zero_iff.mp hneg
    have habs : (-amount.toInt).toNat = amount.toInt.natAbs := by omega
    rw [if_pos hneg, if_neg (Int.not_le.mpr hlt), String.toList_append, habs]
    rfl
  · have hle : 0 ≤ amount.toInt := Int.not_lt.mp (mt lt_zero_iff.mpr hneg)
    have habs : amount.toInt.toNat = amount.toInt.natAbs := by omega
    rw [if_neg hneg, if_pos hle, List.nil_append, habs]

/-- A text without the separators of a locale. -/
def withoutSeparators (locale : Locale) (text : String) : String :=
  String.ofList (text.toList.filter (· ≠ locale.separator))

theorem withoutSeparators_grouped :
    withoutSeparators locale (grouped locale amount) = toString amount.toInt := by
  rw [← String.toList_inj, toList_toString, withoutSeparators, String.toList_ofList, toList_grouped,
    List.filter_append, filter_groups fun d hd => separator_ne_digit (isDigit_of_mem_digits hd)]
  rw [List.filter_eq_self.mpr]
  intro c hc
  rw [sign] at hc
  split at hc
  · rw [List.mem_singleton] at hc
    simpa [hc] using separator_ne_sign
  · cases hc

/-- An amount is told by its sign and its digits. -/
theorem sign_append_digits_inj {a b : Int64}
    (h : sign a ++ digits a.toInt.natAbs = sign b ++ digits b.toInt.natAbs) : a = b := by
  -- a sign is no digit
  have hsign : ∀ {n m}, '-' :: digits n ≠ digits m := fun h =>
    absurd (isDigit_of_mem_digits (h ▸ List.mem_cons_self)) (by decide)
  have habs : ∀ {n m}, digits n = digits m → n = m := fun {n m} h => by
    rw [digits_eq, digits_eq] at h
    rw [← Nat.ofDigitChars_ten_toDigits (n := n), h, Nat.ofDigitChars_ten_toDigits]
  rw [← Int64.toInt_inj]
  unfold sign at h
  split at h
  · rename_i ha
    split at h
    · rename_i hb
      rw [lt_zero_iff] at ha hb
      have := habs (List.append_cancel_left h)
      omega
    · exact absurd h hsign
  · rename_i ha
    split at h
    · exact absurd h.symm hsign
    · rename_i hb
      rw [lt_zero_iff] at ha hb
      have := habs h
      omega

theorem grouped_injective : Function.Injective (grouped locale) := by
  intro a b h
  have hplain := congrArg (withoutSeparators locale) h
  rw [withoutSeparators_grouped, withoutSeparators_grouped, ← String.toList_inj, toList_toString,
    toList_toString] at hplain
  exact sign_append_digits_inj hplain

/-- The text of an amount: its sign, and groups of digits with separators between them. -/
structure InGroups (locale : Locale) (amount : Int64) (first : List Char)
    (rest : List (List Char)) : Prop where
  toList_eq : (grouped locale amount).toList =
    sign amount ++ (first ++ rest.flatMap (locale.separator :: ·))
  first_length : 1 ≤ first.length ∧ first.length ≤ 3
  rest_length : ∀ group ∈ rest, group.length = 3
  isDigit : ∀ group ∈ first :: rest, ∀ c ∈ group, c.isDigit = true
  head_zero : first.head? = some '0' ↔ amount = 0

theorem inGroups_grouped : ∃ first rest, InGroups locale amount first rest := by
  have hne : digits amount.toInt.natAbs ≠ [] := digits_eq ▸ Nat.toDigits_ne_nil
  obtain ⟨first, rest, hds, hgroups, hfirst, hrest⟩ := groups_eq locale.separator hne
  refine ⟨first, rest, ⟨?_, by omega, hrest, ?_, ?_⟩⟩
  · rw [toList_grouped, hgroups]
  · intro group hgroup c hc
    refine isDigit_of_mem_digits (n := amount.toInt.natAbs) ?_
    rw [hds, ← List.flatten_cons]
    exact List.mem_flatten.mpr ⟨group, hgroup, hc⟩
  · have hne : first ≠ [] := List.ne_nil_of_length_pos (by omega)
    have hhead := head_digits (n := amount.toInt.natAbs)
    rw [hds, List.head?_append_of_ne_nil _ hne, Int.natAbs_eq_zero] at hhead
    rw [hhead, ← Int64.toInt_inj]
    rfl

/-- Amounts are written in groups of digits, from which they are read back; so different amounts are
written differently, also with a currency after them. -/
theorem grouped_wellFormed (locale : Locale) :
    (∀ amount, (∃ first rest, InGroups locale amount first rest) ∧
      withoutSeparators locale (grouped locale amount) = toString amount.toInt) ∧
    Function.Injective (grouped locale) ∧
    (∀ c : Caption, Function.Injective c.priceText) ∧ Function.Injective frameLabel := by
  refine ⟨fun amount => ⟨inGroups_grouped, withoutSeparators_grouped⟩, grouped_injective, ?_, ?_⟩
  · intro c a b h
    exact grouped_injective (String.append_left_inj _ |>.mp h)
  · intro a b h
    exact grouped_injective (String.append_left_inj _ |>.mp h)

example : grouped .vi Int64.minValue = "-9.223.372.036.854.775.808" := by decide +kernel

end Placard.Price
