/-
# Values that are read by their texts

A value of a request is a whole number, a floating number or a text.  An amount is read from it as
it is, or from its text, which is what a value comes to that has passed through a text on its way.

| value | its text |
| :-- | :-- |
| a whole number | spells it (`spellsWhole_toString`) |
| a whole floating number | spells one that is near it (`exists_spellsWhole`) |
| another floating number | spells no whole number either (`toAmount?_of_fraction`) |
| a text | is the same |

So only a whole floating number can be read differently, and only if a rounder number is written for
it (`toAmount?_toText`), which takes more than 53 bits.
-/
import Placard.Plugin.Values
import Placard.Proofs.Number
import Placard.Proofs.Number.Shortest
import Placard.Proofs.Price
import Placard.Proofs.Text.Trimmed

namespace Placard
open Binary

namespace RequestValue

variable {v : RequestValue} {x : Float} {z w : ℤ} {s : String} {c : Char}

/-! ## Whole floating numbers -/

theorem isWhole_iff : isWhole x = true ↔ ∃ z : ℤ, (ofFloat x).value? = some (z : ℚ) := by
  unfold isWhole
  cases ofFloat x with
  | nan => exact iff_of_false Bool.false_ne_true nofun
  | infinite negative => exact iff_of_false Bool.false_ne_true nofun
  | finite negative m e =>
      dsimp only
      rw [Bool.or_eq_true, decide_eq_true_eq, decide_eq_true_eq, Nat.one_shiftLeft, ← whole_iff]
      constructor
      · rintro ⟨n, hn⟩
        exact ⟨signed negative n, value?_of_natCast hn⟩
      · rintro ⟨z, hz⟩
        exact ⟨z.natAbs, (abs_of_value? hz).1⟩

/-- The value is a floating number that is worth the whole number `z`. -/
def IsWholeReal (v : RequestValue) (z : ℤ) : Prop :=
  ∃ x : Float, v = .real x ∧ (ofFloat x).value? = some (z : ℚ)

theorem isWholeReal_real : (real x).IsWholeReal z ↔ (ofFloat x).value? = some (z : ℚ) := by
  constructor
  · rintro ⟨_, he, hz⟩
    cases he
    exact hz
  · exact fun hz => ⟨x, rfl, hz⟩

theorem IsWholeReal.unique (h : v.IsWholeReal z) (h' : v.IsWholeReal w) : z = w := by
  obtain ⟨x, rfl, hz⟩ := h
  exact Int.cast_inj.mp (Option.some.inj (hz.symm.trans (isWholeReal_real.mp h')))

/-! ## Reading a text -/

theorem isBlank_of_number (h : c.isDigit = true ∨ c ∈ ['+', '-', '.']) :
    Text.isBlank c = false := by
  rcases h with h | h
  · obtain ⟨hmin, hmax⟩ := Char.isDigit_iff_toNat.mp h
    unfold Text.isBlank
    grind
  · simp only [List.mem_cons, List.not_mem_nil, or_false] at h
    rcases h with rfl | rfl | rfl <;> rfl

theorem toAmount?_text (hne : s.toList ≠ [])
    (h : ∀ c ∈ s.toList, c.isDigit = true ∨ c ∈ ['+', '-', '.']) :
    (text s).toAmount? = Number.amount? s := by
  have htrim := Text.trim_of_none fun c hc => isBlank_of_number (h c hc)
  have hempty : s.isEmpty = false := by
    rw [← Bool.not_eq_true, String.isEmpty_iff, ← String.toList_eq_nil_iff]
    exact hne
  unfold toAmount?
  dsimp only
  rw [htrim, hempty]
  rfl

theorem toAmount?_text_of_spellsWhole (h : Number.SpellsWhole s z) :
    (text s).toAmount? = Number.amount? s :=
  toAmount?_text h.toList_ne_nil fun c hc => (h.mem hc).imp_right (by rintro (rfl | rfl) <;> decide)

theorem spellsWhole_toString (n : Int64) : Number.SpellsWhole (toString n.toInt) n.toInt := by
  have htext : (toString n.toInt).toList = Price.sign n ++ Price.digits n.toInt.natAbs :=
    Price.toList_toString
  have hne : Price.digits n.toInt.natAbs ≠ [] := Price.digits_eq ▸ Nat.toDigits_ne_nil
  have hvalue : Nat.ofDigitChars 10 (Price.digits n.toInt.natAbs) 0 = n.toInt.natAbs := by
    rw [Price.digits_eq, Nat.ofDigitChars_ten_toDigits]
  have hdigits : ∀ c ∈ Price.digits n.toInt.natAbs, c.isDigit = true :=
    fun c hc => Price.isDigit_of_mem_digits hc
  rw [Price.sign] at htext
  by_cases hneg : n < 0
  · have hlt := Price.lt_zero_iff.mp hneg
    rw [if_pos hneg] at htext
    refine Or.inr ⟨Price.digits n.toInt.natAbs, htext, hne, hdigits, ?_⟩
    rw [hvalue]
    omega
  · have hle := mt Price.lt_zero_iff.mpr hneg
    rw [if_neg hneg] at htext
    exact Or.inl ⟨_, ⟨_, Or.inl htext, hne, hdigits, hvalue.symm⟩, by omega⟩

/-! ## Reading the text of a value -/

/-- A number that is not finite, or not whole, is no amount, and neither is its text. -/
theorem toAmount?_of_fraction (h : ∀ z, ¬ (real x).IsWholeReal z) :
    (real x).toAmount? = none ∧ (text (real x).toText).toAmount? = none := by
  have hvalue : ∀ z : ℤ, (ofFloat x).value? ≠ some (z : ℚ) := fun z => mt isWholeReal_real.mpr (h z)
  have hwhole : isWhole x = false := by
    rw [← Bool.not_eq_true, isWhole_iff]
    exact fun ⟨z, hz⟩ => hvalue z hz
  refine ⟨by rw [toAmount?, hwhole]; rfl, ?_⟩
  cases hx : ofFloat x with
  | nan =>
      rw [toText, Decimal.ofFloat, hx]
      decide +kernel
  | infinite negative =>
      rw [toText, Decimal.ofFloat, hx]
      cases negative <;> decide +kernel
  | finite negative m e =>
      have hfrac : ∀ n : ℕ, (m : ℚ) * 2 ^ e ≠ n := fun n hn => hvalue _ (hx ▸ value?_of_natCast hn)
      have hm : 0 < m := Nat.pos_of_ne_zero fun hm => hfrac 0 (by simp [hm])
      have hpoint : '.' ∈ (real x).toText.toList := by
        rw [toText, Decimal.toList_ofFloat hx]
        exact List.mem_append_right _ (Decimal.point_mem_positional
          (Decimal.shortest_of_fraction hm (fits_of_ofFloat hx hm).lt hfrac))
      have hchars : ∀ c ∈ (real x).toText.toList, c.isDigit = true ∨ c ∈ ['+', '-', '.'] :=
        fun c hc => (Decimal.mem_ofFloat hx hc).imp_right (by rintro (rfl | rfl) <;> decide)
      rw [toAmount?_text (List.ne_nil_of_mem hpoint) hchars]
      -- a whole number has no point
      exact Number.amount?_of_not_spellsWhole fun z hz => absurd (hz.mem hpoint) (by decide)

/-- What is written for a whole number in the range of amounts is one, and near it. -/
theorem exists_spellsWhole (hreal : (real x).IsWholeReal z) (hz : Number.IsAmount z) :
    ∃ w, Number.SpellsWhole (real x).toText w ∧
      |w - z| * 2 ^ 53 ≤ |z| ∧ (|z| ≤ 2 ^ 53 → w = z) := by
  have h := isWholeReal_real.mp hreal
  cases hx : ofFloat x with
  | nan => rw [hx] at h; cases h
  | infinite negative => rw [hx] at h; cases h
  | finite negative m e =>
      rw [hx] at h
      obtain ⟨habs, hsign⟩ := abs_of_value? h
      generalize hn : z.natAbs = n at habs hsign
      have hle : n ≤ 2 ^ 63 := by
        have hmin : -2 ^ 63 ≤ z := hz.1
        have hmax : z ≤ 2 ^ 63 - 1 := hz.2
        omega
      have hwritten : 0 ≤ (Decimal.shortest double m e).power ∧
          |(Decimal.written (Decimal.shortest double m e) : ℤ) - n| * 2 ^ 53 ≤ n ∧
          (n ≤ 2 ^ 53 → Decimal.written (Decimal.shortest double m e) = n) := by
        rcases Nat.eq_zero_or_pos m with rfl | hm
        · obtain rfl : n = 0 := by
            rw [Nat.cast_zero, zero_mul] at habs
            exact_mod_cast habs.symm
          exact ⟨le_rfl, le_rfl, fun _ => rfl⟩
        · exact ⟨(Decimal.shortest_of_whole hm habs hle).1,
            Decimal.shortest_near (fits_of_ofFloat hx hm) hm habs hle⟩
      obtain ⟨hpower, hnear, hexact⟩ := hwritten
      refine ⟨_, Decimal.spellsWhole_ofFloat hx hpower, ?_⟩
      generalize Decimal.written (Decimal.shortest double m e) = w at hnear hexact ⊢
      rw [hsign, abs_signed_sub, abs_signed]
      exact ⟨hnear, fun hsmall => congrArg _ (hexact (by exact_mod_cast hsmall))⟩

theorem toAmount?_of_whole (h : (real x).IsWholeReal z) (hz : Number.IsAmount z) :
    (real x).toAmount? = some (.ofInt z) := by
  have hvalue := isWholeReal_real.mp h
  rw [toAmount?, if_pos (isWhole_iff.mpr ⟨z, hvalue⟩), truncated, toCoordinate,
    toInt_of_value? hvalue, min_eq_right hz.2, max_eq_right hz.1]

/-- A floating number is read as the whole number that it is. -/
theorem toAmount?_real (hrange : ∀ z, (real x).IsWholeReal z → Number.IsAmount z) {a : Int64} :
    (real x).toAmount? = some a ↔ (real x).IsWholeReal a.toInt := by
  by_cases hwhole : ∃ z, (real x).IsWholeReal z
  · obtain ⟨z, hz⟩ := hwhole
    rw [toAmount?_of_whole hz (hrange z hz), Option.some.injEq]
    constructor
    · rintro rfl
      rwa [(hrange z hz).toInt_ofInt]
    · intro ha
      rw [hz.unique ha, Int64.ofInt_toInt]
  · have hnot : ∀ z, ¬ (real x).IsWholeReal z := fun z hz => hwhole ⟨z, hz⟩
    rw [(toAmount?_of_fraction hnot).1]
    exact iff_of_false nofun (hnot _)

/-- The text of a value is read as the value is, just if it spells the value. -/
theorem toAmount?_toText (hrange : ∀ z, v.IsWholeReal z → Number.IsAmount z) :
    (text v.toText).toAmount? = v.toAmount? ↔
      ∀ z, v.IsWholeReal z → Number.SpellsWhole v.toText z := by
  cases v with
  | text s => exact iff_of_true rfl fun z ⟨x, hx, _⟩ => nomatch hx
  | whole n =>
      have hspells := spellsWhole_toString n
      refine iff_of_true ?_ fun z ⟨x, hx, _⟩ => nomatch hx
      exact (toAmount?_text_of_spellsWhole hspells).trans (Number.amount?_eq_some.mpr hspells)
  | real x =>
      by_cases hwhole : ∃ z, (real x).IsWholeReal z
      · obtain ⟨z, hz⟩ := hwhole
        obtain ⟨w, hspells, -⟩ := exists_spellsWhole hz (hrange z hz)
        rw [toAmount?_of_whole hz (hrange z hz), toAmount?_text_of_spellsWhole hspells,
          Number.amount?_eq_some, (hrange z hz).toInt_ofInt]
        exact ⟨fun h z' hz' => hz.unique hz' ▸ h, fun h => h z hz⟩
      · have hnot : ∀ z, ¬ (real x).IsWholeReal z := fun z hz => hwhole ⟨z, hz⟩
        obtain ⟨hread, htext⟩ := toAmount?_of_fraction hnot
        exact iff_of_true (htext.trans hread.symm) fun z hz => absurd hz (hnot z)

end RequestValue

namespace RequestValues

variable {values written : RequestValues} {key s : String} {v : RequestValue} {z : ℤ}

theorem amount_of_get? (h : values.get? key = some v) :
    values.amount key = v.toAmount?.elim (.error (.coercion key v.toText)) .ok := by
  unfold amount
  rw [h]
  dsimp only
  cases v.toAmount? with
  | none => rfl
  | some n => rfl

theorem amount_eq_ok (h : values.get? key = some v) {n : Int64} :
    values.amount key = .ok n ↔ v.toAmount? = some n := by
  rw [amount_of_get? h]
  cases v.toAmount? with
  | none => exact iff_of_false nofun nofun
  | some m => rw [Option.elim_some, Except.ok.injEq, Option.some.injEq]

/-- A value and its text come to the same amount, or fail alike, if they are read alike. -/
theorem amount_eq_iff (hv : values.get? key = some v)
    (hw : written.get? key = some (.text v.toText)) :
    written.amount key = values.amount key ↔
      (RequestValue.text v.toText).toAmount? = v.toAmount? := by
  cases ha : v.toAmount? with
  | none =>
      rw [amount_of_get? hv, amount_of_get? hw, ha]
      cases (RequestValue.text v.toText).toAmount? with
      | none => exact iff_of_true rfl rfl
      | some n => exact iff_of_false nofun nofun
  | some n => rw [(amount_eq_ok hv).mpr ha, amount_eq_ok hw]

theorem amount_of_spellsWhole (h : values.get? key = some (.text s))
    (hs : Number.SpellsWhole s z) : values.amount key =
      if Number.IsAmount z then .ok (.ofInt z) else .error (.coercion key s) := by
  rw [amount_of_get? h, RequestValue.toAmount?_text_of_spellsWhole hs,
    Number.amount?_of_spellsWhole hs]
  split
  · rfl
  · rfl

/-- A value and its text come to the same amount, or fail alike, just if the text spells the value;
that is to say, always, but for a whole floating number of more than 53 bits, which may be written
as a rounder one.  A floating number beyond the range of amounts is left out. -/
theorem amount_by_text (hv : values.get? key = some v)
    (hw : written.get? key = some (.text v.toText))
    (hrange : ∀ z, v.IsWholeReal z → Number.IsAmount z) :
    (written.amount key = values.amount key ↔
      ∀ z, v.IsWholeReal z → Number.SpellsWhole v.toText z) ∧
    (∀ x, v = .real x → ∀ n : Int64, values.amount key = .ok n ↔ v.IsWholeReal n.toInt) ∧
    (∀ z, v.IsWholeReal z → ∃ w, Number.SpellsWhole v.toText w ∧
      |w - z| * 2 ^ 53 ≤ |z| ∧ (|z| ≤ 2 ^ 53 → w = z) ∧
      written.amount key =
        if Number.IsAmount w then .ok (.ofInt w) else .error (.coercion key v.toText)) := by
  refine ⟨(amount_eq_iff hv hw).trans (RequestValue.toAmount?_toText hrange), ?_, ?_⟩
  · rintro x rfl n
    exact (amount_eq_ok hv).trans (RequestValue.toAmount?_real hrange)
  · intro z hz
    obtain ⟨x, rfl, -⟩ := id hz
    obtain ⟨w, hspells, hnear, hexact⟩ := RequestValue.exists_spellsWhole hz (hrange z hz)
    exact ⟨w, hspells, hnear, hexact, amount_of_spellsWhole hw hspells⟩

/-- The greatest power of two up to which all whole numbers are floating numbers is spelled by its
text. -/
theorem amount_by_text_of_power :
    let x := Float.ofBits 0x4340000000000000
    let values := RequestValues.ofList [("Price", .real x)]
    let written := RequestValues.ofList [("price", .text "9007199254740992")]
    values.amount "price" = .ok 9007199254740992 ∧
      written.amount "price" = values.amount "price" := by
  intro x values written
  have hv : values.get? "price" = some (.real x) := rfl
  have htext : (RequestValue.real x).toText = "9007199254740992" := by decide +kernel
  have hw : written.get? "price" = some (.text (RequestValue.real x).toText) := by
    rw [htext]
    rfl
  have hvalue : (RequestValue.real x).IsWholeReal (2 ^ 53) :=
    RequestValue.isWholeReal_real.mpr (by decide +kernel)
  have hrange : ∀ z, (RequestValue.real x).IsWholeReal z → Number.IsAmount z := fun z hz =>
    hvalue.unique hz ▸ by decide
  obtain ⟨hagree, hread, hwritten⟩ := amount_by_text hv hw hrange
  refine ⟨(hread x rfl _).mpr hvalue, hagree.mpr fun z hz => ?_⟩
  obtain ⟨w, hspells, -, hexact, -⟩ := hwritten z hz
  rwa [hexact (hvalue.unique hz ▸ by decide)] at hspells

/-- A whole number of 63 bits is written as a rounder one. -/
theorem amount_by_text_rounder :
    let x := Float.ofBits 0x43D0000000000000
    let values := RequestValues.ofList [("price", .real x)]
    let written := RequestValues.ofList [("price", .text (RequestValue.real x).toText)]
    values.amount "price" = .ok 4611686018427387904 ∧
      written.amount "price" = .ok 4611686018427388000 := by
  intro x values written
  have hv : values.get? "price" = some (.real x) := rfl
  have hw : written.get? "price" = some (.text (RequestValue.real x).toText) := rfl
  exact ⟨(amount_eq_ok hv).mpr (by decide +kernel), (amount_eq_ok hw).mpr (by decide +kernel)⟩

end RequestValues
end Placard
