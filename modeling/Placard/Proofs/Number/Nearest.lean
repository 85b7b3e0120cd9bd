/-
# The nearest whole number

A number goes to the nearest whole one, and halfway between two of them away from zero.  So above
zero a whole number is reached from a half below it on, and at zero and below only beyond that half
(`le_whole_halfAway`).  What a size and a coordinate come to is cut off at the limits of their
words, which does not matter between them (`le_toSize_halfAway`, `le_nearest`).

A number and the same number moved up by a whole one come to whole numbers that lie at least as far
apart (`nearest_add_le`); they lie further apart where the halves around zero go different ways.
-/
import Placard.Proofs.Number.Value

namespace Placard.Binary

variable {x y : Float} {v : ℚ} {m n k : ℕ} {e z : ℤ} {negative : Bool}

/-- A quotient rounded to the nearest whole number is at least another one just if it is at most a
half below it. -/
theorem le_shiftDown_halfAway {shift : ℕ} :
    n + 1 ≤ shiftDown .halfAway false m shift ↔ (2 * n + 1) * 2 ^ shift ≤ 2 * m := by
  have hpos : 0 < 2 ^ shift := Nat.two_pow_pos shift
  have hdiv := Nat.div_add_mod m (2 ^ shift)
  have hmod := Nat.mod_lt m hpos
  have hdown : shiftDown .halfAway false m shift =
      if 2 ^ shift ≤ 2 * (m % 2 ^ shift) then m / 2 ^ shift + 1 else m / 2 ^ shift := by
    have hrest : m - m / 2 ^ shift * 2 ^ shift = m % 2 ^ shift := by
      rw [Nat.mul_comm]
      omega
    unfold shiftDown
    simp only [Nat.shiftRight_eq_div_pow, Nat.shiftLeft_eq, Nat.one_mul, hrest,
      decide_eq_true_eq]
  rw [hdown]
  generalize m / 2 ^ shift = k at hdiv ⊢
  generalize m % 2 ^ shift = r at hdiv hmod ⊢
  generalize 2 ^ shift = p at hpos hdiv hmod ⊢
  rcases Nat.lt_trichotomy n k with hlt | rfl | hgt
  · -- the whole part is enough
    have hmul : (n + 1) * p ≤ k * p := Nat.mul_le_mul_right p hlt
    refine iff_of_true ?_ (by nlinarith)
    split
    · omega
    · omega
  · -- the rest decides
    have hexp : (2 * n + 1) * p = 2 * (p * n) + p := by ring
    rw [hexp]
    split
    · omega
    · omega
  · have hmul : (k + 1) * p ≤ n * p := Nat.mul_le_mul_right p hgt
    refine iff_of_false ?_ (by nlinarith)
    split
    · omega
    · omega

theorem le_magnitude_halfAway :
    n + 1 ≤ magnitude .halfAway false m e ↔ (n : ℚ) + 1 / 2 ≤ m * 2 ^ e := by
  obtain ⟨p, rfl | rfl⟩ := Int.eq_nat_or_neg e
  · rw [magnitude_natCast, zpow_natCast]
    have hcast : (m : ℚ) * 2 ^ p = (m * 2 ^ p : ℕ) := by push_cast; rfl
    rw [hcast]
    generalize m * 2 ^ p = k
    constructor
    · intro h
      have hk : (n : ℚ) + 1 ≤ k := by exact_mod_cast h
      linarith
    · intro h
      have hk : (n : ℚ) < k := by linarith
      exact_mod_cast hk
  · rw [magnitude_neg_natCast, le_shiftDown_halfAway, zpow_neg, zpow_natCast, ← div_eq_mul_inv,
      le_div_iff₀ (by positivity)]
    rw [show ((n : ℚ) + 1 / 2) * 2 ^ p = (2 * n + 1) * 2 ^ p / 2 by ring, div_le_iff₀ two_pos,
      mul_comm (m : ℚ) 2]
    exact_mod_cast Iff.rfl

theorem le_whole_halfAway : z ≤ whole .halfAway negative m e ↔
    (z : ℚ) - 1 / 2 < (signed negative m : ℤ) * 2 ^ e ∨
      0 < z ∧ (z : ℚ) - 1 / 2 = (signed negative m : ℤ) * 2 ^ e := by
  rw [whole_eq]
  have hv : (0 : ℚ) ≤ m * 2 ^ e := by positivity
  cases negative with
  | false =>
      rw [signed, if_neg Bool.false_ne_true, signed, if_neg Bool.false_ne_true, Int.cast_natCast]
      rcases lt_or_ge 0 z with hz | hz
      · obtain ⟨n, rfl⟩ : ∃ n : ℕ, z = n + 1 := ⟨(z - 1).toNat, by omega⟩
        rw [and_iff_right hz, ← le_iff_lt_or_eq]
        have hhalf : ((n + 1 : ℤ) : ℚ) - 1 / 2 = n + 1 / 2 := by push_cast; ring
        rw [hhalf, ← le_magnitude_halfAway]
        omega
      · have hz' : (z : ℚ) ≤ 0 := by exact_mod_cast hz
        exact iff_of_true (by omega) (.inl (by linarith))
  | true =>
      have hneg : ((-(m : ℤ) : ℤ) : ℚ) * 2 ^ e = -(m * 2 ^ e) := by push_cast; ring
      rw [signed, if_pos rfl, signed, if_pos rfl, hneg]
      rcases lt_or_ge 0 z with hz | hz
      · have hz' : (1 : ℚ) ≤ z := by exact_mod_cast hz
        refine iff_of_false (by omega) ?_
        rintro (h | ⟨-, h⟩)
        · linarith
        · linarith
      · obtain ⟨n, rfl⟩ : ∃ n : ℕ, z = -n := ⟨z.natAbs, by omega⟩
        have hpast : (-n : ℤ) ≤ -(magnitude .halfAway true m e : ℤ) ↔
            ¬ n + 1 ≤ magnitude .halfAway false m e := by
          change _ ≤ -(magnitude .halfAway false m e : ℤ) ↔ _
          omega
        rw [hpast, le_magnitude_halfAway, not_le, or_iff_left fun h => absurd h.1 (by omega)]
        push_cast
        constructor
        · intro h
          linarith
        · intro h
          linarith

/-- A number rounded to the nearest size is at least another size just if it is at most a half below
it. -/
theorem le_toSize_halfAway (hx : (ofFloat x).value? = some v) (h0 : 0 < n) (hn : n < UInt32.size) :
    n ≤ toSize .halfAway x ↔ (n : ℚ) - 1 / 2 ≤ v := by
  have hlt : n < 4294967296 := hn
  unfold toSize
  change n ≤ ((ofFloat x).toInt .halfAway 0 4294967295).toNat ↔ _
  cases hb : ofFloat x with
  | nan => rw [hb] at hx; cases hx
  | infinite negative => rw [hb] at hx; cases hx
  | finite negative m e =>
      rw [hb] at hx
      obtain rfl := Option.some.inj hx
      have hwhole := @le_whole_halfAway m e n negative
      rw [Int.cast_natCast, and_iff_right (by omega), ← le_iff_lt_or_eq] at hwhole
      rw [← hwhole, toInt]
      omega

/-- A number rounded to the nearest coordinate is at least another coordinate just if it is less
than a half below it, or just a half and the coordinate is above zero. -/
theorem le_nearest (hx : (ofFloat x).value? = some v) (hz : z.natAbs < 2 ^ 63) :
    z ≤ (nearest x).toInt ↔ (z : ℚ) - 1 / 2 < v ∨ 0 < z ∧ (z : ℚ) - 1 / 2 = v := by
  cases hb : ofFloat x with
  | nan => rw [hb] at hx; cases hx
  | infinite negative => rw [hb] at hx; cases hx
  | finite negative m e =>
      have hint : (nearest x).toInt =
          max (-2 ^ 63) (min (2 ^ 63 - 1) (whole .halfAway negative m e)) := by
        unfold nearest toCoordinate
        rw [hb]
        exact Int64.toInt_ofInt_of_le (le_max_left _ _) (max_lt (by decide) (by
          exact lt_of_le_of_lt (min_le_left _ _) (by decide)))
      rw [hb] at hx
      obtain rfl := Option.some.inj hx
      rw [← le_whole_halfAway, hint]
      omega

theorem natAbs_nearest_le (hx : (ofFloat x).value? = some v) (hv : |v| ≤ n) (hn : n < 2 ^ 62) :
    (nearest x).toInt.natAbs ≤ n := by
  obtain ⟨hlo, hhi⟩ := abs_le.mp hv
  have hlow : (-n : ℤ) ≤ (nearest x).toInt :=
    (le_nearest hx (by omega)).mpr (.inl (by push_cast; linarith))
  have hhigh : ¬ (n + 1 : ℤ) ≤ (nearest x).toInt := by
    rw [le_nearest hx (by omega)]
    push_cast
    rintro (h | ⟨-, h⟩)
    · linarith
    · linarith
  omega

/-- Two numbers that are a whole number apart come to coordinates that are at least as far apart. -/
theorem nearest_add_le (hx : (ofFloat x).value? = some v) (hy : (ofFloat y).value? = some (v + k))
    (hlo : -2 ^ 62 < (nearest x).toInt) (hhi : (nearest x).toInt + k < 2 ^ 62) :
    (nearest x).toInt + k ≤ (nearest y).toInt := by
  have hself := (le_nearest hx (by omega)).mp (le_refl (nearest x).toInt)
  refine (le_nearest hy (by omega)).mpr ?_
  push_cast
  rcases hself with h | ⟨hpos, h⟩
  · exact .inl (by linarith)
  · exact .inr ⟨by omega, by linarith⟩

end Placard.Binary
