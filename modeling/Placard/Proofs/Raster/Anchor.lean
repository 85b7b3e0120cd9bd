/-
# How exactly an anchored image is placed

An image is anchored by a part of its side that comes to lie on a coordinate.  The part is a floating
number; it is multiplied by the side, which rounds, and cut off to a whole number, which forgets a
half.  Here it is said how far such a product is from the exact one.

A number of the format has 53 bits, so rounding moves a number of at most `2 ^ k` by at most
`2 ^ (k - 52)` (`Rounds.near`).  Cutting off then gives the whole number that was meant, or the one
beside it that is nearer to zero (`truncated_beside`), and not always the former: a margin of one
column, divided by a width of 49 columns and multiplied by it again, is less than one column.
-/
import Mathlib.Data.Rat.Floor
import Placard.Proofs.Raster.Offset

namespace Placard
open Binary

variable {x y : Float} {q v w : ℚ} {n : ℕ} {z : ℤ}

namespace Binary

/-! ## How far rounding moves a number -/

theorem IsDouble.of_grid {k : ℤ} (hlo : -1022 ≤ k) (hhi : k ≤ 1023) (hz : z.natAbs < 2 ^ 53) :
    IsDouble (z * 2 ^ (k - 52)) :=
  ⟨z, k - 52, hz, by omega, by omega, rfl⟩

/-- A number lies between two neighbours of a grid, and no further out than its bound. -/
theorem exists_neighbours {u : ℚ} {m : ℤ} (hu : 0 < u) (hq : |q| ≤ m * u) :
    ∃ z : ℤ, -m ≤ z ∧ z ≤ m ∧ (z : ℚ) * u ≤ q ∧ q ≤ ((z + 1 : ℤ) : ℚ) * u := by
  obtain ⟨hge, hle⟩ := abs_le.mp hq
  refine ⟨⌊q / u⌋, ?_, ?_, (le_div_iff₀ hu).mp (Int.floor_le _), ?_⟩
  · rw [Int.le_floor, le_div_iff₀ hu]
    push_cast
    linarith
  · have hdiv : q / u ≤ m := (div_le_iff₀ hu).mpr hle
    exact_mod_cast (Int.floor_le _).trans hdiv
  · rw [← div_le_iff₀ hu]
    push_cast
    exact (Int.lt_floor_add_one _).le

/-- A number of at most `2 ^ k` lies between two numbers of the format that are `2 ^ (k - 52)` apart,
and so does what it is rounded to. -/
theorem Rounds.near {b : Binary} {k : ℤ} (h : Rounds q b) (hlo : -1022 ≤ k) (hhi : k ≤ 1023)
    (hq : |q| ≤ 2 ^ k) : ∃ v, b.value? = some v ∧ |v - q| ≤ 2 ^ (k - 52) := by
  have hpow : (2 : ℚ) ^ k = (2 ^ 52 : ℤ) * 2 ^ (k - 52) := by
    rw [Int.cast_pow, Int.cast_ofNat, ← zpow_natCast, ← zpow_add₀ two_ne_zero]
    congr 1
    omega
  rw [hpow] at hq
  obtain ⟨z, hmin, hmax, hfloor, hceil⟩ := exists_neighbours (by positivity) hq
  obtain ⟨v, hv, hlow, hhigh⟩ := h.between (IsDouble.of_grid hlo hhi (by omega))
    (IsDouble.of_grid hlo hhi (by omega)) hfloor hceil
  refine ⟨v, hv, ?_⟩
  push_cast at hceil hhigh
  rw [abs_le]
  constructor
  · linarith
  · linarith

/-- Rounding moves a part of a whole number by little of that number. -/
theorem Rounds.near_part {b : Binary} {k : ℕ} (h : Rounds q b) (hn : 0 < n) (hlt : n < UInt32.size)
    (hk : k ≤ 1000) (hq : |q * n| ≤ 2 ^ k) :
    ∃ v, b.value? = some v ∧ |v * n - q * n| ≤ 2 ^ k / 2 ^ 51 := by
  have hlog : n.log2 < 32 := (Nat.log2_lt hn.ne').mpr hlt
  have hle : (2 : ℚ) ^ n.log2 ≤ n := by exact_mod_cast Nat.log2_self_le hn.ne'
  have hge : (n : ℚ) ≤ 2 ^ (n.log2 + 1) := by exact_mod_cast Nat.lt_log2_self.le
  have hbits : |q| ≤ 2 ^ ((k : ℤ) - n.log2) := by
    rw [zpow_sub₀ two_ne_zero, zpow_natCast, zpow_natCast, le_div_iff₀ (by positivity)]
    calc |q| * 2 ^ n.log2 ≤ |q| * n := mul_le_mul_of_nonneg_left hle (abs_nonneg q)
      _ = |q * n| := by rw [abs_mul, Nat.abs_cast]
      _ ≤ 2 ^ k := hq
  obtain ⟨v, hv, hnear⟩ := h.near (by omega) (by omega) hbits
  refine ⟨v, hv, ?_⟩
  rw [← sub_mul, abs_mul, Nat.abs_cast]
  calc |v - q| * n ≤ 2 ^ ((k : ℤ) - n.log2 - 52) * 2 ^ (n.log2 + 1) :=
        mul_le_mul hnear hge (by positivity) (by positivity)
    _ = 2 ^ k / 2 ^ 51 := by
        rw [← zpow_natCast, ← zpow_natCast 2 51, ← zpow_natCast 2 k, ← zpow_add₀ two_ne_zero,
          ← zpow_sub₀ two_ne_zero]
        congr 1
        push_cast
        ring

theorem isDouble_intCast (h : z.natAbs < 2 ^ 53) : IsDouble z :=
  ⟨z, 0, h, by decide, by decide, by simp⟩

end Binary

theorem abs_intCast_le {m : ℕ} (h : z.natAbs ≤ m) : |(z : ℚ)| ≤ m := by
  rw [← Int.cast_abs, Int.abs_eq_natAbs, Int.cast_natCast]
  exact_mod_cast h

/-! ## Cutting off -/

/-- A number near enough to zero is cut off to a whole number, and to no end of the range. -/
theorem toInt_truncated {negative : Bool} {m : ℕ} {e : ℤ} (h : ofFloat x = .finite negative m e)
    (hn : (m : ℚ) * 2 ^ e ≤ n) (hlt : n < 2 ^ 63) :
    (truncated x).toInt = signed negative (magnitude .towardZero negative m e) := by
  have hmag : magnitude .towardZero negative m e ≤ n := magnitude_le hn
  have hsigned : (signed negative (magnitude .towardZero negative m e)).natAbs < 2 ^ 63 := by
    cases negative with
    | false => exact hmag.trans_lt hlt
    | true => exact (Int.natAbs_neg _).trans_lt (hmag.trans_lt hlt)
  have hint : (ofFloat x).toInt .towardZero coordinateMin coordinateMax =
      signed negative (magnitude .towardZero negative m e) := by
    rw [h]
    change max (-2 ^ 63) (min (2 ^ 63 - 1) (whole .towardZero negative m e)) = _
    rw [whole_eq]
    omega
  unfold truncated toCoordinate
  rw [hint]
  exact toInt_ofInt_of_natAbs_lt hsigned

/-- A number is cut off to the next whole number towards zero. -/
theorem truncated_cases (h : (ofFloat x).value? = some v) (hn : |v| ≤ n) (hlt : n < 2 ^ 63) :
    0 ≤ v ∧ ((truncated x).toInt : ℚ) ≤ v ∧ v < (truncated x).toInt + 1 ∨
      v ≤ 0 ∧ v ≤ (truncated x).toInt ∧ ((truncated x).toInt : ℚ) - 1 < v := by
  cases hb : ofFloat x with
  | nan => rw [hb] at h; cases h
  | infinite negative => rw [hb] at h; cases h
  | finite negative m e =>
      rw [hb] at h
      obtain rfl := Option.some.inj h
      have hpos : (0 : ℚ) ≤ m * 2 ^ e := by positivity
      have hle : (magnitude .towardZero negative m e : ℚ) ≤ m * 2 ^ e :=
        magnitude_le_self (.inl rfl)
      have hgt : (m : ℚ) * 2 ^ e < magnitude .towardZero negative m e + 1 := by
        refine not_le.mp fun hge => Nat.lt_irrefl (magnitude .towardZero negative m e) ?_
        exact le_magnitude (by exact_mod_cast hge)
      cases negative with
      | false =>
          rw [signed, if_neg Bool.false_ne_true, Int.cast_natCast] at hn ⊢
          rw [abs_of_nonneg hpos] at hn
          rw [toInt_truncated hb hn hlt, signed, if_neg Bool.false_ne_true, Int.cast_natCast]
          exact .inl ⟨hpos, hle, hgt⟩
      | true =>
          rw [signed, if_pos rfl, Int.cast_neg, Int.cast_natCast, neg_mul] at hn ⊢
          rw [abs_neg, abs_of_nonneg hpos] at hn
          rw [toInt_truncated hb hn hlt, signed, if_pos rfl, Int.cast_neg, Int.cast_natCast]
          exact .inr ⟨by linarith, by linarith, by linarith⟩

/-- A number that is less than one away from a whole number is cut off to it, or to the one beside it
that is nearer to zero. -/
theorem truncated_beside (h : (ofFloat x).value? = some v) (hz : z.natAbs < 2 ^ 62)
    (hv : |v - z| < 1) : (truncated x).toInt = z ∨ (truncated x).toInt = z - z.sign := by
  obtain ⟨hlow, hhigh⟩ := abs_lt.mp hv
  have habs : |(z : ℚ)| ≤ 2 ^ 62 := by exact_mod_cast abs_intCast_le hz.le
  have hn : |v| ≤ (2 ^ 62 + 1 : ℕ) := by
    obtain ⟨hzlo, hzhi⟩ := abs_le.mp habs
    rw [abs_le]
    push_cast
    exact ⟨by linarith, by linarith⟩
  have hcases := truncated_cases h hn (by decide)
  generalize (truncated x).toInt = t at hcases
  -- compare the two whole numbers
  rcases hcases with ⟨hpos, hle, hlt⟩ | ⟨hneg, hle, hlt⟩
  · have hz0 : -1 < z := by exact_mod_cast (show (-1 : ℚ) < z by linarith)
    have htz : t < z + 1 := by exact_mod_cast (show (t : ℚ) < z + 1 by linarith)
    have hzt : z < t + 2 := by exact_mod_cast (show (z : ℚ) < t + 2 by linarith)
    have ht0 : -1 < t := by exact_mod_cast (show (-1 : ℚ) < t by linarith)
    rcases Int.lt_trichotomy z 0 with hs | rfl | hs
    · omega
    · exact .inl (by omega)
    · rw [Int.sign_eq_one_of_pos hs]
      omega
  · have hz0 : z < 1 := by exact_mod_cast (show (z : ℚ) < 1 by linarith)
    have htz : z - 1 < t := by exact_mod_cast (show (z : ℚ) - 1 < t by linarith)
    have hzt : t < z + 2 := by exact_mod_cast (show (t : ℚ) < z + 2 by linarith)
    have ht0 : t < 1 := by exact_mod_cast (show (t : ℚ) < 1 by linarith)
    rcases Int.lt_trichotomy z 0 with hs | rfl | hs
    · rw [Int.sign_eq_neg_one_of_neg hs]
      omega
    · exact .inl (by omega)
    · omega

theorem truncated_intCast (h : (ofFloat x).value? = some (z : ℚ)) (hz : z.natAbs < 2 ^ 62) :
    (truncated x).toInt = z := by
  have hrange : max coordinateMin (min coordinateMax z) = z := by
    change max (-2 ^ 63) (min (2 ^ 63 - 1) z) = z
    omega
  rw [truncated, toCoordinate, toInt_of_value? h, hrange]
  exact toInt_ofInt_of_natAbs_lt (by omega)

/-! ## Parts of a side -/

theorem extent_part_value? {a : ℚ} (h : (ofFloat x).value? = some a) (hn : n < UInt32.size)
    (hd : IsDouble (a * n)) : (ofFloat (x * extent n)).value? = some (a * n) :=
  (mul_rounds h (extent_value? (hn.trans (by decide)))).value?_eq hd

/-- A part that is a whole number of columns but for a small error comes to that number, or to the one
beside it that is nearer to zero. -/
theorem truncated_part_beside {a : ℚ} (h : (ofFloat x).value? = some a) (hn : n < UInt32.size)
    (hz : z.natAbs ≤ 2 ^ 49) (ha : |a * n - z| ≤ 3 / 8) :
    (truncated (x * extent n)).toInt = z ∨ (truncated (x * extent n)).toInt = z - z.sign := by
  have hzabs : |(z : ℚ)| ≤ 2 ^ 49 := by exact_mod_cast abs_intCast_le hz
  have hprod : |a * n| ≤ 2 ^ (50 : ℤ) := by
    calc |a * n| = |(a * n - z) + z| := by rw [sub_add_cancel]
      _ ≤ 3 / 8 + 2 ^ 49 := (abs_add_le _ _).trans (add_le_add ha hzabs)
      _ ≤ 2 ^ (50 : ℤ) := by norm_num
  obtain ⟨v, hv, hnear⟩ :=
    (mul_rounds h (extent_value? (hn.trans (by decide)))).near (by decide) (by decide) hprod
  refine truncated_beside hv (hz.trans_lt (by decide)) ?_
  calc |v - z| ≤ |v - a * n| + |a * n - z| := abs_sub_le _ _ _
    _ ≤ 2 ^ ((50 : ℤ) - 52) + 3 / 8 := add_le_add hnear ha
    _ < 1 := by norm_num

theorem ofCoordinate_value? {c : Int64} (h : Within (2 ^ 52) c) :
    (ofFloat (ofCoordinate c)).value? = some (c.toInt : ℚ) :=
  ofCoordinate_rounds.value?_eq (isDouble_intCast (Nat.lt_of_le_of_lt h (by decide)))

variable {c d : Int64}

theorem margin_rounds (hc : Within (2 ^ 48) c) (hd : d.toInt = n) (h0 : 0 < n)
    (hn : n < UInt32.size) : Rounds (c.toInt / n) (ofFloat (ofCoordinate c / ofCoordinate d)) := by
  have hsize : UInt32.size = 4294967296 := rfl
  have hd52 : Within (2 ^ 52) d := by
    unfold Within
    omega
  have hr := div_rounds (ofCoordinate_value? (hc.mono (by decide))) (ofCoordinate_value? hd52) (by
    rw [hd]
    exact_mod_cast h0.ne')
  rwa [hd, Int.cast_natCast] at hr

/-- A margin in widths, multiplied by the width again, is nearly the margin. -/
theorem margin_near (hc : Within (2 ^ 48) c) (hd : d.toInt = n) (h0 : 0 < n)
    (hn : n < UInt32.size) : ∃ a, (ofFloat (ofCoordinate c / ofCoordinate d)).value? = some a ∧
      |a * n - c.toInt| ≤ 1 / 8 := by
  have hn0 : (n : ℚ) ≠ 0 := by exact_mod_cast h0.ne'
  have hcabs : |(c.toInt : ℚ)| ≤ 2 ^ 48 := by exact_mod_cast abs_intCast_le hc
  obtain ⟨a, ha, hnear⟩ := (margin_rounds hc hd h0 hn).near_part (k := 48) h0 hn (by decide)
    (by rwa [div_mul_cancel₀ _ hn0])
  rw [div_mul_cancel₀ _ hn0] at hnear
  exact ⟨a, ha, hnear.trans (by norm_num)⟩

/-- The rest of a width is nearly what is left of it. -/
theorem rest_near (hc : Within (2 ^ 48) c) (hd : d.toInt = n) (h0 : 0 < n) (hn : n < UInt32.size) :
    ∃ a, (ofFloat (1 - ofCoordinate c / ofCoordinate d)).value? = some a ∧
      |a * n - (n - c.toInt : ℤ)| ≤ 3 / 8 := by
  have hone : (ofFloat 1).value? = some 1 := by decide +kernel
  have hcabs : |(c.toInt : ℚ)| ≤ 2 ^ 48 := by exact_mod_cast abs_intCast_le hc
  have hnle : (n : ℚ) ≤ 2 ^ 32 := by exact_mod_cast hn.le
  have hn0 : (0 : ℚ) ≤ n := by positivity
  obtain ⟨a, ha, hnear⟩ := margin_near hc hd h0 hn
  obtain ⟨hlo, hhi⟩ := abs_le.mp hnear
  obtain ⟨hclo, hchi⟩ := abs_le.mp hcabs
  obtain ⟨b, hb, hrest⟩ := (sub_rounds hone ha).near_part (k := 49) h0 hn (by decide) (by
    rw [sub_mul, one_mul, abs_le]
    constructor
    · linarith
    · linarith)
  refine ⟨b, hb, ?_⟩
  rw [sub_mul, one_mul] at hrest
  calc |b * n - (n - c.toInt : ℤ)| = |(b * n - (n - a * n)) - (a * n - c.toInt)| := by
        push_cast
        congr 1
        ring
    _ ≤ 2 ^ 49 / 2 ^ 51 + 1 / 8 := (abs_sub _ _).trans (add_le_add hrest hnear)
    _ = 3 / 8 := by norm_num

theorem margin_value? (hc : Within (2 ^ 48) c) (hd : d.toInt = n) (h0 : 0 < n)
    (hn : n < UInt32.size) (hz : c.toInt = z * n) :
    (ofFloat (ofCoordinate c / ofCoordinate d)).value? = some (z : ℚ) := by
  have hr := margin_rounds hc hd h0 hn
  have hn0 : (n : ℚ) ≠ 0 := by exact_mod_cast h0.ne'
  have hzle : z.natAbs ≤ c.toInt.natAbs := by
    rw [hz, Int.natAbs_mul, Int.natAbs_natCast]
    exact Nat.le_mul_of_pos_right _ h0
  rw [hz, Int.cast_mul, Int.cast_natCast, mul_div_cancel_right₀ _ hn0] at hr
  exact hr.value?_eq (isDouble_intCast (hzle.trans_lt (Nat.lt_of_le_of_lt hc (by decide))))

theorem rest_value? (h : (ofFloat x).value? = some (z : ℚ)) (hz : z.natAbs ≤ 2 ^ 48) :
    (ofFloat (1 - x)).value? = some ((1 - z : ℤ) : ℚ) := by
  have hone : (ofFloat 1).value? = some 1 := by decide +kernel
  have hsub : (1 : ℚ) - z = (1 - z : ℤ) := by push_cast; rfl
  exact (hsub ▸ sub_rounds hone h).value?_eq (isDouble_intCast (by omega))

theorem truncated_part_intCast (h : (ofFloat x).value? = some (z : ℚ)) (hn : n < UInt32.size)
    (hz : (z * n).natAbs < 2 ^ 53) : (truncated (x * extent n)).toInt = z * n := by
  have hcast : (z : ℚ) * n = (z * n : ℤ) := by push_cast; rfl
  have hv := extent_part_value? h hn (hcast ▸ isDouble_intCast hz)
  exact truncated_intCast (hcast ▸ hv) (hz.trans (by decide))

/-- Half of a side is cut off to half of it, a half pixel going down. -/
theorem truncated_half (hn : n < UInt32.size) : (truncated (0.5 * extent n)).toInt = n / 2 := by
  have hsize : UInt32.size = 4294967296 := rfl
  have hhalf : (ofFloat 0.5).value? = some (1 / 2) := by decide +kernel
  have hv := extent_part_value? hhalf hn ⟨n, -1, by omega, by decide, by decide, by
    rw [zpow_neg_one, Int.cast_natCast]
    ring⟩
  have hpos : (0 : ℚ) ≤ 1 / 2 * n := by positivity
  have hcases := truncated_cases (n := n) hv (by rw [abs_of_nonneg hpos]; linarith) (by omega)
  generalize (truncated (0.5 * extent n)).toInt = t at hcases
  rcases hcases with ⟨-, hle, hlt⟩ | ⟨hneg, hle, hlt⟩
  · have h₁ : 2 * t ≤ n := by exact_mod_cast (show (2 : ℚ) * t ≤ n by linarith)
    have h₂ : (n : ℤ) < 2 * t + 2 := by exact_mod_cast (show (n : ℚ) < 2 * t + 2 by linarith)
    omega
  · -- then there is no side
    have h₀ : (n : ℤ) ≤ 0 := by exact_mod_cast (show (n : ℚ) ≤ 0 by linarith)
    have h₁ : 0 ≤ t := by exact_mod_cast (show (0 : ℚ) ≤ t by linarith)
    have h₂ : t < 1 := by exact_mod_cast (show (t : ℚ) < 1 by linarith)
    omega

end Placard
