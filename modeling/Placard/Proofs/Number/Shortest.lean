/-
# How near a written number is

A floating number is written by one of the decimals that are read back as it, the first that the
search comes upon.  All of these lie in an interval around the number that reaches half of its last
place to either side (`Interval.near_of_holds`).

That settles whether the decimal has a fraction.  A number with a fraction has its last place after
the point, and no whole number is as near (`shortest_of_fraction`).  A whole number of 64 bits is on
the grid of whole numbers itself, so the search goes no further (`shortest_of_whole`).  What is
written for it is a whole number then, but not always the same: if its last place is worth two or
more, there may be a rounder one in the interval (`shortest_near`).
-/
import Placard.Number.Shortest
import Placard.Proofs.Number
import Placard.Proofs.Number.Value

namespace Placard.Decimal
open Binary

variable {x : Float} {negative : Bool} {m n fuel num den p t : ℕ} {e k : ℤ} {i : Interval}
  {d : Decimal} {c : Char}

/-! ## Powers of ten -/

theorem powerOfTen_pos : 0 < powerOfTen k := Nat.pow_pos (by decide)

theorem powerOfTen_natCast : powerOfTen (n : ℤ) = 10 ^ n := rfl

theorem powerOfTen_neg_natCast : powerOfTen (-(n : ℤ)) = 1 := by
  rw [powerOfTen, Int.toNat_neg_natCast, Nat.pow_eq, Nat.pow_zero]

/-- A power of ten is the quotient of two of which one is one. -/
theorem zpow_mul_powerOfTen : (10 : ℚ) ^ k * powerOfTen (-k) = powerOfTen k := by
  obtain ⟨n, rfl | rfl⟩ := Int.eq_nat_or_neg k
  · rw [powerOfTen_neg_natCast, powerOfTen_natCast]
    simp
  · rw [neg_neg, powerOfTen_neg_natCast, powerOfTen_natCast, zpow_neg, zpow_natCast]
    simp

/-! ## What is read back -/

/-- The number that a decimal stands for. -/
def worth (d : Decimal) : ℚ := d.digits * 10 ^ d.power

theorem Interval.of_value : (Interval.of double m e).value = 4 * m := rfl

theorem Interval.of_den_pos : 0 < (Interval.of double m e).den := by
  change 0 < 1 <<< (2 - e).toNat
  rw [Nat.one_shiftLeft]
  exact Nat.two_pow_pos _

theorem Interval.of_num_pos : 0 < (Interval.of double m e).num := by
  change 0 < 1 <<< (e - 2).toNat
  rw [Nat.one_shiftLeft]
  exact Nat.two_pow_pos _

theorem Interval.of_unit : (2 : ℚ) ^ e * (Interval.of double m e).den =
    4 * (Interval.of double m e).num := by
  change (2 : ℚ) ^ e * ((1 <<< (2 - e).toNat : ℕ) : ℚ) = 4 * ((1 <<< (e - 2).toNat : ℕ) : ℚ)
  have hsplit : (2 : ℚ) ^ e = 4 * 2 ^ (e - 2) := by
    rw [zpow_sub₀ two_ne_zero]
    norm_num
    ring
  rw [hsplit, Nat.one_shiftLeft, Nat.one_shiftLeft, mul_assoc]
  congr 1
  obtain ⟨p, hp | hp⟩ := Int.eq_nat_or_neg (e - 2)
  · rw [hp, show 2 - e = -(p : ℤ) by omega]
    simp
  · rw [hp, show 2 - e = p by omega]
    simp

theorem Interval.of_ends : 4 * m ≤ (Interval.of double m e).low + 2 ∧
    (Interval.of double m e).high = 4 * m + 2 := by
  refine ⟨?_, rfl⟩
  unfold Interval.of
  dsimp only
  split <;> omega

theorem Interval.le_of_holds (h : i.holds n k = true) :
    i.low * (i.num * powerOfTen (-k)) ≤ n * powerOfTen k * i.den ∧
      n * powerOfTen k * i.den ≤ i.high * (i.num * powerOfTen (-k)) := by
  unfold Interval.holds at h
  dsimp only at h
  split at h
  · simpa using h
  · rw [Bool.and_eq_true, decide_eq_true_eq, decide_eq_true_eq] at h
    exact ⟨h.1.le, h.2.le⟩

/-- A decimal in the interval is no further from the number than half of its last place. -/
theorem Interval.near_of_holds (h : (Interval.of double m e).holds n k = true) :
    |worth ⟨n, k⟩ - m * 2 ^ e| ≤ 2 ^ e / 2 := by
  obtain ⟨hlow, hhigh⟩ := Interval.le_of_holds h
  obtain ⟨hends, hend⟩ := Interval.of_ends (m := m) (e := e)
  have hunit := Interval.of_unit (m := m) (e := e)
  have hden : (0 : ℚ) < (Interval.of double m e).den := by exact_mod_cast Interval.of_den_pos
  rw [hend] at hhigh
  generalize (Interval.of double m e).low = low at *
  generalize (Interval.of double m e).num = num at *
  generalize (Interval.of double m e).den = den at *
  have hten : (0 : ℚ) < powerOfTen (-k) := by exact_mod_cast powerOfTen_pos
  have hscale : (0 : ℚ) < powerOfTen (-k) * den := mul_pos hten hden
  have hpoint : (n : ℚ) * powerOfTen k * den = worth ⟨n, k⟩ * (powerOfTen (-k) * den) := by
    rw [worth, ← zpow_mul_powerOfTen (k := k)]
    ring
  have hplace : ∀ q : ℚ, q * (num * powerOfTen (-k)) = q / 4 * 2 ^ e * (powerOfTen (-k) * den) := by
    intro q
    rw [show (num : ℚ) = 2 ^ e * den / 4 by rw [hunit]; ring]
    ring
  have hlow' : ((4 * m - 2 : ℚ)) / 4 * 2 ^ e ≤ worth ⟨n, k⟩ := by
    refine le_of_mul_le_mul_right ?_ hscale
    rw [← hplace, ← hpoint]
    have hcast : (low : ℚ) * (num * powerOfTen (-k)) ≤ n * powerOfTen k * den := by
      exact_mod_cast hlow
    refine le_trans (mul_le_mul_of_nonneg_right ?_ (by positivity)) hcast
    have : (4 * m : ℚ) ≤ low + 2 := by exact_mod_cast hends
    linarith
  have hhigh' : worth ⟨n, k⟩ ≤ ((4 * m + 2 : ℚ)) / 4 * 2 ^ e := by
    refine le_of_mul_le_mul_right ?_ hscale
    rw [← hplace, ← hpoint]
    exact_mod_cast hhigh
  rw [abs_le]
  constructor <;> linarith

/-! ## The search -/

theorem Interval.holds_of_onGrid (h : i.onGrid k = some n) : i.holds n k = true := by
  unfold Interval.onGrid at h
  dsimp only at h
  split at h
  · rename_i hbelow habove
    cases h
    split
    · exact habove
    · exact hbelow
  · rename_i hbelow _
    cases h
    exact hbelow
  · rename_i _ habove
    cases h
    exact habove
  · cases h

theorem Interval.isSome_onGrid_zero (hlow : i.low < i.value) (hhigh : i.value < i.high)
    (hnum : 0 < i.num) (hdiv : i.den ∣ i.value * i.num) : (i.onGrid 0).isSome = true := by
  have hone : powerOfTen 0 = 1 := rfl
  have hexact : i.value * i.num / i.den * i.den = i.value * i.num := Nat.div_mul_cancel hdiv
  have hbelow : i.holds (i.value * i.num / i.den) 0 = true := by
    unfold Interval.holds
    dsimp only
    rw [Int.neg_zero, hone, Nat.mul_one, Nat.mul_one, hexact]
    have h₁ : i.low * i.num < i.value * i.num := Nat.mul_lt_mul_of_pos_right hlow hnum
    have h₂ : i.value * i.num < i.high * i.num := Nat.mul_lt_mul_of_pos_right hhigh hnum
    split
    · rw [decide_eq_true h₁.le, decide_eq_true h₂.le]
      rfl
    · rw [decide_eq_true h₁, decide_eq_true h₂]
      rfl
  unfold Interval.onGrid
  dsimp only
  rw [Int.neg_zero, hone, Nat.mul_one, Nat.mul_one, hbelow]
  cases i.holds (i.value * i.num / i.den + 1) 0 with
  | true => rfl
  | false => rfl

/-- What is found is in the interval, or else it is the number cut off, on a grid that is finer by
the number of steps taken. -/
theorem Interval.search_cases (i : Interval) (fuel : ℕ) (k : ℤ) :
    i.holds (i.search fuel k).digits (i.search fuel k).power = true ∨
      i.search fuel k = ⟨i.value * i.num / i.den, k - fuel⟩ := by
  induction fuel generalizing k with
  | zero =>
      refine Or.inr ?_
      rw [Interval.search, Nat.cast_zero, Int.sub_zero]
  | succ fuel ih =>
      rw [Interval.search]
      cases hgrid : i.onGrid k with
      | some n => exact Or.inl (Interval.holds_of_onGrid hgrid)
      | none =>
          have hstep := ih (k - 1)
          rwa [show k - 1 - (fuel : ℤ) = k - ((fuel + 1 : ℕ) : ℤ) by omega] at hstep

/-- The search goes no further than the whole numbers if it gets there and the number is one. -/
theorem Interval.search_power_nonneg (hgrid : (i.onGrid 0).isSome = true) (hk : 0 ≤ k)
    (hfuel : k ≤ fuel) : 0 ≤ (i.search fuel k).power := by
  induction fuel generalizing k with
  | zero => exact hk
  | succ fuel ih =>
      rw [Interval.search]
      cases hfound : i.onGrid k with
      | some n => exact hk
      | none =>
          have hne : k ≠ 0 := by
            rintro rfl
            rw [hfound] at hgrid
            cases hgrid
          exact ih (by omega) (by omega)

/-! ## Where it begins -/

/-- The number is at least `10 ^ k`. -/
def Reaches (num den : ℕ) (k : ℤ) : Prop := powerOfTen k * den ≤ num * powerOfTen (-k)

theorem reaches_natCast : Reaches num den n ↔ 10 ^ n * den ≤ num := by
  rw [Reaches, powerOfTen_neg_natCast, powerOfTen_natCast, Nat.mul_one]

/-- The magnitude is the guess or near it: one that is reached, or the first below those that are
not. -/
theorem magnitude_cases (num den : ℕ) : ∃ guess : ℤ,
    guess = ((num.log2 : ℤ) - (den.log2 : ℤ)) * 1233 / 4096 ∧
    (magnitude num den = guess + 1 ∧ Reaches num den (magnitude num den) ∨
      magnitude num den = guess ∧ Reaches num den (magnitude num den) ∨
      magnitude num den = guess - 1 ∧ Reaches num den (magnitude num den) ∧
        ¬ Reaches num den guess ∨
      magnitude num den = guess - 2 ∧ ¬ Reaches num den guess ∧ ¬ Reaches num den (guess - 1)) := by
  refine ⟨_, rfl, ?_⟩
  unfold magnitude
  dsimp only
  rw [Int.fdiv_eq_ediv_of_nonneg _ (by decide)]
  generalize ((num.log2 : ℤ) - (den.log2 : ℤ)) * 1233 / 4096 = guess
  by_cases h₁ : powerOfTen (guess + 1) * den ≤ num * powerOfTen (-(guess + 1))
  · rw [if_pos (decide_eq_true h₁)]
    exact Or.inl ⟨rfl, h₁⟩
  · rw [if_neg (by simpa using h₁)]
    by_cases h₂ : powerOfTen guess * den ≤ num * powerOfTen (-guess)
    · rw [if_pos (decide_eq_true h₂)]
      exact Or.inr (Or.inl ⟨rfl, h₂⟩)
    · rw [if_neg (by simpa using h₂)]
      by_cases h₃ : powerOfTen (guess - 1) * den ≤ num * powerOfTen (-(guess - 1))
      · rw [if_pos (decide_eq_true h₃)]
        exact Or.inr (Or.inr (Or.inl ⟨rfl, h₃, h₂⟩))
      · rw [if_neg (by simpa using h₃)]
        exact Or.inr (Or.inr (Or.inr ⟨rfl, h₂, h₃⟩))

/-- The search begins no higher than the number reaches. -/
theorem magnitude_le (hlog : num.log2 ≤ t + den.log2) (ht : t * 1233 / 4096 ≤ p + 2)
    (hlt : num < 10 ^ (p + 1) * den) : magnitude num den ≤ p := by
  have hreach : ∀ {k : ℤ}, Reaches num den k → k ≤ p := by
    intro k h
    by_contra hgt
    obtain ⟨n, rfl⟩ := Int.eq_ofNat_of_zero_le (show 0 ≤ k by omega)
    rw [reaches_natCast] at h
    have hpow : 10 ^ (p + 1) * den ≤ 10 ^ n * den :=
      Nat.mul_le_mul_right _ (Nat.pow_le_pow_right (by decide) (by omega))
    omega
  obtain ⟨guess, hguess, ⟨-, h⟩ | ⟨-, h⟩ | ⟨-, h, -⟩ | ⟨h, -, -⟩⟩ :=
    magnitude_cases num den
  · exact hreach h
  · exact hreach h
  · exact hreach h
  · omega

theorem magnitude_nonneg (hden : 0 < den) (hle : den ≤ num) : 0 ≤ magnitude num den := by
  have hzero : Reaches num den 0 := reaches_natCast.mpr (by simpa using hle)
  have hlog : den.log2 ≤ num.log2 :=
    (Nat.le_log2 (by omega)).mpr ((Nat.log2_self_le hden.ne').trans hle)
  obtain ⟨guess, hguess, ⟨h, -⟩ | ⟨h, -⟩ | ⟨h, -, hnot⟩ | ⟨h, hnot, hnot'⟩⟩ :=
    magnitude_cases num den
  · omega
  · omega
  · have hne : guess ≠ 0 := fun h0 => hnot (h0 ▸ hzero)
    omega
  · have hne : guess ≠ 0 := fun h0 => hnot (h0 ▸ hzero)
    have hne' : guess - 1 ≠ 0 := fun h0 => hnot' (h0 ▸ hzero)
    omega

/-! ## Zeros at the end -/

/-- Zeros are left out without changing what the decimal stands for, and no more of them than steps
are made. -/
theorem trimZeros_spec (fuel : ℕ) (d : Decimal) : worth (trimZeros fuel d) = worth d ∧
    d.power ≤ (trimZeros fuel d).power ∧ (trimZeros fuel d).power ≤ d.power + fuel := by
  induction fuel generalizing d with
  | zero =>
      rw [trimZeros, Nat.cast_zero, Int.add_zero]
      exact ⟨rfl, le_rfl, le_rfl⟩
  | succ fuel ih =>
      rw [trimZeros]
      split
      · rename_i hzero
        obtain ⟨hworth, hle, hge⟩ := ih ⟨d.digits / 10, d.power + 1⟩
        refine ⟨hworth.trans ?_, ?_, ?_⟩
        · have hdigits : (d.digits : ℚ) = (d.digits / 10 : ℕ) * 10 := by
            exact_mod_cast (Nat.div_mul_cancel (Nat.dvd_of_mod_eq_zero hzero.2)).symm
          rw [worth, worth, hdigits, zpow_add₀ (by decide), zpow_one]
          ring
        · change d.power + 1 ≤ _ at hle
          omega
        · change _ ≤ d.power + 1 + fuel at hge
          omega
      · exact ⟨rfl, le_rfl, by omega⟩

/-! ## Whole numbers and fractions -/

variable (m e) in
theorem Interval.of_value_mul :
    (((Interval.of double m e).value * (Interval.of double m e).num : ℕ) : ℚ) =
      m * 2 ^ e * (Interval.of double m e).den := by
  rw [mul_assoc, Interval.of_unit, Interval.of_value]
  push_cast
  ring

theorem Interval.of_value_mul_eq (h : (m : ℚ) * 2 ^ e = n) :
    (Interval.of double m e).value * (Interval.of double m e).num =
      n * (Interval.of double m e).den := by
  have hvalue := Interval.of_value_mul m e
  rw [h] at hvalue
  exact_mod_cast hvalue

theorem Interval.of_value_mul_le (h : (m : ℚ) * 2 ^ e ≤ n) :
    (Interval.of double m e).value * (Interval.of double m e).num ≤
      n * (Interval.of double m e).den := by
  have hvalue := Interval.of_value_mul m e
  have hle := mul_le_mul_of_nonneg_right h (Nat.cast_nonneg (Interval.of double m e).den)
  rw [← hvalue] at hle
  exact_mod_cast hle

variable (m e) in
/-- The grid on which the search for a number begins. -/
def start : ℤ := magnitude ((Interval.of double m e).value * (Interval.of double m e).num)
  (Interval.of double m e).den

theorem start_le (h : (m : ℚ) * 2 ^ e ≤ 2 ^ t) (ht : t * 1233 / 4096 ≤ p + 2)
    (hp : 2 ^ t < 10 ^ (p + 1)) : start m e ≤ p := by
  have hden := Interval.of_den_pos (e := e) (m := m)
  have hle : (Interval.of double m e).value * (Interval.of double m e).num ≤
      2 ^ t * (Interval.of double m e).den := Interval.of_value_mul_le (by exact_mod_cast h)
  have hbits : (Interval.of double m e).den = 2 ^ (2 - e).toNat := Nat.one_shiftLeft _
  refine magnitude_le ?_ ht (hle.trans_lt (Nat.mul_lt_mul_of_pos_right hp hden))
  by_cases hzero : (Interval.of double m e).value * (Interval.of double m e).num = 0
  · rw [hzero]
    exact Nat.zero_le _
  · rw [hbits, Nat.log2_two_pow, ← Nat.lt_succ_iff, Nat.log2_lt hzero]
    refine hle.trans_lt ?_
    rw [hbits, ← Nat.pow_add]
    exact Nat.pow_lt_pow_right (by decide) (Nat.lt_succ_self _)

theorem shortest_of_pos (hm : 0 < m) :
    shortest double m e = trimZeros 2 ((Interval.of double m e).search 18 (start m e)) :=
  if_neg hm.ne'

/-- A whole number of 64 bits is written without a fraction, and as one that is no further from it
than half of its last place. -/
theorem shortest_of_whole (hm : 0 < m) (hn : (m : ℚ) * 2 ^ e = n) (hle : n ≤ 2 ^ 63) :
    0 ≤ (shortest double m e).power ∧ |worth (shortest double m e) - n| ≤ 2 ^ e / 2 := by
  have hden := Interval.of_den_pos (e := e) (m := m)
  have hprod := Interval.of_value_mul_eq hn
  have hpos : 0 < n := by
    have hq : (0 : ℚ) < n := hn ▸ by positivity
    exact_mod_cast hq
  have hle18 : start m e ≤ (18 : ℕ) :=
    start_le (t := 63) (hn ▸ by exact_mod_cast hle) (by decide) (by decide)
  have hstart : 0 ≤ start m e := by
    refine magnitude_nonneg hden ?_
    rw [hprod]
    exact Nat.le_mul_of_pos_left _ hpos
  have hgrid : ((Interval.of double m e).onGrid 0).isSome = true := by
    refine Interval.isSome_onGrid_zero ?_ ?_ Interval.of_num_pos ?_
    · unfold Interval.of
      dsimp only
      split <;> omega
    · exact Nat.lt_add_of_pos_right (by decide)
    · rw [hprod]
      exact Nat.dvd_mul_left _ _
  have hpower := Interval.search_power_nonneg hgrid hstart hle18
  rw [shortest_of_pos hm]
  obtain ⟨hworth, hraised, -⟩ :=
    trimZeros_spec 2 ((Interval.of double m e).search 18 (start m e))
  refine ⟨hpower.trans hraised, ?_⟩
  rw [hworth]
  rcases Interval.search_cases (.of double m e) 18 (start m e) with h | h
  · rw [← hn]
    exact Interval.near_of_holds h
  · -- the search ends at the whole numbers, where the number itself is
    rw [h] at hpower ⊢
    have hlast : start m e - (18 : ℕ) = 0 := by
      change 0 ≤ start m e - (18 : ℕ) at hpower
      omega
    rw [hprod, Nat.mul_div_cancel _ hden, hlast, worth, zpow_zero, mul_one, sub_self, abs_zero]
    positivity

/-- The whole number that is written for a decimal without a fraction. -/
def written (d : Decimal) : ℕ := d.digits * 10 ^ d.power.toNat

theorem worth_eq_written (h : 0 ≤ d.power) : worth d = written d := by
  obtain ⟨p, hp⟩ := Int.eq_ofNat_of_zero_le h
  rw [worth, written, hp, Int.toNat_natCast, zpow_natCast]
  push_cast
  rfl

theorem eq_of_near {w : ℕ} (he : e ≤ 0) (h : |(w : ℚ) - n| ≤ 2 ^ e / 2) : w = n := by
  have hone : (2 : ℚ) ^ e ≤ 1 := zpow_le_one_of_nonpos₀ one_le_two he
  have hlt : |(w : ℚ) - n| < 1 := by linarith
  have hdiff : (w : ℤ) - n = 0 := Int.abs_lt_one_iff.mp (by exact_mod_cast hlt)
  omega

/-- The only number of 53 bits or less whose last place is worth more than one is `2 ^ 53`. -/
theorem parts_of_le (hf : Fits m e) (he : 0 < e) (hn : (m : ℚ) * 2 ^ e = n) (hle : n ≤ 2 ^ 53) :
    m = 2 ^ 52 ∧ e = 1 := by
  have hfull : 2 ^ 52 ≤ m := hf.full.resolve_right (by omega)
  obtain ⟨p, rfl⟩ : ∃ p : ℕ, e = (p + 1 : ℕ) := ⟨(e - 1).toNat, by omega⟩
  have hprod : m * 2 ^ (p + 1) = n := by exact_mod_cast hn
  have hp : p = 0 := by
    by_contra hp
    have hfour : 2 ^ 52 * 2 ^ 2 ≤ m * 2 ^ (p + 1) :=
      Nat.mul_le_mul hfull (Nat.pow_le_pow_right (by decide) (by omega))
    omega
  subst hp
  exact ⟨by omega, rfl⟩

/-- What is written for a whole number of 64 bits is the number itself but for one part in `2 ^ 53`,
and exactly the number if it has no more than 53 bits. -/
theorem shortest_near (hf : Fits m e) (hm : 0 < m) (hn : (m : ℚ) * 2 ^ e = n) (hle : n ≤ 2 ^ 63) :
    |(written (shortest double m e) : ℤ) - n| * 2 ^ 53 ≤ n ∧
      (n ≤ 2 ^ 53 → written (shortest double m e) = n) := by
  obtain ⟨hpower, hnear⟩ := shortest_of_whole hm hn hle
  rw [worth_eq_written hpower] at hnear
  by_cases hplace : e ≤ 0
  · have heq := eq_of_near hplace hnear
    rw [heq, sub_self, abs_zero, zero_mul]
    exact ⟨Int.natCast_nonneg n, fun _ => rfl⟩
  · have hfull : 2 ^ 52 ≤ m := hf.full.resolve_right fun h => hplace (by omega)
    constructor
    · have hbound : |(written (shortest double m e) : ℚ) - n| * 2 ^ 53 ≤ n := by
        calc |(written (shortest double m e) : ℚ) - n| * 2 ^ 53 ≤ 2 ^ e / 2 * 2 ^ 53 := by gcongr
          _ = 2 ^ 52 * 2 ^ e := by ring
          _ ≤ m * 2 ^ e := by
            gcongr
            exact_mod_cast hfull
          _ = n := hn
      exact_mod_cast hbound
    · intro hsmall
      obtain ⟨rfl, rfl⟩ := parts_of_le hf (Int.not_le.mp hplace) hn hsmall
      obtain rfl : 2 ^ 53 = n := by exact_mod_cast hn
      decide +kernel

theorem place_of_fraction (h : ∀ n : ℕ, (m : ℚ) * 2 ^ e ≠ n) : ∃ p : ℕ, e = -(p + 1 : ℕ) := by
  have hneg : ¬ 0 ≤ e := fun he => (whole_iff.mpr (Or.inl he)).elim h
  exact ⟨(-e - 1).toNat, by omega⟩

/-- No whole number is as near to a number with a fraction as half of its last place. -/
theorem far_of_fraction (h : ∀ n : ℕ, (m : ℚ) * 2 ^ e ≠ n) :
    ¬ |(n : ℚ) - m * 2 ^ e| ≤ 2 ^ e / 2 := by
  intro hnear
  obtain ⟨p, rfl⟩ := place_of_fraction h
  have hpos : (0 : ℚ) < 2 ^ (p + 1) := by positivity
  have hinv : (2 : ℚ) ^ (-((p + 1 : ℕ) : ℤ)) * 2 ^ (p + 1) = 1 := by
    rw [zpow_neg, zpow_natCast]
    exact inv_mul_cancel₀ hpos.ne'
  have hscaled : |((n * 2 ^ (p + 1) : ℕ) : ℤ) - (m : ℤ)| < 1 := by
    have hmul := mul_le_mul_of_nonneg_right hnear hpos.le
    rw [div_mul_eq_mul_div, hinv, ← abs_of_pos hpos, ← abs_mul, sub_mul, mul_assoc, hinv,
      mul_one] at hmul
    exact_mod_cast hmul.trans_lt one_half_lt_one
  have heq : n * 2 ^ (p + 1) = m := by
    have := Int.abs_lt_one_iff.mp hscaled
    omega
  refine h n ?_
  rw [← heq, Nat.cast_mul, mul_assoc, Nat.cast_pow, Nat.cast_ofNat,
    mul_comm ((2 : ℚ) ^ (p + 1)), hinv, mul_one]

theorem shortest_of_fraction (hm : 0 < m) (hlt : m < 2 ^ 53)
    (hfrac : ∀ n : ℕ, (m : ℚ) * 2 ^ e ≠ n) : (shortest double m e).power < 0 := by
  obtain ⟨p, hp⟩ := place_of_fraction hfrac
  have hsmall : (m : ℚ) * 2 ^ e ≤ 2 ^ 52 :=
    (mul_zpow_lt hlt (d := 0) (by omega)).le.trans_eq (by simp)
  have hstart : start m e ≤ (15 : ℕ) := start_le hsmall (by decide) (by decide)
  rw [shortest_of_pos hm]
  obtain ⟨hworth, -, hraised⟩ :=
    trimZeros_spec 2 ((Interval.of double m e).search 18 (start m e))
  rcases Interval.search_cases (.of double m e) 18 (start m e) with h | h
  · -- a decimal without a fraction would be as near as the one that was found
    by_contra hpower
    obtain ⟨q, hq⟩ := Int.eq_ofNat_of_zero_le (Int.not_lt.mp hpower)
    have hnear : |worth (Interval.search (.of double m e) 18 (start m e)) - m * 2 ^ e| ≤
        2 ^ e / 2 := Interval.near_of_holds h
    rw [← hworth, worth, hq, zpow_natCast] at hnear
    exact far_of_fraction hfrac (by exact_mod_cast hnear)
  · have hdeep : ((Interval.of double m e).search 18 (start m e)).power = start m e - (18 : ℕ) := by
      rw [h]
    omega

/-! ## Texts -/

theorem isDigit_of_mem_digitList (h : c ∈ digitList n) : c.isDigit = true := by
  rw [digitList, Nat.toList_repr] at h
  exact Nat.isDigit_of_mem_toDigits (by decide) (by decide) h

theorem isDigit_of_mem_zeros (h : c ∈ List.replicate n '0') : c.isDigit = true :=
  List.eq_of_mem_replicate h ▸ rfl

theorem positional_of_nonneg (h : 0 ≤ d.power) :
    positional false d = digitList d.digits ++ List.replicate d.power.toNat '0' := by
  rw [positional, if_pos h, if_neg Bool.false_ne_true, List.append_nil]

theorem point_mem_positional (h : d.power < 0) : '.' ∈ positional false d := by
  rw [positional, if_neg (Int.not_le.mpr h)]
  dsimp only
  split <;> simp

theorem mem_positional (h : c ∈ positional false d) : c.isDigit = true ∨ c = '.' := by
  unfold positional at h
  dsimp only at h
  split at h
  · simp only [List.mem_append, Bool.false_eq_true, ↓reduceIte, List.not_mem_nil, or_false] at h
    exact Or.inl (h.elim isDigit_of_mem_digitList isDigit_of_mem_zeros)
  · split at h
    · simp only [List.mem_append, List.mem_singleton] at h
      rcases h with (h | h) | h
      · exact Or.inl (isDigit_of_mem_digitList (List.mem_of_mem_take h))
      · exact Or.inr h
      · exact Or.inl (isDigit_of_mem_digitList (List.mem_of_mem_drop h))
    · simp only [List.mem_append, List.mem_cons, List.not_mem_nil, or_false] at h
      rcases h with ((rfl | h) | h) | h
      · exact Or.inl rfl
      · exact Or.inr h
      · exact Or.inl (isDigit_of_mem_zeros h)
      · exact Or.inl (isDigit_of_mem_digitList h)

theorem toList_ofFloat (hx : Binary.ofFloat x = .finite negative m e) :
    (Decimal.ofFloat x).toList =
      (if negative then ['-'] else []) ++ positional false (shortest double m e) := by
  rw [Decimal.ofFloat, hx]
  exact String.toList_ofList

theorem mem_ofFloat (hx : Binary.ofFloat x = .finite negative m e)
    (h : c ∈ (Decimal.ofFloat x).toList) : c.isDigit = true ∨ c = '.' ∨ c = '-' := by
  rw [toList_ofFloat hx, List.mem_append] at h
  rcases h with h | h
  · refine Or.inr (Or.inr ?_)
    split at h
    · exact List.mem_singleton.mp h
    · cases h
  · exact (mem_positional h).imp_right Or.inl

theorem spellsWhole_ofFloat (hx : Binary.ofFloat x = .finite negative m e)
    (h : 0 ≤ (shortest double m e).power) :
    Number.SpellsWhole (Decimal.ofFloat x) (signed negative (written (shortest double m e))) := by
  have htext := toList_ofFloat hx
  rw [positional_of_nonneg h] at htext
  generalize hds : digitList (shortest double m e).digits ++
    List.replicate (shortest double m e).power.toNat '0' = ds at htext
  have hne : ds ≠ [] := by
    rw [← hds, digitList, Nat.toList_repr]
    simp
  have hdigits : ∀ c ∈ ds, c.isDigit = true := fun c hc => by
    rw [← hds] at hc
    exact (List.mem_append.mp hc).elim isDigit_of_mem_digitList isDigit_of_mem_zeros
  have hvalue : written (shortest double m e) = Nat.ofDigitChars 10 ds 0 := by
    rw [← hds, Nat.ofDigitChars_append, Nat.ofDigitChars_replicate_zero, digitList, Nat.toList_repr,
      Nat.ofDigitChars_ten_toDigits, written, Nat.mul_comm]
  rw [hvalue]
  cases negative with
  | false => exact Or.inl ⟨_, ⟨ds, Or.inl htext, hne, hdigits, rfl⟩, rfl⟩
  | true => exact Or.inr ⟨ds, htext, hne, hdigits, rfl⟩

end Placard.Decimal
