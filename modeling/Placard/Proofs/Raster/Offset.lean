/-
# How far an anchored image reaches

An image that is anchored is moved by a part of its own side: a number times a size, cut off to a
whole number.  A floating number is `Bounded` by `c` if it stands for a number that is at most `c`
away from zero.  A product keeps the product of the bounds as long as that is itself a number of the
format, for then no rounding passes it.
-/
import Placard.Proofs.Number.Arithmetic
import Placard.Proofs.Geometry

namespace Placard
open Binary

variable {x y : Float} {c d : ℚ} {n : ℕ}

namespace Binary

/-- A number that lies between two numbers of the format is still there when it has been rounded, and
then it is finite. -/
theorem Rounds.between {q lo hi : ℚ} {b : Binary} (h : Rounds q b) (hlo : IsDouble lo)
    (hhi : IsDouble hi) (hle : lo ≤ q) (hge : q ≤ hi) :
    ∃ v, b.value? = some v ∧ lo ≤ v ∧ v ≤ hi := by
  have hl := h.atLeast lo hlo hle
  have hu := h.atMost hi hhi hge
  cases b with
  | nan => exact hl.elim
  | infinite negative => cases hl.symm.trans hu
  | finite negative m e => exact ⟨_, rfl, hl, hu⟩

theorem isDouble_natCast (h : n < 2 ^ 53) : IsDouble n :=
  ⟨n, 0, by simpa using h, by decide, by decide, by simp⟩

theorem IsDouble.mul_two_pow {q : ℚ} (h : n < 2 ^ 53) (k : ℕ) (hk : k ≤ 971) (hq : q = n * 2 ^ k) :
    IsDouble q :=
  ⟨n, k, by simpa using h, by omega, by omega, by rw [hq]; simp⟩

theorem atMost_iff {b : Binary} {v : ℚ} (h : b.value? = some v) : b.AtMost c ↔ v ≤ c := by
  cases b with
  | nan => cases h
  | infinite negative => cases h
  | finite negative m e =>
      cases h
      exact Iff.rfl

theorem atLeast_iff {b : Binary} {v : ℚ} (h : b.value? = some v) : b.AtLeast c ↔ c ≤ v := by
  cases b with
  | nan => cases h
  | infinite negative => cases h
  | finite negative m e =>
      cases h
      exact Iff.rfl

end Binary

/-- The number is at most `c` away from zero. -/
def Bounded (c : ℚ) (x : Float) : Prop :=
  ∃ v, (ofFloat x).value? = some v ∧ -c ≤ v ∧ v ≤ c

namespace Bounded

/-- What a bounded number is rounded to has the same bound. -/
theorem of_rounds {q : ℚ} (h : Rounds q (ofFloat x)) (hc : IsDouble c) (hle : |q| ≤ c) :
    Bounded c x :=
  h.between hc.neg hc (neg_le_of_abs_le hle) (le_of_abs_le hle)

theorem mul (hx : Bounded c x) (hy : Bounded d y) (hcd : IsDouble (c * d)) :
    Bounded (c * d) (x * y) := by
  obtain ⟨v, hv, hv'⟩ := hx
  obtain ⟨w, hw, hw'⟩ := hy
  refine of_rounds (mul_rounds hv hw) hcd ?_
  rw [abs_mul]
  have hv : |v| ≤ c := abs_le.mpr hv'
  exact mul_le_mul hv (abs_le.mpr hw') (abs_nonneg w) ((abs_nonneg v).trans hv)

theorem extent (h : n < UInt32.size) : Bounded (2 ^ 32) (extent n) := by
  have hn : n < 4294967296 := h
  refine ⟨n, extent_value? (by omega), ?_, ?_⟩
  · have : (0 : ℚ) ≤ n := by positivity
    linarith
  · exact_mod_cast hn.le

theorem truncated (h : Bounded n x) (hn : n < 2 ^ 63) : Within n (truncated x) := by
  obtain ⟨v, hv, hlo, hhi⟩ := h
  have habs : ((ofFloat x).toInt .towardZero coordinateMin coordinateMax).natAbs ≤ n :=
    toInt_natAbs_le (by decide) (by decide) ((atMost_iff hv).mpr hhi) ((atLeast_iff hv).mpr hlo)
  have hint : (Placard.truncated x).toInt = _ := toInt_ofInt_of_natAbs_lt (habs.trans_lt hn)
  unfold Within
  rwa [hint]

end Bounded

/-! ## Parts of a side -/

theorem bounded_zero (hc : 1 ≤ c) : Bounded c 0 :=
  ⟨0, by decide +kernel, by linarith, by linarith⟩

theorem bounded_half (hc : 1 ≤ c) : Bounded c 0.5 :=
  ⟨1 / 2, by decide +kernel, by linarith, by linarith⟩

theorem bounded_one (hc : 1 ≤ c) : Bounded c 1 :=
  ⟨1, by decide +kernel, by linarith, hc⟩

theorem within_part {c : ℕ} (h : Bounded c x) (hn : n < UInt32.size) (hc : c < 2 ^ 31) :
    Within (c * 2 ^ 32) (truncated (x * extent n)) := by
  have hd : IsDouble (c * 2 ^ 32) := IsDouble.mul_two_pow (n := c) (by omega) 32 (by decide) rfl
  have hb : Bounded ((c * 2 ^ 32 : ℕ) : ℚ) (x * extent n) := by
    have hmul := h.mul (.extent hn) hd
    exact_mod_cast hmul
  exact hb.truncated (by omega)

end Placard
