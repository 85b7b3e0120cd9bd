/-
# How exactly proportions are computed

An image is fitted by comparing two quotients of sizes and by multiplying or dividing a size by one
of them.  The numbers that this is done with are left open; what they have to do is said here
(`Accurate`): each operation gives the exact result but for an error of a small part of it, numbers
are compared as what they are worth, and the last step goes to the nearest size.

| | each result is off by |
| :-- | :-- |
| exact quotients (`ℚ`) | nothing |
| floating numbers (`Float`) | at most `2 ^ -51` of it |

Sizes have 32 bits, so an error of that kind never reaches the half that separates a size from its
neighbours.  A comparison of two quotients says something about sizes even when it was wrong about
the exact quotients: whatever it said, the side that is computed next does not pass the side that
it was compared with (`times_le`, `le_times`, `quotient_le`, `le_quotient`).
-/
import Mathlib.Algebra.Order.Archimedean.Basic
import Placard.Proofs.Number.Nearest
import Placard.Proofs.Raster.Anchor
import Placard.Raster.Fit

namespace Placard

/-- A side of an image: a size of 32 bits that is not zero. -/
structure IsSide (n : ℕ) : Prop where
  pos : 0 < n
  lt : n < UInt32.size

/-! ## Exact quotients -/

instance : Proportion ℚ where
  ofSize := (↑)
  times := (· * ·)
  quotient := (· / ·)
  below a b := a < b
  nearestSize q := min ⌊q + 1 / 2⌋₊ (UInt32.size - 1)

namespace Proportion

/-- The quotient of two sizes. -/
def share (α : Type) [Proportion α] (a b : ℕ) : α := quotient (ofSize a) (ofSize b)

/-- Numbers that are computed with an error of at most the part `unit` of each result. -/
class Accurate (α : Type) [Proportion α] (unit : outParam ℚ) where
  /-- The number stands for `q`. -/
  Worth : α → ℚ → Prop
  unit_nonneg : 0 ≤ unit
  unit_le : unit ≤ 1 / 2 ^ 48
  below_iff {x y : α} {p q : ℚ} : Worth x p → Worth y q → (below x y = true ↔ p < q)
  nearestSize_lt (x : α) : nearestSize x < UInt32.size
  le_nearestSize {x : α} {q : ℚ} {n : ℕ} : Worth x q → IsSide n →
    (n ≤ nearestSize x ↔ (n : ℚ) - 1 / 2 ≤ q)
  share_worth {a b : ℕ} : IsSide a → IsSide b →
    ∃ s, Worth (share α a b) s ∧ |s * b - a| ≤ a * unit
  times_worth {a b h : ℕ} {s : ℚ} : IsSide a → IsSide b → IsSide h → Worth (share α a b) s →
    ∃ v, Worth (times (ofSize h) (share α a b)) v ∧ |v - h * s| ≤ h * s * unit
  quotient_worth {a b w : ℕ} {s : ℚ} : IsSide a → IsSide b → IsSide w → Worth (share α a b) s →
    ∃ v, Worth (quotient (ofSize w) (share α a b)) v ∧ |v * s - w| ≤ w * unit

end Proportion

theorem IsSide.one_le {n : ℕ} (h : IsSide n) : (1 : ℚ) ≤ n := by exact_mod_cast h.pos

theorem IsSide.le_two_pow {n : ℕ} (h : IsSide n) : (n : ℚ) ≤ 2 ^ 32 := by
  exact_mod_cast Nat.le_of_lt h.lt

instance : Proportion.Accurate ℚ 0 where
  Worth x q := x = q
  unit_nonneg := le_rfl
  unit_le := by positivity
  below_iff := by
    rintro x y p q rfl rfl
    exact decide_eq_true_iff
  nearestSize_lt q := Nat.lt_of_le_of_lt (Nat.min_le_right _ _) (by decide)
  le_nearestSize := by
    rintro x q n rfl hn
    have hlt : n ≤ UInt32.size - 1 := Nat.le_sub_one_of_lt hn.lt
    change n ≤ min ⌊x + 1 / 2⌋₊ (UInt32.size - 1) ↔ _
    rw [le_min_iff, and_iff_left hlt, Nat.le_floor_iff' hn.pos.ne', sub_le_iff_le_add]
  share_worth {a b} ha hb := by
    have hb0 : (b : ℚ) ≠ 0 := by exact_mod_cast hb.pos.ne'
    refine ⟨a / b, rfl, ?_⟩
    rw [div_mul_cancel₀ _ hb0, sub_self, abs_zero, mul_zero]
  times_worth {a b h s} _ _ _ hs := by
    refine ⟨h * s, by rw [← hs]; rfl, ?_⟩
    rw [sub_self, abs_zero, mul_zero]
  quotient_worth {a b w s} ha hb _ hs := by
    have hs0 : s ≠ 0 := by
      have ha0 : (a : ℚ) ≠ 0 := by exact_mod_cast ha.pos.ne'
      have hb0 : (b : ℚ) ≠ 0 := by exact_mod_cast hb.pos.ne'
      rw [← hs]
      exact div_ne_zero ha0 hb0
    refine ⟨w / s, by rw [← hs]; rfl, ?_⟩
    rw [div_mul_cancel₀ _ hs0, sub_self, abs_zero, mul_zero]

/-! ## Floating numbers -/

namespace Binary

variable {x : Float} {q : ℚ}

/-- Rounding moves a number that is neither very small nor very great by little of it. -/
theorem Rounds.relative {b : Binary} (h : Rounds q b) (hlo : 1 / 2 ^ 100 ≤ q) (hhi : q ≤ 2 ^ 100) :
    ∃ v, b.value? = some v ∧ |v - q| ≤ q * (1 / 2 ^ 51) := by
  have hpos : 0 < q := lt_of_lt_of_le (by positivity) hlo
  obtain ⟨k, hle, hlt⟩ := exists_mem_Ico_zpow hpos one_lt_two
  have hlow : (2 : ℚ) ^ (-100 : ℤ) < 2 ^ (k + 1) := by
    refine lt_of_le_of_lt ?_ hlt
    norm_num at hlo ⊢
    exact hlo
  have hhigh : (2 : ℚ) ^ k ≤ 2 ^ (100 : ℤ) := by exact_mod_cast hle.trans hhi
  rw [zpow_lt_zpow_iff_right₀ one_lt_two] at hlow
  rw [zpow_le_zpow_iff_right₀ one_lt_two] at hhigh
  obtain ⟨v, hv, hnear⟩ := h.near (k := k + 1) (by omega) (by omega)
    (by rw [abs_of_pos hpos]; exact hlt.le)
  refine ⟨v, hv, hnear.trans ?_⟩
  rw [show k + 1 - 52 = k - (51 : ℕ) by omega, zpow_sub₀ two_ne_zero, zpow_natCast,
    div_eq_mul_one_div]
  exact mul_le_mul_of_nonneg_right hle (by positivity)

theorem lt_iff_of_value? {y : Float} {p : ℚ} (hx : (ofFloat x).value? = some p)
    (hy : (ofFloat y).value? = some q) : x < y ↔ p < q := by
  have hxn : x.isNaN = false := (isNaN_of_le ((le_iff_of_value? hx hx).mpr le_rfl)).1
  have hyn : y.isNaN = false := (isNaN_of_le ((le_iff_of_value? hy hy).mpr le_rfl)).1
  rw [← not_iff_not, not_lt_iff, not_lt, ← le_iff_of_value? hy hx, hxn, hyn]
  simp

end Binary

section
open Binary Proportion

variable {a b h w : ℕ} {s : ℚ}

theorem IsSide.value? (h : IsSide a) : (ofFloat (extent a)).value? = some (a : ℚ) :=
  extent_value? (Nat.lt_trans h.lt (by decide))

/-- What a quotient is off is, times the divisor, what the dividend is off. -/
theorem abs_mul_sub_le {v p q u : ℚ} (hq : 0 < q) (h : |v - p / q| ≤ p / q * u) :
    |v * q - p| ≤ p * u := by
  calc |v * q - p| = |v - p / q| * q := by
        rw [← abs_of_pos hq, ← abs_mul, sub_mul, abs_of_pos hq, div_mul_cancel₀ _ hq.ne']
    _ ≤ p / q * u * q := mul_le_mul_of_nonneg_right h hq.le
    _ = p * u := by rw [mul_right_comm, div_mul_cancel₀ _ hq.ne']

theorem share_value? (ha : IsSide a) (hb : IsSide b) :
    ∃ s, (ofFloat (share Float a b)).value? = some s ∧ |s * b - a| ≤ a * (1 / 2 ^ 51) := by
  have hb0 : (0 : ℚ) < b := zero_lt_one.trans_le hb.one_le
  have hlo : 1 / 2 ^ 100 ≤ (a : ℚ) / b := by
    calc (1 : ℚ) / 2 ^ 100 ≤ 1 / 2 ^ 32 := by norm_num
      _ ≤ (a : ℚ) / b := div_le_div₀ (Nat.cast_nonneg a) ha.one_le hb0 hb.le_two_pow
  have hhi : (a : ℚ) / b ≤ 2 ^ 100 := by
    calc (a : ℚ) / b ≤ a := div_le_self (Nat.cast_nonneg a) hb.one_le
      _ ≤ 2 ^ 100 := ha.le_two_pow.trans (by norm_num)
  obtain ⟨s, hs, hnear⟩ := (div_rounds ha.value? hb.value? hb0.ne').relative hlo hhi
  exact ⟨s, hs, abs_mul_sub_le hb0 hnear⟩

/-- The quotient of two sizes is not far from one. -/
theorem share_bounds (ha : IsSide a) (hb : IsSide b)
    (hs : (ofFloat (share Float a b)).value? = some s) : 1 / 2 ^ 33 ≤ s ∧ s ≤ 2 ^ 33 := by
  obtain ⟨s', hs', hnear⟩ := share_value? ha hb
  obtain rfl := Option.some.inj (hs.symm.trans hs')
  have hb0 : (0 : ℚ) < b := zero_lt_one.trans_le hb.one_le
  obtain ⟨hlo, hhi⟩ := abs_le.mp hnear
  have ha1 := ha.one_le
  have ha2 := ha.le_two_pow
  constructor
  · calc (1 : ℚ) / 2 ^ 33 = 1 / 2 / 2 ^ 32 := by norm_num
      _ ≤ 1 / 2 / (b : ℚ) := by
          gcongr
          exact hb.le_two_pow
      _ ≤ s := (div_le_iff₀ hb0).mpr (by linarith)
  · calc s ≤ 2 ^ 33 / (b : ℚ) := (le_div_iff₀ hb0).mpr (by linarith)
      _ ≤ 2 ^ 33 := div_le_self (by positivity) hb.one_le

theorem times_value? (ha : IsSide a) (hb : IsSide b) (hh : IsSide h)
    (hs : (ofFloat (share Float a b)).value? = some s) :
    ∃ v, (ofFloat (extent h * share Float a b)).value? = some v ∧
      |v - h * s| ≤ h * s * (1 / 2 ^ 51) := by
  obtain ⟨hlo, hhi⟩ := share_bounds ha hb hs
  have hs0 : (0 : ℚ) < s := lt_of_lt_of_le (by positivity) hlo
  refine (mul_rounds hh.value? hs).relative ?_ ?_
  · calc (1 : ℚ) / 2 ^ 100 ≤ 1 / 2 ^ 33 := by norm_num
      _ ≤ s := hlo
      _ ≤ h * s := le_mul_of_one_le_left hs0.le hh.one_le
  · calc (h : ℚ) * s ≤ 2 ^ 32 * 2 ^ 33 := mul_le_mul hh.le_two_pow hhi hs0.le (by positivity)
      _ ≤ 2 ^ 100 := by norm_num

theorem quotient_value? (ha : IsSide a) (hb : IsSide b) (hw : IsSide w)
    (hs : (ofFloat (share Float a b)).value? = some s) :
    ∃ v, (ofFloat (extent w / share Float a b)).value? = some v ∧
      |v * s - w| ≤ w * (1 / 2 ^ 51) := by
  obtain ⟨hlo, hhi⟩ := share_bounds ha hb hs
  have hs0 : (0 : ℚ) < s := lt_of_lt_of_le (by positivity) hlo
  obtain ⟨v, hv, hnear⟩ := (div_rounds hw.value? hs hs0.ne').relative (by
    calc (1 : ℚ) / 2 ^ 100 ≤ 1 / 2 ^ 33 := by norm_num
      _ ≤ (w : ℚ) / s := div_le_div₀ (Nat.cast_nonneg w) hw.one_le hs0 hhi) (by
    calc (w : ℚ) / s ≤ 2 ^ 32 / (1 / 2 ^ 33) :=
          div_le_div₀ (by positivity) hw.le_two_pow (by positivity) hlo
      _ ≤ 2 ^ 100 := by norm_num)
  exact ⟨v, hv, abs_mul_sub_le hs0 hnear⟩

instance : Accurate Float (1 / 2 ^ 51) where
  Worth x q := (ofFloat x).value? = some q
  unit_nonneg := by positivity
  unit_le := by norm_num
  below_iff hx hy := decide_eq_true_iff.trans (lt_iff_of_value? hx hy)
  nearestSize_lt _ := toSize_lt
  le_nearestSize hx hn := le_toSize_halfAway hx hn.pos hn.lt
  share_worth := share_value?
  times_worth := times_value?
  quotient_worth := quotient_value?

end

/-! ## Sides that are computed -/

namespace Proportion
open Accurate

variable {α : Type} [Proportion α] {unit : ℚ} {a b c d w h n : ℕ} {x : α} {q r s v : ℚ}

theorem nearestSize_le [Accurate α unit] (hx : Worth x v) (hv : v < n + 1 / 2) :
    nearestSize x ≤ n := by
  by_contra hgt
  have hnext : IsSide (n + 1) :=
    ⟨Nat.succ_pos n, Nat.lt_of_le_of_lt (Nat.not_le.mp hgt) (nearestSize_lt x)⟩
  have hle := (le_nearestSize hx hnext).mp (Nat.not_le.mp hgt)
  push_cast at hle
  linarith

theorem lt_nearestSize_add [Accurate α unit] (hx : Worth x v) (hv : v + 1 / 2 < 2 ^ 32) :
    v < nearestSize x + 1 / 2 := by
  have hsize : UInt32.size = 4294967296 := rfl
  have hlt := nearestSize_lt x
  by_contra hge
  rw [not_lt] at hge
  by_cases htop : nearestSize x + 1 < UInt32.size
  · have hle := (le_nearestSize hx ⟨Nat.succ_pos _, htop⟩).mpr (by push_cast; linarith)
    omega
  · have hlast : nearestSize x + 1 = 4294967296 := by omega
    have hlast' : (nearestSize x : ℚ) + 1 = 4294967296 := by exact_mod_cast hlast
    linarith

/-- The errors that matter, as numbers of pixels. -/
theorem Accurate.errors [Accurate α unit] (hw : IsSide w) :
    0 ≤ unit ∧ unit ≤ 1 / 4 ∧ 0 ≤ w * unit ∧ w * unit ≤ 1 / 2 ^ 16 := by
  have h0 := unit_nonneg α
  refine ⟨h0, (unit_le α).trans (by norm_num), by positivity, ?_⟩
  calc (w : ℚ) * unit ≤ 2 ^ 32 * (1 / 2 ^ 48) :=
        mul_le_mul hw.le_two_pow (unit_le α) h0 (by positivity)
    _ = 1 / 2 ^ 16 := by norm_num

/-- What is compared is what the quotients stand for, and not the exact ones. -/
theorem le_of_not_below [Accurate α unit] (hr : Worth (share α c d) r) (hs : Worth (share α a b) s)
    (hle : below (share α c d) (share α a b) = false) : s ≤ r :=
  not_lt.mp fun hlt => Bool.noConfusion (hle.symm.trans ((below_iff hr hs).mpr hlt))

/-- A height times a quotient of sizes that was not found above `w / h` is not above `w`. -/
theorem times_le [Accurate α unit] (ha : IsSide a) (hb : IsSide b) (hw : IsSide w) (hh : IsSide h)
    (hle : below (share α w h) (share α a b) = false) :
    nearestSize (times (ofSize h) (share α a b)) ≤ w := by
  obtain ⟨r, hr, hrw⟩ := share_worth (α := α) hw hh
  obtain ⟨s, hs, -⟩ := share_worth (α := α) ha hb
  obtain ⟨v, hv, hvs⟩ := times_worth ha hb hh hs
  obtain ⟨hu, hu1, hwu, hwu1⟩ := Accurate.errors (α := α) hw
  have hexact : h * s ≤ w + w * unit := by
    calc h * s ≤ h * r := mul_le_mul_of_nonneg_left (le_of_not_below hr hs hle) (Nat.cast_nonneg h)
      _ = r * h := mul_comm _ _
      _ ≤ w + w * unit := by linarith [(abs_le.mp hrw).2]
  refine nearestSize_le hv ?_
  calc v ≤ h * s * (1 + unit) := by linarith [(abs_le.mp hvs).2]
    _ ≤ (w + w * unit) * (1 + unit) := by gcongr
    _ = w + (2 + unit) * (w * unit) := by ring
    _ ≤ w + (2 + 1 / 4) * (1 / 2 ^ 16) := by gcongr
    _ < w + 1 / 2 := by linarith

theorem le_times [Accurate α unit] (ha : IsSide a) (hb : IsSide b) (hw : IsSide w) (hh : IsSide h)
    (hle : below (share α a b) (share α w h) = false) :
    w ≤ nearestSize (times (ofSize h) (share α a b)) := by
  obtain ⟨r, hr, hrw⟩ := share_worth (α := α) hw hh
  obtain ⟨s, hs, -⟩ := share_worth (α := α) ha hb
  obtain ⟨v, hv, hvs⟩ := times_worth ha hb hh hs
  obtain ⟨hu, hu1, hwu, hwu1⟩ := Accurate.errors (α := α) hw
  have hexact : w - w * unit ≤ h * s := by
    calc (w : ℚ) - w * unit ≤ r * h := by linarith [(abs_le.mp hrw).1]
      _ = h * r := mul_comm _ _
      _ ≤ h * s := mul_le_mul_of_nonneg_left (le_of_not_below hs hr hle) (Nat.cast_nonneg h)
  refine (le_nearestSize hv hw).mpr ?_
  calc (w : ℚ) - 1 / 2 ≤ w - 2 * (1 / 2 ^ 16) := by linarith
    _ ≤ w - 2 * (w * unit) + w * unit * unit := by nlinarith
    _ = (w - w * unit) * (1 - unit) := by ring
    _ ≤ h * s * (1 - unit) := mul_le_mul_of_nonneg_right hexact (by linarith)
    _ ≤ v := by linarith [(abs_le.mp hvs).1]

theorem pos_of_near [Accurate α unit] (ha : IsSide a) (hnear : |s * b - a| ≤ a * unit) : 0 < s := by
  obtain ⟨-, -, -, hau⟩ := Accurate.errors (α := α) ha
  have hlow := (abs_le.mp hnear).1
  have hone := ha.one_le
  exact pos_of_mul_pos_left (by linarith : 0 < s * b) (Nat.cast_nonneg b)

theorem quotient_le [Accurate α unit] (ha : IsSide a) (hb : IsSide b) (hw : IsSide w)
    (hh : IsSide h) (hle : below (share α a b) (share α w h) = false) :
    nearestSize (quotient (ofSize w) (share α a b)) ≤ h := by
  obtain ⟨r, hr, hrw⟩ := share_worth (α := α) hw hh
  obtain ⟨s, hs, -⟩ := share_worth (α := α) ha hb
  obtain ⟨v, hv, hvs⟩ := quotient_worth ha hb hw hs
  obtain ⟨hu, hu1, hhu, hhu1⟩ := Accurate.errors (α := α) hh
  have hw0 : (0 : ℚ) < w := by exact_mod_cast hw.pos
  have hexact : w - w * unit ≤ s * h := by
    calc (w : ℚ) - w * unit ≤ r * h := by linarith [(abs_le.mp hrw).1]
      _ ≤ s * h := mul_le_mul_of_nonneg_right (le_of_not_below hs hr hle) (Nat.cast_nonneg h)
  refine nearestSize_le hv (not_le.mp fun hge => ?_)
  have hsum : (h + 1 / 2) * (w - w * unit) ≤ (w + w * unit) * h := by
    calc (h + 1 / 2) * (w - w * unit) ≤ v * (s * h) :=
          mul_le_mul hge hexact (by nlinarith) (by linarith [hh.one_le])
      _ = v * s * h := (mul_assoc _ _ _).symm
      _ ≤ (w + w * unit) * h :=
          mul_le_mul_of_nonneg_right (by linarith [(abs_le.mp hvs).2]) (Nat.cast_nonneg h)
  have hunit : unit ≤ h * unit := le_mul_of_one_le_left hu hh.one_le
  have hpos : 0 < w * (1 / 2 - unit / 2 - 2 * (h * unit)) := mul_pos hw0 (by linarith)
  linarith

theorem le_quotient [Accurate α unit] (ha : IsSide a) (hb : IsSide b) (hw : IsSide w)
    (hh : IsSide h) (hle : below (share α w h) (share α a b) = false) :
    h ≤ nearestSize (quotient (ofSize w) (share α a b)) := by
  obtain ⟨r, hr, hrw⟩ := share_worth (α := α) hw hh
  obtain ⟨s, hs, hsa⟩ := share_worth (α := α) ha hb
  obtain ⟨v, hv, hvs⟩ := quotient_worth ha hb hw hs
  obtain ⟨hu, hu1, hhu, hhu1⟩ := Accurate.errors (α := α) hh
  have hw0 : (0 : ℚ) < w := by exact_mod_cast hw.pos
  have hexact : s * h ≤ w + w * unit := by
    calc s * h ≤ r * h :=
          mul_le_mul_of_nonneg_right (le_of_not_below hr hs hle) (Nat.cast_nonneg h)
      _ ≤ w + w * unit := by linarith [(abs_le.mp hrw).2]
  refine (le_nearestSize hv hh).mpr (not_lt.mp fun hlt => ?_)
  have hsum : (w - w * unit) * h ≤ (h - 1 / 2) * (w + w * unit) := by
    calc (w - w * unit) * h ≤ v * s * h :=
          mul_le_mul_of_nonneg_right (by linarith [(abs_le.mp hvs).1]) (Nat.cast_nonneg h)
      _ = v * (s * h) := mul_assoc _ _ _
      _ ≤ (h - 1 / 2) * (w + w * unit) :=
          mul_le_mul hlt.le hexact
            (mul_nonneg (pos_of_near (α := α) ha hsa).le (Nat.cast_nonneg h))
            (by linarith [hh.one_le])
  have hpos : 0 < w * (1 / 2 + unit / 2 - 2 * (h * unit)) := mul_pos hw0 (by linarith)
  linarith

/-! ## Order -/

theorem not_below_of_below [Accurate α unit] (ha : IsSide a) (hb : IsSide b) (hc : IsSide c)
    (hd : IsSide d) (hlt : below (share α a b) (share α c d) = true) :
    below (share α c d) (share α a b) = false := by
  obtain ⟨r, hr, -⟩ := share_worth (α := α) ha hb
  obtain ⟨s, hs, -⟩ := share_worth (α := α) hc hd
  have hrs := (below_iff hr hs).mp hlt
  exact Bool.eq_false_iff.mpr fun hgt => lt_asymm hrs ((below_iff hs hr).mp hgt)

/-- Widths are told apart by their quotients by one height. -/
theorem below_of_width [Accurate α unit] (ha : IsSide a) (hw : IsSide w) (hh : IsSide h)
    (hlt : a < w) : below (share α a h) (share α w h) = true := by
  obtain ⟨r, hr, hra⟩ := share_worth (α := α) ha hh
  obtain ⟨s, hs, hsw⟩ := share_worth (α := α) hw hh
  obtain ⟨-, -, -, hau⟩ := Accurate.errors (α := α) ha
  obtain ⟨-, -, -, hwu⟩ := Accurate.errors (α := α) hw
  have hnext : (a : ℚ) + 1 ≤ w := by exact_mod_cast hlt
  refine (below_iff hr hs).mpr (lt_of_mul_lt_mul_right ?_ (Nat.cast_nonneg h))
  linarith [(abs_le.mp hra).2, (abs_le.mp hsw).1]

theorem below_of_height [Accurate α unit] (hw : IsSide w) (hb : IsSide b) (hh : IsSide h)
    (hlt : b < h) : below (share α w h) (share α w b) = true := by
  obtain ⟨r, hr, hrw⟩ := share_worth (α := α) hw hh
  obtain ⟨s, hs, hsw⟩ := share_worth (α := α) hw hb
  obtain ⟨hu, hu1, -, hbu⟩ := Accurate.errors (α := α) hb
  have hw0 : (0 : ℚ) < w := by exact_mod_cast hw.pos
  have hnext : (b : ℚ) + 1 ≤ h := by exact_mod_cast hlt
  refine (below_iff hr hs).mpr (lt_of_mul_lt_mul_right ?_ (Nat.cast_nonneg h))
  -- one row makes more of a difference than the errors
  have hrow : 2 * (w * unit) < s := by
    refine lt_of_mul_lt_mul_right ?_ (Nat.cast_nonneg b)
    calc 2 * (w * unit) * b = w * (2 * (b * unit)) := by ring
      _ < w * (1 - unit) := mul_lt_mul_of_pos_left (by linarith) hw0
      _ ≤ s * b := by linarith [(abs_le.mp hsw).1]
  calc r * h ≤ w + w * unit := by linarith [(abs_le.mp hrw).2]
    _ < s * b + s := by linarith [(abs_le.mp hsw).1]
    _ = s * (b + 1) := by ring
    _ ≤ s * h := mul_le_mul_of_nonneg_left hnext (pos_of_near (α := α) hw hsw).le

/-! ## Sides that are computed again -/

theorem below_self [Accurate α unit] (ha : IsSide a) (hb : IsSide b) :
    below (share α a b) (share α a b) = false :=
  Bool.eq_false_iff.mpr fun h => Bool.noConfusion (h.symm.trans (not_below_of_below ha hb ha hb h))

theorem times_self [Accurate α unit] (hw : IsSide w) (hh : IsSide h) :
    nearestSize (times (ofSize h) (share α w h)) = w :=
  Nat.le_antisymm (times_le hw hh hw hh (below_self hw hh))
    (le_times hw hh hw hh (below_self hw hh))

theorem quotient_self [Accurate α unit] (hw : IsSide w) (hh : IsSide h) :
    nearestSize (quotient (ofSize w) (share α w h)) = h :=
  Nat.le_antisymm (quotient_le hw hh hw hh (below_self hw hh))
    (le_quotient hw hh hw hh (below_self hw hh))

/-! ## How near they are -/

theorem times_near [Accurate α unit] (ha : IsSide a) (hb : IsSide b) (hh : IsSide h) :
    ∃ v, Worth (times (ofSize h) (share α a b)) v ∧ |v - h * a / b| ≤ 3 * (h * a / b) * unit := by
  obtain ⟨s, hs, hsa⟩ := share_worth (α := α) ha hb
  obtain ⟨v, hv, hvs⟩ := times_worth ha hb hh hs
  obtain ⟨hu, hu1, -, -⟩ := Accurate.errors (α := α) ha
  refine ⟨v, hv, ?_⟩
  have hb0 : (0 : ℚ) < b := by exact_mod_cast hb.pos
  have hq0 : (0 : ℚ) ≤ h * a / b := by positivity
  have hexact : |h * s - h * a / b| ≤ h * a / b * unit := by
    calc |h * s - h * a / b| = |h / b * (s * b - a)| := by
          congr 1
          field_simp
      _ = h / b * |s * b - a| := by rw [abs_mul, abs_of_nonneg (by positivity)]
      _ ≤ h / b * (a * unit) := mul_le_mul_of_nonneg_left hsa (by positivity)
      _ = h * a / b * unit := by ring
  generalize (h : ℚ) * a / b = q at hq0 hexact ⊢
  calc |v - q| ≤ |v - h * s| + |h * s - q| := abs_sub_le _ _ _
    _ ≤ h * s * unit + q * unit := add_le_add hvs hexact
    _ ≤ (q + q * unit) * unit + q * unit := by
        gcongr
        linarith [(abs_le.mp hexact).2]
    _ = (2 + unit) * (q * unit) := by ring
    _ ≤ 3 * (q * unit) := mul_le_mul_of_nonneg_right (by linarith) (by positivity)
    _ = 3 * q * unit := (mul_assoc _ _ _).symm

theorem quotient_near [Accurate α unit] (ha : IsSide a) (hb : IsSide b) (hw : IsSide w) :
    ∃ v, Worth (quotient (ofSize w) (share α a b)) v ∧
      |v - w * b / a| ≤ 3 * (w * b / a) * unit := by
  obtain ⟨s, hs, hsa⟩ := share_worth (α := α) ha hb
  obtain ⟨v, hv, hvs⟩ := quotient_worth ha hb hw hs
  obtain ⟨hu, hu1, -, hwu⟩ := Accurate.errors (α := α) hw
  refine ⟨v, hv, ?_⟩
  have hs0 : 0 < s := pos_of_near (α := α) ha hsa
  have ha0 : (0 : ℚ) < a := by exact_mod_cast ha.pos
  have hb0 : (0 : ℚ) < b := by exact_mod_cast hb.pos
  have hone := hw.one_le
  have hv0 : 0 < v :=
    pos_of_mul_pos_left (by linarith [(abs_le.mp hvs).1] : 0 < v * s) hs0.le
  have hdouble : v * a ≤ 2 * (w * b) := by
    have hlow : v * (a - a * unit) ≤ v * (s * b) :=
      mul_le_mul_of_nonneg_left (by linarith [(abs_le.mp hsa).1]) hv0.le
    have hhigh : v * s * b ≤ (w + w * unit) * b :=
      mul_le_mul_of_nonneg_right (by linarith [(abs_le.mp hvs).2]) hb0.le
    have hva : v * a * unit ≤ v * a * (1 / 4) := mul_le_mul_of_nonneg_left hu1 (by positivity)
    have hwb : w * b * unit ≤ w * b * (1 / 4) := mul_le_mul_of_nonneg_left hu1 (by positivity)
    have hpos : (0 : ℚ) < w * b := by positivity
    linarith
  have hdist : |v * a - w * b| ≤ 3 * (w * b) * unit := by
    calc |v * a - w * b| = |(v * s - w) * b - v * (s * b - a)| := by
          congr 1
          ring
      _ ≤ |v * s - w| * b + v * |s * b - a| := by
          refine (abs_sub _ _).trans_eq ?_
          rw [abs_mul, abs_mul, abs_of_pos hb0, abs_of_pos hv0]
      _ ≤ w * unit * b + v * (a * unit) := by gcongr
      _ = w * b * unit + v * a * unit := by ring
      _ ≤ w * b * unit + 2 * (w * b) * unit := by gcongr
      _ = 3 * (w * b) * unit := by ring
  calc |v - w * b / a| = |v * a - w * b| / a := by
        rw [← abs_of_pos ha0, ← abs_div, abs_of_pos ha0]
        congr 1
        field_simp
    _ ≤ 3 * (w * b) * unit / a := by gcongr
    _ = 3 * (w * b / a) * unit := by ring

/-- The side `n` has been computed for the exact side `q`: as far as that has 32 bits, `n` is one of
the nearest whole numbers, but for the slack, or it has been raised to one. -/
def Follows (slack q : ℚ) (n : ℕ) : Prop :=
  q + 1 / 2 + slack < 2 ^ 32 → n = 1 ∧ q < 1 / 2 + slack ∨ |n - q| ≤ 1 / 2 + slack

theorem follows_of_near [Accurate α unit] (hx : Worth x v) (hv : |v - q| ≤ 3 * q * unit) :
    Follows (2 ^ 34 * unit) q (max (nearestSize x) 1) := by
  intro hfit
  have hu := unit_nonneg α
  have hq32 : q ≤ 2 ^ 32 := by
    have : 0 ≤ 2 ^ 34 * unit := by positivity
    linarith
  have hslack : 3 * q * unit ≤ 2 ^ 34 * unit :=
    mul_le_mul_of_nonneg_right (by linarith) hu
  obtain ⟨hlo, hhi⟩ := abs_le.mp (hv.trans hslack)
  have hlow := lt_nearestSize_add hx (by linarith)
  rcases Nat.eq_zero_or_pos (nearestSize x) with hzero | hpos
  · rw [hzero] at hlow ⊢
    exact .inl ⟨rfl, by push_cast at hlow; linarith⟩
  · rw [Nat.max_eq_left hpos]
    have hhigh := (le_nearestSize hx ⟨hpos, nearestSize_lt x⟩).mp le_rfl
    exact .inr (abs_le.mpr ⟨by linarith, by linarith⟩)

end Proportion
end Placard
