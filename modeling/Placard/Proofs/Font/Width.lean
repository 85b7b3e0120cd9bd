/-
# The width of a line in the built-in face

The built-in face gives every character the same width, so the width of a line depends on the number
of its characters only.  It is the product of that number, the width of a glyph and the enlargement of
the face, of which only the last factor is not whole: the product is rounded once.  There is a number
of the format between two different multiples of the enlargement (`exists_isDouble_between`), which
rounding does not pass, so a longer line is never narrower (`widthOf_le`).

An enlargement that is infinite or no number at all is allowed for: then all widths are.
-/
import Mathlib.Algebra.Order.Archimedean.Basic
import Mathlib.Data.Rat.Floor
import Placard.Font.Face
import Placard.Proofs.Number.Extended
import Placard.Proofs.Raster.Offset

namespace Placard
open Float.Model Float.Model.UnpackedFloat Binary

/-! ## Multiples of a number -/

namespace Binary

variable {x y s : Float} {v w : ℚ} {n m : ℕ}

/-- The least multiple of a power of two that is not below a multiple of `v` lies below the next
multiple of `v`, if the power is the greatest one that is not above `v`. -/
theorem exists_isDouble_between (hs : (ofFloat s).value? = some v) (hpos : 0 < v) (hv : v ≤ 2 ^ 128)
    (hn : n < 2 ^ 52) : ∃ d, IsDouble d ∧ n * v ≤ d ∧ d ≤ (n + 1) * v := by
  obtain ⟨j, hle, hlt⟩ := exists_mem_Ico_zpow hpos one_lt_two
  have hunit : (0 : ℚ) < 2 ^ j := by positivity
  have hdouble : v < 2 * 2 ^ j := by rwa [zpow_add_one₀ two_ne_zero, mul_comm] at hlt
  have hlow : -1074 ≤ j := by
    obtain ⟨k, e, hf, rfl⟩ := exists_fits hs hpos
    have hk : (1 : ℚ) ≤ k := by
      rcases Nat.eq_zero_or_pos k with rfl | hk
      · simp at hpos
      · exact_mod_cast hk
    have hbit : (2 : ℚ) ^ (-1074 : ℤ) ≤ k * 2 ^ e := by
      calc (2 : ℚ) ^ (-1074 : ℤ) ≤ 2 ^ e := zpow_le_zpow_right₀ one_le_two hf.le
        _ ≤ k * 2 ^ e := le_mul_of_one_le_left (by positivity) hk
    have := (zpow_lt_zpow_iff_right₀ one_lt_two).mp (hbit.trans_lt hlt)
    omega
  have hhigh : j ≤ 128 := by
    have htop : (2 : ℚ) ^ j ≤ 2 ^ (128 : ℤ) := by exact_mod_cast hle.trans hv
    exact (zpow_le_zpow_iff_right₀ one_lt_two).mp htop
  have hnonneg : 0 ≤ n * v / 2 ^ j := by positivity
  have hceil : ⌈n * v / 2 ^ j⌉ ≤ (2 * n : ℕ) := by
    rw [Int.ceil_le, div_le_iff₀ hunit]
    push_cast
    nlinarith [Nat.cast_nonneg (α := ℚ) n]
  have hzero : 0 ≤ ⌈n * v / 2 ^ j⌉ := Int.ceil_nonneg hnonneg
  refine ⟨⌈n * v / 2 ^ j⌉ * 2 ^ j, ⟨_, j, by omega, hlow, by omega, rfl⟩, ?_, ?_⟩
  · exact (div_le_iff₀ hunit).mp (Int.le_ceil _)
  · have hnext := Int.ceil_lt_add_one (n * v / 2 ^ j)
    rw [← sub_lt_iff_lt_add, lt_div_iff₀ hunit] at hnext
    linarith

theorem mul_le_mul_of_whole (hx : (ofFloat x).value? = some (n : ℚ))
    (hy : (ofFloat y).value? = some (m : ℚ)) (hs : (ofFloat s).value? = some v) (hv : 0 ≤ v)
    (hle : v ≤ 2 ^ 128) (hnm : n < m) (hm : m < 2 ^ 52) : x * s ≤ y * s := by
  have hzero : IsDouble 0 := isDouble_natCast (n := 0) (by decide)
  have hrx := mul_rounds hx hs
  have hry := mul_rounds hy hs
  rcases hv.eq_or_lt with rfl | hpos
  · rw [mul_zero] at hrx hry
    exact (le_iff_of_value? (hrx.value?_eq hzero) (hry.value?_eq hzero)).mpr le_rfl
  · obtain ⟨d, hd, hlow, hhigh⟩ := exists_isDouble_between hs hpos hle (hnm.trans hm)
    have hnext : d ≤ m * v := by
      have hsucc : ((n + 1 : ℕ) : ℚ) ≤ m := by exact_mod_cast hnm
      push_cast at hsucc
      exact hhigh.trans (mul_le_mul_of_nonneg_right hsucc hv)
    have hmax : (m : ℚ) * v ≤ 2 ^ 52 * 2 ^ 128 :=
      mul_le_mul (by exact_mod_cast hm.le) hle hv (by positivity)
    obtain ⟨a, ha, -, had⟩ := hrx.between hzero hd (by positivity) hlow
    obtain ⟨b, hb, hdb, -⟩ := hry.between hd
      (IsDouble.mul_two_pow (n := 1) (by decide) 180 (by decide) (by norm_num)) hnext hmax
    exact (le_iff_of_value? ha hb).mpr (had.trans hdb)

/-! ## Infinite numbers and what is no number -/

theorem isNaN_iff : x.isNaN = true ↔ x.toModel.unpack = .notANumber := by
  change x.toModel.unpack.isNaN = true ↔ _
  cases x.toModel.unpack with
  | notANumber => exact ⟨fun _ => rfl, fun _ => rfl⟩
  | infinity s => exact ⟨(nomatch ·), (nomatch ·)⟩
  | zero s => exact ⟨(nomatch ·), (nomatch ·)⟩
  | finite s m e hm => exact ⟨(nomatch ·), (nomatch ·)⟩

theorem unpack_of_pos (hx : (ofFloat x).value? = some v) (hv : 0 < v) :
    ∃ k e h, x.toModel.unpack = .finite .positive k e h := by
  have hu := isWorth_of_value? hx
  generalize x.toModel.unpack = u at hu
  cases hu with
  | zero => exact absurd hv (lt_irrefl 0)
  | @finite s k e hk hf =>
      cases s with
      | positive => exact ⟨k, e, hk, rfl⟩
      | negative =>
          have hneg : (0 : ℚ) ≤ k * 2 ^ e := by positivity
          exact absurd hv (not_lt.mpr (neg_nonpos.mpr hneg))

theorem unpack_pack_infinity {t : Sign} : (Float.Model.pack (.infinity t)).unpack = .infinity t := by
  cases t <;> rfl

theorem unpack_pack_notANumber : (Float.Model.pack .notANumber).unpack = .notANumber := by rfl

theorem mul_infinity (hx : (ofFloat x).value? = some v) (hv : 0 < v)
    (hs : s.toModel.unpack = .infinity .positive) :
    (x * s).toModel.unpack = .infinity .positive := by
  obtain ⟨k, e, h, hu⟩ := unpack_of_pos hx hv
  change (Float.Model.pack (UnpackedFloat.mul .binary64 x.toModel.unpack s.toModel.unpack)).unpack = _
  rw [hu, hs]
  exact unpack_pack_infinity

theorem mul_isNaN (hs : s.isNaN = true) : (x * s).isNaN = true := by
  rw [isNaN_iff] at hs ⊢
  change (Float.Model.pack (UnpackedFloat.mul .binary64 x.toModel.unpack s.toModel.unpack)).unpack = _
  rw [hs]
  cases x.toModel.unpack <;> exact unpack_pack_notANumber

theorem div_cases (hx : ¬ x < 0) (hle : ∀ w, (ofFloat x).value? = some w → w ≤ 2 ^ 128)
    (hy : (ofFloat y).value? = some v) (hv : 1 ≤ v) : (x / y).isNaN = true ∨
      (x / y).toModel.unpack = .infinity .positive ∨
      ∃ w, (ofFloat (x / y)).value? = some w ∧ 0 ≤ w ∧ w ≤ 2 ^ 128 := by
  have hpos : 0 < v := one_pos.trans_le hv
  obtain ⟨k, e, h, hu⟩ := unpack_of_pos hy hpos
  have hdiv : (x / y).toModel.unpack =
    (Float.Model.pack (UnpackedFloat.div .binary64 x.toModel.unpack y.toModel.unpack)).unpack := rfl
  rcases unpack_cases x with hnan | ⟨s, hs⟩ | ⟨w, hw⟩
  · refine Or.inl (isNaN_iff.mpr ?_)
    rw [hdiv, hnan, hu]
    exact unpack_pack_notANumber
  · refine Or.inr (Or.inl ?_)
    cases s with
    | positive =>
        rw [hdiv, hs, hu]
        exact unpack_pack_infinity
    | negative =>
        refine absurd (lt_iff_compare.mpr ?_) hx
        rw [hs]
        rfl
  · have hw0 : 0 ≤ w := by
      rcases not_lt_iff.mp hx with hzero | hnan | hnan
      · exact (le_iff_of_value? (by decide +kernel) hw).mp hzero
      · rw [isNaN_iff] at hnan
        rw [ofFloat_eq_ofUnpacked, hnan] at hw
        cases hw
      · exact absurd hnan (by decide +kernel)
    have hquot : w / v ≤ 2 ^ 128 := (div_le_self hw0 hv).trans (hle w hw)
    obtain ⟨q, hq, hq0, hq1⟩ := (div_rounds hw hy hpos.ne').between
      (isDouble_natCast (n := 0) (by decide))
      (IsDouble.mul_two_pow (n := 1) (by decide) 128 (by decide) (by norm_num)) (by positivity) hquot
    exact Or.inr (Or.inr ⟨q, hq, by simpa using hq0, hq1⟩)

end Binary

/-! ## The built-in face -/

namespace FontFace

variable {face : FontFace} {cs ds : List Char}

theorem widthOf_bitmap (h : face.source = .bitmap) :
    face.widthOf cs = extent cs.length * extent Font.glyphWidth * face.bitmapScale := by
  unfold widthOf
  rw [h]

theorem glyphs_value? {n : ℕ} (hn : n < 2 ^ 48) :
    (ofFloat (extent n * extent Font.glyphWidth)).value? = some ((n * 12 : ℕ) : ℚ) := by
  have hr := mul_rounds (extent_value? (n := n) (by omega)) (extent_value? (n := 12) (by decide))
  rw [← Nat.cast_mul] at hr
  exact hr.value?_eq (isDouble_natCast (by omega))

theorem bitmapScale_cases (h : ¬ widen face.size < 0) : face.bitmapScale.isNaN = true ∨
    face.bitmapScale.toModel.unpack = .infinity .positive ∨
    ∃ v, (ofFloat face.bitmapScale).value? = some v ∧ 0 ≤ v ∧ v ≤ 2 ^ 128 := by
  refine div_cases h (fun w hw => ?_) (extent_value? (n := 24) (by decide)) (by norm_num)
  rw [value?_widen] at hw
  exact ((le_abs_self w).trans_lt (abs_lt_of_single hw)).le

/-- In the built-in face a line of more characters is not narrower, unless widths are no numbers. -/
theorem widthOf_le (hsource : face.source = .bitmap) (hsize : ¬ widen face.size < 0) (hcs : cs ≠ [])
    (hle : cs.length ≤ ds.length) (hds : ds.length < 2 ^ 48) :
    (face.widthOf cs).isNaN = true ∨ face.widthOf cs ≤ face.widthOf ds := by
  have hpos : 0 < cs.length := List.length_pos_of_ne_nil hcs
  rw [widthOf_bitmap hsource, widthOf_bitmap hsource]
  generalize cs.length = n at hpos hle
  generalize ds.length = m at hle hds
  have hn := glyphs_value? (hle.trans_lt hds)
  have hm := glyphs_value? hds
  rcases hle.eq_or_lt with rfl | hlt
  · exact le_self_or_isNaN _
  · rcases bitmapScale_cases hsize with hnan | hinf | ⟨v, hv, hv0, hv1⟩
    · exact Or.inl (mul_isNaN hnan)
    · have hx := mul_infinity hn (Nat.cast_pos.mpr (by omega)) hinf
      have hy := mul_infinity hm (Nat.cast_pos.mpr (by omega)) hinf
      exact Or.inr (le_iff_compare.mpr (by rw [hx, hy]; rfl))
    · exact Or.inr (mul_le_mul_of_whole hn hm hv hv0 hv1 (by omega) (by omega))

end FontFace
end Placard
