/-
# What floating numbers are worth

A finite floating number stands for a rational number, its significand times a power of two
(`value?`), and finite numbers compare as what they stand for (`le_iff_of_value?`).  A number that is
not finite stands for none, but it can still be bounded (`AtMost`, `AtLeast`): what is infinite is
above or below all there is, and what is not a number satisfies no bound.

The model reads a number twice: the arithmetic takes its bits apart as `unpack` does, and a conversion
to a whole number as `ofFloat` does.  Both read the same parts (`ofFloat_eq_ofUnpacked`), and packing
gives back the parts it was given, as long as they are those of a number of the format (`Fits`,
`ofFloat_pack_finite`).

A conversion cuts a number off, or raises it to the next whole one, so it passes no whole number
(`toInt_natAbs_le`, `le_toSize_down`), and a whole number that is in the range it leaves as it is
(`toInt_of_value?`).
-/
import Mathlib.Data.Rat.Cast.Order
import Mathlib.Algebra.Order.Field.Power
import Mathlib.Tactic.Linarith
import Mathlib.Tactic.Positivity
import Mathlib.Tactic.NormNum
import Mathlib.Tactic.Ring
import Placard.Proofs.Number.Order

namespace Placard
open Float.Model Float.Model.UnpackedFloat

namespace Binary

/-- An unpacked number laid open. -/
def ofUnpacked : UnpackedFloat → Binary
  | .notANumber => .nan
  | .infinity s => .infinite (s == .negative)
  | .zero s => .finite (s == .negative) 0 double.floor
  | .finite s m e _ => .finite (s == .negative) m e

variable {x y : Float}

theorem unpackMantissa_toNat (b : BitVec 64) :
    (@unpackMantissa .binary64 b).toNat = b.toNat % 2 ^ 52 := by
  simp [unpackMantissa]

theorem unpackExponent_toNat (b : BitVec 64) :
    (@unpackExponent .binary64 b).toNat = b.toNat >>> 52 % 2 ^ 11 := by
  simp [unpackExponent]

theorem unpackSign_eq (b : BitVec 64) :
    (Sign.ofBitVec (@unpackSign .binary64 b) == .negative) = (b.toNat >>> 63 == 1) := by
  have h : (@unpackSign .binary64 b).toNat = b.toNat >>> 63 := by
    have hlt : b.toNat >>> 63 < 2 := by
      rw [Nat.shiftRight_eq_div_pow]
      omega
    change (BitVec.extractLsb 63 63 b).toNat = _
    simpa using hlt
  unfold Sign.ofBitVec
  rw [← h]
  generalize @unpackSign .binary64 b = s
  by_cases hs : s = 0#1
  · rw [if_pos hs, hs]
    rfl
  · have hone : s.toNat = 1 := by
      have hzero : s.toNat ≠ 0 := fun h0 => hs (BitVec.eq_of_toNat_eq h0)
      omega
    rw [if_neg hs, hone]
    rfl

theorem implicit_toNat (m : BitVec 52) : (1#1 ++ m).toNat = m.toNat + 2 ^ 52 := by
  rw [BitVec.toNat_append, ← Nat.shiftLeft_add_eq_or_of_lt m.isLt, Nat.add_comm]
  rfl

theorem ofUnpacked_unpack {b : BitVec 64} : ofUnpacked (UnpackedFloat.unpack .binary64 b) =
    let negative := Sign.ofBitVec (@unpackSign .binary64 b) == .negative
    let mantissa := @unpackMantissa .binary64 b
    let exponent := @unpackExponent .binary64 b
    if exponent = -1#11 then if mantissa = 0#52 then .infinite negative else .nan
    else if exponent = 0#11 then .finite negative mantissa.toNat (-1074)
    else .finite negative (mantissa.toNat + 2 ^ 52) (exponent.toNat - 1075) := by
  have hbias : (Format.binary64.exponentBias : ℤ) + (52 : ℕ) = 1075 := by decide
  unfold UnpackedFloat.unpack
  dsimp only
  by_cases htop : @unpackExponent .binary64 b = -1#11
  · rw [if_pos htop, if_pos htop]
    exact apply_ite ofUnpacked _ _ _
  · rw [if_neg htop, if_neg htop]
    by_cases he : @unpackExponent .binary64 b = 0#11
    · rw [if_pos he, if_pos he]
      by_cases hm : @unpackMantissa .binary64 b = 0#52
      · rw [dif_pos hm, hm]
        rfl
      · rw [dif_neg hm]
        change finite _ _ _ = finite _ _ _
        rw [he, hbias]
        rfl
    · rw [if_neg he, if_neg he]
      change finite _ _ _ = finite _ _ _
      rw [implicit_toNat, hbias]

theorem ofBits_eq_ofUnpacked {b : BitVec 64} :
    ofBits double b.toNat = ofUnpacked (UnpackedFloat.unpack .binary64 b) := by
  have hm : b.toNat % 1 <<< double.fraction = (@unpackMantissa .binary64 b).toNat :=
    (unpackMantissa_toNat b).symm
  have he : b.toNat >>> double.fraction % 1 <<< double.exponent =
      (@unpackExponent .binary64 b).toNat := (unpackExponent_toNat b).symm
  have hs : (b.toNat >>> (double.fraction + double.exponent) == 1) =
      (Sign.ofBitVec (@unpackSign .binary64 b) == .negative) := (unpackSign_eq b).symm
  have htop : ∀ e : BitVec 11, e.toNat = double.top ↔ e = -1#11 := fun e => by
    rw [← BitVec.toNat_inj]
    rfl
  have hzero : ∀ {w} (v : BitVec w), v.toNat = 0 ↔ v = 0#w := fun v => by
    rw [← BitVec.toNat_inj, BitVec.toNat_zero]
  rw [ofUnpacked_unpack]
  unfold ofBits
  dsimp only
  rw [hm, he, hs]
  simp only [htop, hzero]
  split
  · rfl
  · split
    · rfl
    · change finite _ _ (2 - (1024 : ℤ) - 52 + _) = finite _ _ _
      congr 1
      omega

/-- The two ways to lay open a number agree. -/
theorem ofFloat_eq_ofUnpacked : ofFloat x = ofUnpacked x.toModel.unpack := ofBits_eq_ofUnpacked

/-! ## Places -/

/-- A significand of the format: it has all the bits there are, or the last of them is worth the
least that a bit can be worth. -/
structure Fits (m : ℕ) (e : ℤ) : Prop where
  lt : m < 2 ^ 53
  le : -1074 ≤ e
  full : 2 ^ 52 ≤ m ∨ e = -1074

theorem fits_of_unpack {b : BitVec 64} {s : Sign} {m : ℕ} {e : ℤ} {hm : 0 < m}
    (h : UnpackedFloat.unpack Format.binary64 b = .finite s m e hm) : Fits m e ∧ e ≤ 971 := by
  have hlt : (@unpackMantissa .binary64 b).toNat < 2 ^ 52 := (@unpackMantissa .binary64 b).isLt
  have hexp : (@unpackExponent .binary64 b).toNat < 2 ^ 11 := (@unpackExponent .binary64 b).isLt
  have hparts : finite (s == .negative) m e = ofUnpacked (UnpackedFloat.unpack .binary64 b) := by
    rw [h]
    rfl
  rw [ofUnpacked_unpack] at hparts
  dsimp only at hparts
  split at hparts
  · split at hparts <;> cases hparts
  · rename_i htop
    have htop' : (@unpackExponent .binary64 b).toNat ≠ 2047 := fun h0 =>
      htop (BitVec.eq_of_toNat_eq h0)
    split at hparts
    · obtain ⟨-, rfl, rfl⟩ := finite.inj hparts
      exact ⟨⟨by omega, by decide, Or.inr rfl⟩, by decide⟩
    · rename_i hzero
      have hzero' : (@unpackExponent .binary64 b).toNat ≠ 0 := fun h0 =>
        hzero (BitVec.eq_of_toNat_eq h0)
      obtain ⟨-, rfl, rfl⟩ := finite.inj hparts
      exact ⟨⟨by omega, by omega, Or.inl (by omega)⟩, by omega⟩

theorem fits_of_ofFloat {negative : Bool} {m : ℕ} {e : ℤ} (h : ofFloat x = .finite negative m e)
    (hm : 0 < m) : Fits m e := by
  rw [ofFloat_eq_ofUnpacked] at h
  cases hx : x.toModel.unpack with
  | notANumber => rw [hx] at h; cases h
  | infinity s => rw [hx] at h; cases h
  | zero s =>
      rw [hx] at h
      obtain ⟨-, rfl, -⟩ := finite.inj h
      exact absurd hm (Nat.lt_irrefl 0)
  | finite s m' e' hm' =>
      rw [hx] at h
      obtain ⟨-, rfl, rfl⟩ := finite.inj h
      exact (fits_of_unpack hx).1

/-! ## Packing -/

variable {s : Sign} {m : ℕ} {e : ℤ}

theorem unpackSign_packComponents {f : Float.Model.Format} {exponent : BitVec f.exponentBits}
    {mantissa : BitVec f.mantissaBitsWithoutImplicit} :
    Sign.ofBitVec (unpackSign (packComponents f s exponent mantissa)) = s := by
  have h : unpackSign (packComponents f s exponent mantissa) = s.toBitVec := by
    refine BitVec.eq_of_getLsbD_eq fun i hi => ?_
    obtain rfl : i = 0 := by omega
    change (BitVec.extractLsb _ _ (packComponents f s exponent mantissa)).getLsbD 0 = _
    simp [packComponents, BitVec.getLsbD_append, BitVec.getElem_append]
  rw [h]
  cases s <;> rfl

/-- A number whose parts are packed is laid open again into its parts. -/
theorem ofUnpacked_packComponents {exponent : BitVec 11} {mantissa : BitVec 52} :
    ofUnpacked (UnpackedFloat.unpack .binary64 (packComponents .binary64 s exponent mantissa)) =
      if exponent = -1#11 then if mantissa = 0#52 then .infinite (s == .negative) else .nan
      else if exponent = 0#11 then .finite (s == .negative) mantissa.toNat (-1074)
      else .finite (s == .negative) (mantissa.toNat + 2 ^ 52) (exponent.toNat - 1075) := by
  have hm : @unpackMantissa .binary64 (packComponents .binary64 s exponent mantissa) = mantissa :=
    unpackMantissa_packComponents
  have he : @unpackExponent .binary64 (packComponents .binary64 s exponent mantissa) = exponent :=
    unpackExponent_packComponents
  have hs : Sign.ofBitVec
      (@unpackSign .binary64 (packComponents .binary64 s exponent mantissa)) = s :=
    unpackSign_packComponents
  rw [ofUnpacked_unpack, hm, he, hs]

/-- A number as it comes out of an operation. -/
theorem ofFloat_pack {u : UnpackedFloat} : ofFloat (.ofModel (.pack u)) =
    ofUnpacked (UnpackedFloat.unpack .binary64 (UnpackedFloat.pack .binary64 u)) :=
  ofFloat_eq_ofUnpacked

theorem ofFloat_pack_zero :
    ofFloat (.ofModel (.pack (.zero s))) = .finite (s == .negative) 0 (-1074) :=
  ofFloat_pack.trans ofUnpacked_packComponents

theorem ofFloat_pack_infinity :
    ofFloat (.ofModel (.pack (.infinity s))) = .infinite (s == .negative) :=
  ofFloat_pack.trans ofUnpacked_packComponents

theorem ofFloat_pack_notANumber : ofFloat (.ofModel (.pack .notANumber)) = .nan :=
  ofFloat_pack.trans ofUnpacked_packComponents

/-- A number with a significand of the format comes out as it is, unless it is too large. -/
theorem ofFloat_pack_finite (h : Fits m e) {hm : 0 < m} :
    ofFloat (.ofModel (.pack (.finite s m e hm))) =
      if e ≤ 971 then .finite (s == .negative) m e else .infinite (s == .negative) := by
  obtain ⟨hlt, hle, hfull⟩ := h
  rw [ofFloat_pack]
  unfold UnpackedFloat.pack
  dsimp only
  have hbias : (Format.binary64.exponentBias : ℤ) = 1023 := by decide
  have hbits : Format.binary64.mantissaBits = 53 := rfl
  simp only [hbias, hbits]
  by_cases hlarge : 971 < e
  · rw [if_pos (by omega), if_neg (by omega)]
    exact ofUnpacked_packComponents
  · rw [if_neg (by omega), if_pos (Int.not_lt.mp hlarge)]
    by_cases hnormal : 2 ^ 52 ≤ m
    · have hlog : m.log2 = 52 := (Nat.log2_eq_iff hm.ne').mpr ⟨hnormal, hlt⟩
      have hexp : (BitVec.ofNat 11 (e + 1023 + (52 : ℕ)).toNat).toNat = (e + 1075).toNat := by
        rw [BitVec.toNat_ofNat]
        omega
      rw [if_pos (by omega), ofUnpacked_packComponents, if_neg, if_neg, hexp, BitVec.toNat_ofNat]
      · congr 1 <;> omega
      · intro h0
        rw [h0] at hexp
        have hzero : (0 : ℕ) = (e + 1075).toNat := hexp
        omega
      · intro h0
        rw [h0] at hexp
        have htop : (2047 : ℕ) = (e + 1075).toNat := hexp
        omega
    · have hlog : m.log2 < 52 := (Nat.log2_lt hm.ne').mpr (by omega)
      rw [if_neg (by omega), ofUnpacked_packComponents, if_neg (by decide), if_pos rfl,
        BitVec.toNat_ofNat]
      congr 1 <;> omega

/-! ## Values -/

/-- The number that is stood for. -/
def value? : Binary → Option ℚ
  | .finite negative m e => some (signed negative m * 2 ^ e)
  | _ => none

variable {n : ℕ} {d : ℤ} {a b : ℚ}

theorem mul_zpow_lt (hm : m < 2 ^ 53) (h : e < d) : (m : ℚ) * 2 ^ e < 2 ^ 52 * 2 ^ d := by
  calc (m : ℚ) * 2 ^ e < 2 ^ 53 * 2 ^ e := by
        gcongr
        exact_mod_cast hm
    _ = 2 ^ 52 * 2 ^ (e + 1) := by
        rw [zpow_add₀ two_ne_zero]
        norm_num
        ring
    _ ≤ 2 ^ 52 * 2 ^ d := by
        gcongr
        · norm_num
        · omega

theorem Fits.mul_lt (hm : Fits m e) (hn : Fits n d) (h : e < d) : (m : ℚ) * 2 ^ e < n * 2 ^ d := by
  have hfull : 2 ^ 52 ≤ n := hn.full.resolve_right fun hd => by
    have := hm.le
    omega
  refine (mul_zpow_lt hm.lt h).trans_le ?_
  gcongr
  exact_mod_cast hfull

/-- Significands of the format compare by their places, and in the same place by themselves. -/
theorem Fits.compare_isLE (hm : Fits m e) (hn : Fits n d) :
    ((compare e d).then (compare m n)).isLE = true ↔ (m : ℚ) * 2 ^ e ≤ n * 2 ^ d := by
  rcases lt_trichotomy e d with h | rfl | h
  · rw [Int.compare_eq_lt.mpr h]
    exact iff_of_true rfl (hm.mul_lt hn h).le
  · rw [Int.compare_eq_eq.mpr rfl, mul_le_mul_iff_left₀ (by positivity)]
    change (compare m n).isLE = true ↔ _
    rw [Nat.isLE_compare, Nat.cast_le]
  · rw [Int.compare_eq_gt.mpr h]
    exact iff_of_false Bool.false_ne_true (hn.mul_lt hm h).not_ge

/-- A number with a sign. -/
def withSign (s : Sign) (q : ℚ) : ℚ :=
  match s with
  | .positive => q
  | .negative => -q

theorem signed_eq_withSign : ((signed (s == .negative) m : ℤ) : ℚ) = withSign s m := by
  cases s with
  | positive => exact Int.cast_natCast m
  | negative => exact (Int.cast_neg _).trans (congrArg _ (Int.cast_natCast m))

theorem withSign_zero : withSign s 0 = 0 := by
  cases s with
  | positive => rfl
  | negative => exact neg_zero

theorem withSign_mul : withSign s (a * b) = withSign s a * b := by
  cases s with
  | positive => rfl
  | negative => exact (neg_mul a b).symm

/-- An unpacked number that stands for `a`. -/
inductive IsWorth : UnpackedFloat → ℚ → Prop
  | zero {s : Sign} : IsWorth (.zero s) 0
  | finite {s : Sign} {m : ℕ} {e : ℤ} {hm : 0 < m} (h : Fits m e) :
      IsWorth (.finite s m e hm) (withSign s (m * 2 ^ e))

theorem isWorth_of_value? (h : (ofFloat x).value? = some a) : IsWorth x.toModel.unpack a := by
  rw [ofFloat_eq_ofUnpacked] at h
  cases hx : x.toModel.unpack with
  | notANumber =>
      rw [hx] at h
      cases h
  | infinity s =>
      rw [hx] at h
      cases h
  | zero s =>
      rw [hx] at h
      obtain rfl := Option.some.inj h
      rw [signed_eq_withSign, Nat.cast_zero, withSign_zero, zero_mul]
      exact .zero
  | finite s m e hm =>
      rw [hx] at h
      obtain rfl := Option.some.inj h
      rw [signed_eq_withSign, ← withSign_mul]
      exact .finite (fits_of_unpack hx).1

/-- Numbers compare as what they are worth. -/
theorem IsWorth.compare_isLE {u v : UnpackedFloat} (hu : IsWorth u a) (hv : IsWorth v b) :
    (u.compare v).any (·.isLE) = true ↔ a ≤ b := by
  have hpos : ∀ {k : ℕ} {f : ℤ}, 0 < k → (0 : ℚ) < k * 2 ^ f := fun h => by positivity
  cases hu with
  | zero =>
      cases hv with
      | zero => exact iff_of_true rfl le_rfl
      | @finite s' n d hn hg =>
          have hn' := hpos (f := d) hn
          cases s' with
          | positive => exact iff_of_true rfl hn'.le
          | negative => exact iff_of_false Bool.false_ne_true (not_le.mpr (neg_lt_zero.mpr hn'))
  | @finite s m e hm hf =>
      have hm' := hpos (f := e) hm
      cases hv with
      | zero =>
          cases s with
          | positive => exact iff_of_false Bool.false_ne_true hm'.not_ge
          | negative => exact iff_of_true rfl (neg_nonpos.mpr hm'.le)
      | @finite s' n d hn hg =>
          have hn' := hpos (f := d) hn
          cases s with
          | positive =>
              cases s' with
              | positive => exact hf.compare_isLE hg
              | negative =>
                  exact iff_of_false Bool.false_ne_true
                    (not_le.mpr ((neg_lt_zero.mpr hn').trans hm'))
          | negative =>
              cases s' with
              | positive => exact iff_of_true rfl ((neg_lt_zero.mpr hm').trans hn').le
              | negative =>
                  change _ ↔ -((m : ℚ) * 2 ^ e) ≤ -(n * 2 ^ d)
                  rw [neg_le_neg_iff, ← hg.compare_isLE hf]
                  change ((compare e d).then (compare m n)).swap.isLE = true ↔ _
                  rw [Ordering.swap_then, Int.compare_swap, Nat.compare_swap]

theorem le_iff_of_value? (hx : (ofFloat x).value? = some a) (hy : (ofFloat y).value? = some b) :
    x ≤ y ↔ a ≤ b :=
  le_iff_compare.trans ((isWorth_of_value? hx).compare_isLE (isWorth_of_value? hy))

/-! ## Bounds -/

/-- The number is at most `q`. -/
def AtMost : Binary → ℚ → Prop
  | .nan, _ => False
  | .infinite negative, _ => negative = true
  | .finite negative m e, q => signed negative m * 2 ^ e ≤ q

/-- The number is at least `q`. -/
def AtLeast : Binary → ℚ → Prop
  | .nan, _ => False
  | .infinite negative, _ => negative = false
  | .finite negative m e, q => q ≤ signed negative m * 2 ^ e

/-! ## Whole numbers -/

variable {r : Rounding} {negative : Bool} {shift : ℕ} {power k z lo hi : ℤ} {c : Binary}

/-- What is shifted down is cut off or raised by one, and is raised only if something is cut off. -/
theorem shiftDown_cases : shiftDown r negative m shift = m / 2 ^ shift ∨
    shiftDown r negative m shift = m / 2 ^ shift + 1 ∧ m / 2 ^ shift * 2 ^ shift < m := by
  have hpos : 0 < 2 ^ shift := Nat.two_pow_pos shift
  unfold shiftDown
  dsimp only
  rw [Nat.shiftRight_eq_div_pow, Nat.shiftLeft_eq, Nat.shiftLeft_eq]
  by_cases hrest : m / 2 ^ shift * 2 ^ shift < m
  · exact (ite_eq_or_eq _ _ _).symm.imp id fun h => ⟨h, hrest⟩
  · refine Or.inl (if_neg ?_)
    rw [Nat.sub_eq_zero_of_le (Nat.not_lt.mp hrest)]
    cases r <;> simp

theorem le_shiftDown (h : (n : ℚ) ≤ m / 2 ^ shift) : n ≤ shiftDown r negative m shift := by
  have hfloor : n ≤ m / 2 ^ shift := by
    rw [le_div_iff₀ (by positivity)] at h
    exact (Nat.le_div_iff_mul_le (Nat.two_pow_pos shift)).mpr (by exact_mod_cast h)
  rcases shiftDown_cases with h' | ⟨h', -⟩
  · exact hfloor.trans_eq h'.symm
  · omega

theorem shiftDown_le (h : (m / 2 ^ shift : ℚ) ≤ n) : shiftDown r negative m shift ≤ n := by
  have hm : m ≤ n * 2 ^ shift := by
    rw [div_le_iff₀ (by positivity)] at h
    exact_mod_cast h
  rcases shiftDown_cases with h' | ⟨h', hlt⟩
  · rw [h']
    exact (Nat.div_le_of_le_mul (by rwa [Nat.mul_comm]))
  · rw [h']
    exact Nat.lt_of_mul_lt_mul_right (hlt.trans_le hm)

/-- The whole number for a number, without its sign. -/
def magnitude (r : Rounding) (negative : Bool) (m : ℕ) (e : ℤ) : ℕ :=
  if 0 ≤ e then m <<< e.toNat else shiftDown r negative m (-e).toNat

theorem whole_eq : whole r negative m e = signed negative (magnitude r negative m e) := rfl

theorem magnitude_natCast {p : ℕ} : magnitude r negative m p = m * 2 ^ p := by
  rw [magnitude, if_pos (Int.natCast_nonneg p), Int.toNat_natCast, Nat.shiftLeft_eq]

theorem magnitude_neg_natCast {p : ℕ} :
    magnitude r negative m (-p) = shiftDown r negative m p := by
  cases p with
  | zero =>
      -- nothing is cut off
      have hall : shiftDown r negative m 0 = m / 2 ^ 0 ∨ _ := shiftDown_cases
      rcases hall with h | ⟨-, h⟩
      · rw [h, Nat.pow_zero, Nat.div_one]
        rfl
      · omega
  | succ p => exact if_neg (by omega)

theorem le_magnitude (h : (n : ℚ) ≤ m * 2 ^ e) : n ≤ magnitude r negative m e := by
  obtain ⟨p, rfl | rfl⟩ := Int.eq_nat_or_neg e
  · rw [magnitude_natCast]
    exact_mod_cast h
  · rw [magnitude_neg_natCast]
    rw [zpow_neg, zpow_natCast, ← div_eq_mul_inv] at h
    exact le_shiftDown h

theorem magnitude_le (h : (m * 2 ^ e : ℚ) ≤ n) : magnitude r negative m e ≤ n := by
  obtain ⟨p, rfl | rfl⟩ := Int.eq_nat_or_neg e
  · rw [magnitude_natCast]
    exact_mod_cast h
  · rw [magnitude_neg_natCast]
    rw [zpow_neg, zpow_natCast, ← div_eq_mul_inv] at h
    exact shiftDown_le h

/-- What is only cut off is not raised: that is how a number is rounded towards zero, and down if it
is not below zero. -/
theorem magnitude_le_self (h : r = .towardZero ∨ r = .down ∧ negative = false) :
    (magnitude r negative m e : ℚ) ≤ m * 2 ^ e := by
  obtain ⟨p, rfl | rfl⟩ := Int.eq_nat_or_neg e
  · rw [magnitude_natCast]
    push_cast
    exact le_rfl
  · have hcut : shiftDown r negative m p = m >>> p := by
      rcases h with rfl | ⟨rfl, rfl⟩
      · rfl
      · rfl
    rw [magnitude_neg_natCast, hcut, zpow_neg, zpow_natCast, ← div_eq_mul_inv,
      le_div_iff₀ (by positivity), Nat.shiftRight_eq_div_pow]
    exact_mod_cast Nat.div_mul_le_self m _

theorem abs_of_value? (h : (finite negative m e).value? = some (z : ℚ)) :
    (m : ℚ) * 2 ^ e = z.natAbs ∧ z = signed negative z.natAbs := by
  have hq : ((signed negative m : ℤ) : ℚ) * 2 ^ e = z := Option.some.inj h
  have hpos : (0 : ℚ) ≤ m * 2 ^ e := by positivity
  cases negative with
  | false =>
      rw [signed, if_neg Bool.false_ne_true, Int.cast_natCast] at hq
      have hz : 0 ≤ z := by
        rw [hq] at hpos
        exact_mod_cast hpos
      have habs : (z.natAbs : ℤ) = z := Int.natAbs_of_nonneg hz
      refine ⟨hq.trans (by rw [← Int.cast_natCast, habs]), ?_⟩
      rw [signed, if_neg Bool.false_ne_true, habs]
  | true =>
      rw [signed, if_pos rfl, Int.cast_neg, Int.cast_natCast, neg_mul] at hq
      have hz : z ≤ 0 := by
        have hneg : (z : ℚ) ≤ 0 := by linarith
        exact_mod_cast hneg
      have habs : (z.natAbs : ℤ) = -z := Int.ofNat_natAbs_of_nonpos hz
      constructor
      · rw [← Int.cast_natCast z.natAbs, habs, Int.cast_neg, ← hq, neg_neg]
      · rw [signed, if_pos rfl, habs, neg_neg]

theorem abs_signed : |signed negative n| = n := by
  cases negative with
  | false => exact Nat.abs_cast n
  | true => exact (abs_neg _).trans (Nat.abs_cast n)

theorem abs_signed_sub : |signed negative m - signed negative n| = |(m : ℤ) - n| := by
  cases negative with
  | false => rfl
  | true =>
      change |-(m : ℤ) - -(n : ℤ)| = _
      rw [neg_sub_neg, abs_sub_comm]

theorem magnitude_eq (h : (m : ℚ) * 2 ^ e = n) : magnitude r negative m e = n :=
  Nat.le_antisymm (magnitude_le h.le) (le_magnitude h.ge)

/-- A whole number is not rounded. -/
theorem toInt_of_value? (h : c.value? = some (z : ℚ)) : c.toInt r lo hi = max lo (min hi z) := by
  cases c with
  | nan => cases h
  | infinite negative => cases h
  | finite negative m e =>
      obtain ⟨habs, hz⟩ := abs_of_value? h
      rw [toInt, whole_eq, magnitude_eq habs, ← hz]

theorem value?_of_natCast (h : (m : ℚ) * 2 ^ e = n) :
    (finite negative m e).value? = some ((signed negative n : ℤ) : ℚ) := by
  rw [value?, Option.some.injEq]
  cases negative with
  | false => exact_mod_cast h
  | true =>
      rw [signed, signed, if_pos rfl, if_pos rfl, Int.cast_neg, Int.cast_neg, neg_mul,
        Int.cast_natCast, h, Int.cast_natCast]

/-- A number is whole if it has no bits after the point. -/
theorem whole_iff : (∃ n : ℕ, (m : ℚ) * 2 ^ e = n) ↔ 0 ≤ e ∨ m % 2 ^ (-e).toNat = 0 := by
  obtain ⟨p, rfl | rfl⟩ := Int.eq_nat_or_neg e
  · exact iff_of_true ⟨m * 2 ^ p, by push_cast; rfl⟩ (Or.inl (Int.natCast_nonneg p))
  · have hnat : ∀ n : ℕ, (m : ℚ) * 2 ^ (-(p : ℤ)) = n ↔ m = n * 2 ^ p := fun n => by
      rw [zpow_neg, zpow_natCast, ← div_eq_mul_inv, div_eq_iff (by positivity)]
      exact_mod_cast Iff.rfl
    simp only [hnat, neg_neg, Int.toNat_natCast]
    constructor
    · rintro ⟨n, rfl⟩
      exact Or.inr (Nat.mul_mod_left n _)
    · rintro (hp | hbits)
      · obtain rfl : p = 0 := by omega
        exact ⟨m, (Nat.mul_one m).symm⟩
      · exact ⟨m / 2 ^ p, (Nat.div_mul_cancel (Nat.dvd_of_mod_eq_zero hbits)).symm⟩

/-- A whole number for a number is not further from zero than a whole number that is at least as far
from it. -/
theorem toInt_natAbs_le {lo hi : ℤ} {b : Binary} (hlo : lo ≤ 0) (hhi : 0 ≤ hi) (hle : b.AtMost n)
    (hge : b.AtLeast (-n)) : (b.toInt r lo hi).natAbs ≤ n := by
  cases b with
  | nan => exact hle.elim
  | infinite negative => cases hle.symm.trans hge
  | finite negative m e =>
      change (max lo (min hi (whole r negative m e))).natAbs ≤ n
      rw [whole_eq]
      cases negative with
      | false =>
          have hmag : magnitude r false m e ≤ n := magnitude_le hle
          rw [signed, if_neg Bool.false_ne_true]
          omega
      | true =>
          have hneg : (-n : ℚ) ≤ ((-(m : ℤ) : ℤ) : ℚ) * 2 ^ e := hge
          rw [Int.cast_neg, neg_mul, neg_le_neg_iff] at hneg
          have hmag : magnitude r true m e ≤ n := magnitude_le hneg
          rw [signed, if_pos rfl]
          omega

theorem toSize_lt : toSize r x < UInt32.size := by
  unfold toSize
  change ((ofFloat x).toInt r 0 4294967295).toNat < 4294967296
  cases ofFloat x with
  | nan => exact Nat.zero_lt_succ _
  | infinite negative =>
      cases negative with
      | false => exact Nat.lt_succ_self _
      | true => exact Nat.zero_lt_succ _
  | finite negative m e =>
      change (max 0 (min 4294967295 (whole r negative m e))).toNat < 4294967296
      omega

/-- A number rounded down to a size is at least a positive size that the number itself is at least.
-/
theorem le_toSize_down (hn : 1 ≤ n) (hlt : n < UInt32.size) :
    n ≤ toSize .down x ↔ (ofFloat x).AtLeast n := by
  unfold toSize
  change n < 4294967296 at hlt
  change n ≤ ((ofFloat x).toInt .down 0 4294967295).toNat ↔ _
  cases ofFloat x with
  | nan => exact iff_of_false (by change ¬ n ≤ 0; omega) id
  | infinite negative =>
      cases negative with
      | false => exact iff_of_true (by change n ≤ 4294967295; omega) rfl
      | true => exact iff_of_false (by change ¬ n ≤ 0; omega) Bool.noConfusion
  | finite negative m e =>
      change n ≤ (max 0 (min 4294967295 (whole .down negative m e))).toNat ↔
        (n : ℚ) ≤ signed negative m * 2 ^ e
      rw [whole_eq]
      cases negative with
      | false =>
          simp only [signed, Bool.false_eq_true, ↓reduceIte, Int.cast_natCast]
          constructor
          · intro h
            have hmag : n ≤ magnitude .down false m e := by omega
            exact (Nat.cast_le.mpr hmag).trans (magnitude_le_self (.inr ⟨rfl, rfl⟩))
          · intro h
            have hmag : n ≤ magnitude .down false m e := le_magnitude h
            omega
      | true =>
          simp only [signed, ↓reduceIte]
          have hle : ((-(m : ℤ) : ℤ) : ℚ) * 2 ^ e ≤ 0 := by
            rw [Int.cast_neg, neg_mul, neg_nonpos]
            positivity
          have hpos : (0 : ℚ) < n := by exact_mod_cast hn
          exact iff_of_false (by omega) fun h => absurd (h.trans hle) (not_le.mpr hpos)

end Binary
end Placard
