/-
# Floating numbers on a line

Floating numbers that are numbers lie on the line of the rational numbers with an infinity at either
end, and compare as their places there (`le_iff_place`).  So the order is transitive, which its
definition by signs, exponents and significands does not show.

A single keeps its place when it is made a double (`value?_widen`): its significand is moved up until
it has all the bits of the wider format, and no bit is lost.
-/
import Mathlib.Order.WithBot
import Placard.Proofs.Number.Arithmetic

namespace Placard.Binary
open Float.Model Float.Model.UnpackedFloat

variable {x y z : Float} {u : UnpackedFloat} {a : ℚ}

/-! ## Order -/

/-- The place of a number on the line. -/
def place? : UnpackedFloat → Option (WithBot (WithTop ℚ))
  | .notANumber => none
  | .infinity .negative => some ⊥
  | .infinity .positive => some ⊤
  | .zero _ => some ((0 : ℚ) : WithTop ℚ)
  | .finite s m e _ => some ((withSign s (m * 2 ^ e) : ℚ) : WithTop ℚ)

@[simp] theorem place?_notANumber : place? .notANumber = none := rfl

@[simp] theorem place?_below : place? (.infinity .negative) = some ⊥ := rfl

@[simp] theorem place?_above : place? (.infinity .positive) = some ⊤ := rfl

theorem IsWorth.place?_eq (h : IsWorth u a) : place? u = some (a : WithTop ℚ) := by
  cases h with
  | zero => rfl
  | finite h => rfl

theorem unpack_cases (x : Float) : x.toModel.unpack = .notANumber ∨
    (∃ s, x.toModel.unpack = .infinity s) ∨ ∃ a, (ofFloat x).value? = some a := by
  rw [ofFloat_eq_ofUnpacked]
  cases x.toModel.unpack with
  | notANumber => exact Or.inl rfl
  | infinity s => exact Or.inr (Or.inl ⟨s, rfl⟩)
  | zero s => exact Or.inr (Or.inr ⟨_, rfl⟩)
  | finite s m e hm => exact Or.inr (Or.inr ⟨_, rfl⟩)

theorem IsWorth.compare_infinity (h : IsWorth u a) (s : Sign) :
    u.compare (.infinity s) = some (match s with | .negative => .gt | .positive => .lt) := by
  cases h with
  | zero => cases s <;> rfl
  | @finite t m e hm hf => cases s <;> cases t <;> rfl

/-- Numbers compare as their places on the line. -/
theorem le_iff_place : x ≤ y ↔
    ∃ p ∈ place? x.toModel.unpack, ∃ q ∈ place? y.toModel.unpack, p ≤ q := by
  rw [le_iff_compare]
  rcases unpack_cases x with hx | ⟨s, hx⟩ | ⟨a, hx⟩
  · rw [hx, compare_eq_none.mpr (Or.inl rfl)]
    simp
  · rcases unpack_cases y with hy | ⟨t, hy⟩ | ⟨b, hy⟩
    · rw [hy, compare_eq_none.mpr (Or.inr rfl)]
      simp
    · rw [hx, hy]
      cases s <;> cases t <;> simp <;> decide
    · have hv := isWorth_of_value? hy
      rw [compare_swap, hx, hv.compare_infinity, hv.place?_eq]
      cases s <;> simp
  · have hu := isWorth_of_value? hx
    rcases unpack_cases y with hy | ⟨t, hy⟩ | ⟨b, hy⟩
    · rw [hy, compare_eq_none.mpr (Or.inr rfl)]
      simp
    · rw [hy, hu.compare_infinity, hu.place?_eq]
      cases t <;> simp
    · have hv := isWorth_of_value? hy
      rw [hu.compare_isLE hv, hu.place?_eq, hv.place?_eq]
      simp

theorem le_self_or_isNaN (x : Float) : x.isNaN = true ∨ x ≤ x := by
  rcases unpack_cases x with hx | ⟨s, hx⟩ | ⟨a, hx⟩
  · exact Or.inl (congrArg UnpackedFloat.isNaN hx)
  · refine Or.inr (le_iff_place.mpr ?_)
    rw [hx]
    cases s with
    | negative => exact ⟨⊥, rfl, ⊥, rfl, le_rfl⟩
    | positive => exact ⟨⊤, rfl, ⊤, rfl, le_rfl⟩
  · exact Or.inr ((le_iff_of_value? hx hx).mpr le_rfl)

theorem le_of_le_le (hxy : x ≤ y) (hyz : y ≤ z) : x ≤ z := by
  obtain ⟨p, hp, q, hq, hpq⟩ := le_iff_place.mp hxy
  obtain ⟨q', hq', r, hr, hqr⟩ := le_iff_place.mp hyz
  obtain rfl := Option.some.inj (hq.symm.trans hq')
  exact le_iff_place.mpr ⟨p, hp, r, hr, hpq.trans hqr⟩

theorem lt_of_lt_le (hxy : x < y) (hyz : y ≤ z) : x < z := by
  by_contra hxz
  have hyx : ¬ y ≤ x := fun hyx => by
    rw [lt_iff_compare] at hxy
    rw [le_iff_compare, compare_swap, hxy] at hyx
    cases hyx
  have hx := (isNaN_of_lt hxy).1
  have hz := (isNaN_of_le hyz).2
  rcases not_lt_iff.mp hxz with hzx | hnan | hnan
  · exact hyx (le_of_le_le hyz hzx)
  · exact Bool.noConfusion (hx.symm.trans hnan)
  · exact Bool.noConfusion (hz.symm.trans hnan)

/-! ## Singles -/

variable {m : ℕ} {e : ℤ} {negative : Bool}

/-- The bits of a number are read as they have been put together. -/
theorem ofFloat_ofBits (w : UInt64) : ofFloat (Float.ofBits w) = ofBits double w.toNat := by
  have hbits : w.toNat = w.toBitVec.toNat := rfl
  rw [hbits, ofBits_eq_ofUnpacked]
  change ofFloat (.ofModel (.pack (UnpackedFloat.unpack .binary64 w.toBitVec))) = _
  cases hw : UnpackedFloat.unpack Format.binary64 w.toBitVec with
  | notANumber => exact ofFloat_pack_notANumber
  | infinity s => exact ofFloat_pack_infinity
  | zero s => exact ofFloat_pack_zero
  | finite s m e hm =>
      obtain ⟨hf, he⟩ := fits_of_unpack hw
      exact (ofFloat_pack_finite hf).trans (if_pos he)

theorem log2_le (hm : 0 < m) (hlt : m < 2 ^ 53) : m.log2 ≤ 52 :=
  Nat.le_of_lt_succ ((Nat.log2_lt hm.ne').mpr hlt)

/-- A significand that is moved up until its leading bit is that of the format. -/
theorem moved_bounds (hm : 0 < m) (hlt : m < 2 ^ 53) :
    2 ^ 52 ≤ m * 2 ^ (52 - m.log2) ∧ m * 2 ^ (52 - m.log2) < 2 ^ 53 := by
  have hlog := log2_le hm hlt
  have hpow : 2 ^ m.log2 * 2 ^ (52 - m.log2) = 2 ^ 52 := by
    rw [← pow_add]
    congr 1
    omega
  have hlead : m * 2 ^ (52 - m.log2) < 2 ^ (m.log2 + 1) * 2 ^ (52 - m.log2) :=
    Nat.mul_lt_mul_of_pos_right Nat.lt_log2_self (Nat.two_pow_pos _)
  rw [pow_succ, mul_right_comm, hpow] at hlead
  exact ⟨hpow.symm.trans_le (Nat.mul_le_mul_right _ (Nat.log2_self_le hm.ne')), by omega⟩

/-- A number that has its leading bit within the format is encoded without a loss. -/
theorem encodeFinite_double (hm : 0 < m) (hlt : m < 2 ^ 53) (hlo : -1022 ≤ e + m.log2)
    (hhi : e + m.log2 ≤ 1023) : encodeFinite double m e =
      m * 2 ^ (52 - m.log2) + (e + m.log2 + 1022).toNat * 2 ^ 52 := by
  have hlog := log2_le hm hlt
  have hplace : max double.floor (e + (m.log2 : ℤ) - double.fraction) = e + m.log2 - 52 := by
    change max (-1074) (e + (m.log2 : ℤ) - 52) = _
    omega
  have hfull := (moved_bounds hm hlt).2
  unfold encodeFinite
  rw [if_neg hm.ne', hplace]
  dsimp only
  rw [if_pos (by omega), show (e - (e + (m.log2 : ℤ) - 52)).toNat = 52 - m.log2 by omega,
    Nat.shiftLeft_eq, Nat.shiftLeft_eq, Nat.shiftLeft_eq]
  change min (m * 2 ^ (52 - m.log2) + (e + (m.log2 : ℤ) - 52 - -1074).toNat * 2 ^ 52) (2047 * 2 ^ 52) = _
  generalize m * 2 ^ (52 - m.log2) = kept at hfull ⊢
  rw [show (e + (m.log2 : ℤ) - 52 - -1074).toNat = (e + m.log2 + 1022).toNat by omega]
  omega

theorem ofBits_double {kept field : ℕ} (hkept : 2 ^ 52 ≤ kept) (hlt : kept < 2 ^ 53)
    (hfield : field ≤ 2045) :
    ofBits double (negative.toNat * 2 ^ 63 + (kept + field * 2 ^ 52)) =
      .finite negative kept (field - 1074) := by
  have hsign : negative.toNat ≤ 1 := Bool.toNat_le negative
  -- the leading bit of the significand has gone into the exponent
  have hexponent : (negative.toNat * 2 ^ 63 + (kept + field * 2 ^ 52)) / 2 ^ 52 % 2048 = field + 1 := by
    omega
  have hfraction : (negative.toNat * 2 ^ 63 + (kept + field * 2 ^ 52)) % 2 ^ 52 = kept - 2 ^ 52 := by
    omega
  have hnegative : (negative.toNat * 2 ^ 63 + (kept + field * 2 ^ 52)) / 2 ^ 63 = negative.toNat := by
    omega
  unfold ofBits
  simp only [Nat.shiftRight_eq_div_pow]
  change (if _ / 2 ^ 52 % 2048 = 2047 then _ else if _ / 2 ^ 52 % 2048 = 0 then _ else
    finite (_ / 2 ^ 63 == 1) (_ % 2 ^ 52 + 2 ^ 52)
      (-1074 + (((_ / 2 ^ 52 % 2048 : ℕ) : ℤ) - 1))) = _
  rw [hexponent, hfraction, hnegative, if_neg (by omega), if_neg (by omega)]
  congr 1
  · cases negative <;> rfl
  · omega
  · omega

theorem encode_finite : (finite negative m e).encode double =
    negative.toNat * 2 ^ 63 + encodeFinite double m e := by
  change negative.toNat <<< 63 + _ = _
  rw [Nat.shiftLeft_eq]

theorem value?_encode (hlt : m < 2 ^ 53) (hlo : -1022 ≤ e) (hhi : e ≤ 971) :
    (ofFloat (Float.ofBits (UInt64.ofNat ((finite negative m e).encode double)))).value? =
      some ((signed negative m : ℚ) * 2 ^ e) := by
  rw [ofFloat_ofBits, encode_finite]
  rcases Nat.eq_zero_or_pos m with rfl | hm
  · have hzero : encodeFinite double 0 e = 0 := by simp [encodeFinite]
    have hread : ofBits double (UInt64.ofNat (negative.toNat * 2 ^ 63 + 0)).toNat =
        .finite negative 0 (-1074) := by
      cases negative <;> decide +kernel
    have hsigned : signed negative 0 = 0 := by cases negative <;> rfl
    rw [hzero, hread, value?, hsigned, Int.cast_zero, zero_mul, zero_mul]
  · have hlog := log2_le hm hlt
    obtain ⟨hkept, hfull⟩ := moved_bounds hm hlt
    rw [encodeFinite_double hm hlt (by omega) (by omega)]
    generalize hk : m * 2 ^ (52 - m.log2) = kept at hkept hfull ⊢
    obtain ⟨field, hfield⟩ := Int.eq_ofNat_of_zero_le (show 0 ≤ e + m.log2 + 1022 by omega)
    have hsign : negative.toNat ≤ 1 := Bool.toNat_le negative
    have hsize : negative.toNat * 2 ^ 63 + (kept + field * 2 ^ 52) < UInt64.size := by
      change _ < 2 ^ 64
      omega
    rw [hfield, Int.toNat_natCast, UInt64.toNat_ofNat_of_lt' hsize,
      ofBits_double hkept hfull (by omega), value?, ← hk]
    have hworth : ((m * 2 ^ (52 - m.log2) : ℕ) : ℚ) * 2 ^ ((field : ℤ) - 1074) = m * 2 ^ e := by
      rw [← hfield, show e + m.log2 + 1022 - 1074 = e - (52 - m.log2 : ℕ) by omega,
        zpow_sub₀ two_ne_zero, zpow_natCast]
      rw [Nat.cast_mul, Nat.cast_pow, Nat.cast_two, mul_assoc, mul_div_cancel₀ _ (by positivity)]
    cases negative with
    | false => exact congrArg some hworth
    | true =>
        rw [signed, if_pos rfl, signed, if_pos rfl, Int.cast_neg, Int.cast_neg, neg_mul, neg_mul]
        exact congrArg (fun q => some (-q)) hworth

/-- A single has at most 24 bits, and the last of them is worth at most `2 ^ 104`. -/
theorem ofFloat32_cases (x : Float32) : ofFloat32 x = .nan ∨
    (∃ negative, ofFloat32 x = .infinite negative) ∨
    ∃ negative m e, ofFloat32 x = .finite negative m e ∧ m < 2 ^ 24 ∧ -149 ≤ e ∧ e ≤ 104 := by
  unfold ofFloat32 ofBits
  dsimp only
  have hfraction : x.toBits.toNat % 1 <<< single.fraction < 2 ^ 23 := Nat.mod_lt _ (by decide)
  have hexponent : x.toBits.toNat >>> single.fraction % 1 <<< single.exponent < 256 :=
    Nat.mod_lt _ (by decide)
  generalize x.toBits.toNat % 1 <<< single.fraction = fraction at hfraction ⊢
  generalize x.toBits.toNat >>> single.fraction % 1 <<< single.exponent = exponent at hexponent ⊢
  split
  · split
    · exact Or.inr (Or.inl ⟨_, rfl⟩)
    · exact Or.inl rfl
  · rename_i htop
    have hlast : exponent ≠ 255 := htop
    split
    · exact Or.inr (Or.inr ⟨_, _, _, rfl, by omega, by decide, by decide⟩)
    · rename_i hzero
      refine Or.inr (Or.inr ⟨_, _, _, rfl, ?_, ?_, ?_⟩)
      · change fraction + 2 ^ 23 < 2 ^ 24
        omega
      · change -149 ≤ -149 + ((exponent : ℤ) - 1)
        omega
      · change -149 + ((exponent : ℤ) - 1) ≤ 104
        omega

theorem value?_widen (x : Float32) : (ofFloat (widen x)).value? = (ofFloat32 x).value? := by
  unfold widen
  rcases ofFloat32_cases x with hx | ⟨negative, hx⟩ | ⟨negative, m, e, hx, hm, hlo, hhi⟩
  · rw [hx, ofFloat_ofBits]
    decide +kernel
  · rw [hx, ofFloat_ofBits]
    cases negative <;> decide +kernel
  · rw [hx, value?_encode (by omega) (by omega) (by omega), value?]

theorem abs_lt_of_single {x : Float32} (h : (ofFloat32 x).value? = some a) : |a| < 2 ^ 128 := by
  rcases ofFloat32_cases x with hx | ⟨negative, hx⟩ | ⟨negative, m, e, hx, hm, -, hhi⟩
  · rw [hx] at h
    cases h
  · rw [hx] at h
    cases h
  · rw [hx] at h
    obtain rfl := Option.some.inj h
    have habs : |(signed negative m : ℚ)| = m := by
      cases negative <;> simp [signed]
    rw [abs_mul, habs, abs_of_pos (by positivity)]
    calc (m : ℚ) * 2 ^ e < 2 ^ 24 * 2 ^ e := by
          gcongr
          exact_mod_cast hm
      _ ≤ 2 ^ 24 * 2 ^ (104 : ℤ) := by
          gcongr
          norm_num
      _ = 2 ^ 128 := by norm_num

end Placard.Binary
