/-
# Arithmetic on floating numbers

The product, the quotient, the difference and the sum of two finite numbers are those of what they are
worth, rounded (`mul_rounds`, `div_rounds`, `sub_rounds`, `add_rounds`), and so are a size and a
coordinate that are turned into numbers (`extent_rounds`, `ofCoordinate_rounds`).  A size of at most 53
bits is not changed by that (`extent_value?`).

Rounding does not blur the comparison of two numbers with their quotient: it is at least one just if
the dividend is at least the divisor (`one_le_div_iff`).  For a number of the format that is less than
another one is less by some part of it (`Fits.le_of_lt`).
-/
import Placard.Geometry
import Placard.Proofs.Number.Rounding

namespace Placard.Binary
open Float.Model Float.Model.UnpackedFloat

variable {x y : Float} {a b q : ℚ} {m n : ℕ} {e d : ℤ} {s t : Sign} {u v : UnpackedFloat}

/-! ## Numbers as they are -/

theorem Fits.roundedTo (h : Fits m e) : RoundedTo (m * 2 ^ e) m e where
  nonneg := by positivity
  le := h.le
  lower k hk := by
    rw [mul_le_mul_iff_left₀ (by positivity)] at hk
    exact_mod_cast hk
  upper k hk := by
    rw [mul_le_mul_iff_left₀ (by positivity)] at hk
    exact_mod_cast hk
  large he := by
    gcongr
    exact_mod_cast h.full.resolve_right he
  small := by
    gcongr
    exact_mod_cast h.lt.le

theorem Fits.rounds (h : Fits m e) {hm : 0 < m} :
    Rounds (withSign s (m * 2 ^ e)) (ofFloat (.ofModel (.pack (.finite s m e hm)))) :=
  h.roundedTo.rounds_pack h rfl

theorem rounds_zero : Rounds 0 (ofFloat (.ofModel (.pack (.zero s)))) := by
  have hfits : Fits 0 (-1074) := ⟨by decide, le_rfl, Or.inr rfl⟩
  have hr : RoundedTo 0 0 (-1074) := by simpa using hfits.roundedTo
  have hpack := hr.rounds_pack_zero (s := s)
  rwa [withSign_zero] at hpack

theorem IsWorth.rounds (h : IsWorth u a) : Rounds a (ofFloat (.ofModel (.pack u))) := by
  cases h with
  | zero => exact rounds_zero
  | finite h => exact h.rounds

theorem IsWorth.neg (h : IsWorth u a) : IsWorth u.neg (-a) := by
  cases h with
  | zero =>
      rw [neg_zero]
      exact .zero
  | @finite s m e hm hf =>
      cases s with
      | positive => exact .finite hf
      | negative =>
          rw [withSign, neg_neg]
          exact .finite hf

/-! ## Products -/

theorem le_place_mul (hm : Fits m e) (hn : Fits n d) (hm0 : 0 < m) (hn0 : 0 < n) :
    e + d ≤ place (m * n) (e + d) := by
  unfold place
  by_cases hfull : 2 ^ 52 ≤ m * n
  · have hlog : 52 ≤ (m * n).log2 := (Nat.le_log2 (Nat.mul_pos hm0 hn0).ne').mpr hfull
    omega
  · have hmn : m ≤ m * n := Nat.le_mul_of_pos_right m hn0
    have hnm : n ≤ m * n := Nat.le_mul_of_pos_left n hm0
    have he := hm.full.resolve_left fun h => hfull (h.trans hmn)
    have hd := hn.full.resolve_left fun h => hfull (h.trans hnm)
    omega

theorem withSign_mul_withSign : withSign (s * t) (a * b) = withSign s a * withSign t b := by
  cases s with
  | positive =>
      cases t with
      | positive => rfl
      | negative => exact (mul_neg a b).symm
  | negative =>
      cases t with
      | positive => exact (neg_mul a b).symm
      | negative => exact (neg_mul_neg a b).symm

theorem withSign_div_withSign : withSign (s / t) (a / b) = withSign s a / withSign t b := by
  cases s with
  | positive =>
      cases t with
      | positive => rfl
      | negative => exact (div_neg a).symm
  | negative =>
      cases t with
      | positive => exact (neg_div b a).symm
      | negative => exact (neg_div_neg_eq a b).symm

theorem mul_rounds (hx : (ofFloat x).value? = some a) (hy : (ofFloat y).value? = some b) :
    Rounds (a * b) (ofFloat (x * y)) := by
  change Rounds _ (ofFloat (.ofModel (.pack
    (UnpackedFloat.mul .binary64 x.toModel.unpack y.toModel.unpack))))
  have hu := isWorth_of_value? hx
  have hv := isWorth_of_value? hy
  generalize x.toModel.unpack = u at hu ⊢
  generalize y.toModel.unpack = v at hv ⊢
  cases hu with
  | zero =>
      rw [zero_mul]
      cases hv with
      | zero => exact rounds_zero
      | finite hg => exact rounds_zero
  | @finite s m e hm hf =>
      cases hv with
      | zero =>
          rw [mul_zero]
          exact rounds_zero
      | @finite t n d hn hg =>
          rw [← withSign_mul_withSign, mul_mul_mul_comm, ← zpow_add₀ two_ne_zero, ← Nat.cast_mul]
          exact cutOff_exact.rounds_pack (le_place_mul hf hg hm hn)

/-! ## Quotients -/

/-- The place in which a quotient is computed. -/
def quotientPlace (m : ℕ) (e : ℤ) (n : ℕ) (d : ℤ) : ℤ :=
  min (e - d) (max (m.log2 + 1 + e - (n.log2 + 1 + d) - 53) (-1074))

/-- The number whose whole quotient is computed. -/
def dividend (m : ℕ) (e : ℤ) (n : ℕ) (d : ℤ) : ℕ := m <<< (e - d - quotientPlace m e n d).toNat

/-- A quotient has all its bits, or its place is the lowest one or below. -/
theorem le_place_div (hm : 0 < m) (hn : 0 < n) :
    quotientPlace m e n d ≤ place (dividend m e n d / n) (quotientPlace m e n d) := by
  unfold place
  by_cases hlow : quotientPlace m e n d ≤ -1074
  · omega
  · obtain ⟨k, hk⟩ := Int.eq_ofNat_of_zero_le
      (Int.sub_nonneg_of_le (show quotientPlace m e n d ≤ e - d from min_le_left _ _))
    have hbits : n.log2 + 53 ≤ m.log2 + k := by
      unfold quotientPlace at hlow hk
      omega
    have hfull : 2 ^ 52 ≤ dividend m e n d / n := by
      rw [Nat.le_div_iff_mul_le hn, dividend, hk, Int.toNat_natCast, Nat.shiftLeft_eq]
      calc 2 ^ 52 * n ≤ 2 ^ 52 * 2 ^ (n.log2 + 1) := by
            gcongr
            exact Nat.lt_log2_self.le
        _ = 2 ^ (n.log2 + 53) := by rw [← pow_add, Nat.add_comm 52]
        _ ≤ 2 ^ (m.log2 + k) := Nat.pow_le_pow_right two_pos hbits
        _ = 2 ^ m.log2 * 2 ^ k := pow_add _ _ _
        _ ≤ m * 2 ^ k := by
            gcongr
            exact Nat.log2_self_le hm.ne'
    have hlog : 52 ≤ (dividend m e n d / n).log2 := (Nat.le_log2 (by omega)).mpr hfull
    omega

theorem dividend_div : (dividend m e n d : ℚ) / n * 2 ^ quotientPlace m e n d =
    m * 2 ^ e / (n * 2 ^ d) := by
  have hle : quotientPlace m e n d ≤ e - d := min_le_left _ _
  unfold dividend
  generalize quotientPlace m e n d = t at hle ⊢
  obtain ⟨k, hk⟩ := Int.eq_ofNat_of_zero_le (Int.sub_nonneg_of_le hle)
  obtain rfl : e = d + k + t := by omega
  rw [hk, Int.toNat_natCast, Nat.shiftLeft_eq, zpow_add₀ two_ne_zero, zpow_add₀ two_ne_zero,
    zpow_natCast, Nat.cast_mul, Nat.cast_pow, Nat.cast_two]
  have hd : (2 : ℚ) ^ d ≠ 0 := by positivity
  rw [show (m : ℚ) * (2 ^ d * 2 ^ k * 2 ^ t) = m * 2 ^ k * 2 ^ t * 2 ^ d by ring,
    mul_div_mul_right _ _ hd, div_mul_eq_mul_div]

theorem div_rounds (hx : (ofFloat x).value? = some a) (hy : (ofFloat y).value? = some b)
    (hb : b ≠ 0) : Rounds (a / b) (ofFloat (x / y)) := by
  change Rounds _ (ofFloat (.ofModel (.pack
    (UnpackedFloat.div .binary64 x.toModel.unpack y.toModel.unpack))))
  have hu := isWorth_of_value? hx
  have hv := isWorth_of_value? hy
  generalize x.toModel.unpack = u at hu ⊢
  generalize y.toModel.unpack = v at hv ⊢
  cases hv with
  | zero => exact absurd rfl hb
  | @finite t n d hn hg =>
      cases hu with
      | zero =>
          rw [zero_div]
          exact rounds_zero
      | @finite s m e hm hf =>
          rw [← withSign_div_withSign, ← dividend_div]
          exact (cutOff_quotient hn).rounds_pack (le_place_div hm hn)

/-- The greatest number of the format below one. -/
def belowOne : ℚ := (2 ^ 53 - 1) / 2 ^ 53

theorem isDouble_belowOne : IsDouble belowOne :=
  ⟨2 ^ 53 - 1, -53, by decide, by decide, by decide, by norm_num [belowOne]⟩

/-- Two numbers of the format lie apart by some part of the greater one. -/
theorem Fits.le_of_lt (hm : Fits m e) (hn : Fits n d) (h : (m : ℚ) * 2 ^ e < n * 2 ^ d) :
    (m : ℚ) * 2 ^ e ≤ belowOne * (n * 2 ^ d) := by
  have hpos : (0 : ℚ) < 2 ^ d := by positivity
  unfold belowOne
  by_cases hde : d ≤ e
  · -- the lesser one is whole in the place of the greater one
    have hn53 : (n : ℚ) ≤ 2 ^ 53 := by exact_mod_cast hn.lt.le
    rw [mul_zpow_of_le hde] at h ⊢
    rw [mul_lt_mul_iff_left₀ hpos, Nat.cast_lt] at h
    rw [← mul_assoc, mul_le_mul_iff_left₀ hpos]
    generalize m * 2 ^ (e - d).toNat = k at h ⊢
    have hle : (k : ℚ) + 1 ≤ n := by exact_mod_cast h
    linarith
  · -- the lesser one is at most the last one with all its bits in the next lower place
    have hm53 : (m : ℚ) ≤ 2 ^ 53 - 1 := by
      rw [le_sub_iff_add_le]
      exact_mod_cast hm.lt
    have hfull : (2 ^ 52 : ℚ) ≤ n := by
      exact_mod_cast hn.full.resolve_right fun hd => by
        have := hm.le
        omega
    have he : (2 : ℚ) ^ e ≤ 2⁻¹ * 2 ^ d := by
      rw [← zpow_neg_one, ← zpow_add₀ two_ne_zero]
      exact zpow_le_zpow_right₀ one_le_two (by omega)
    calc (m : ℚ) * 2 ^ e ≤ (2 ^ 53 - 1) * (2⁻¹ * 2 ^ d) :=
          mul_le_mul hm53 he (by positivity) (by norm_num)
      _ = (2 ^ 53 - 1) / 2 ^ 53 * (2 ^ 52 * 2 ^ d) := by ring
      _ ≤ (2 ^ 53 - 1) / 2 ^ 53 * (n * 2 ^ d) :=
          mul_le_mul_of_nonneg_left (by gcongr) (by norm_num)

/-- A number above zero is a significand of the format in some place. -/
theorem exists_fits (hx : (ofFloat x).value? = some a) (ha : 0 < a) :
    ∃ (m : ℕ) (e : ℤ), Fits m e ∧ a = m * 2 ^ e := by
  have hw := isWorth_of_value? hx
  generalize x.toModel.unpack = u at hw
  cases hw with
  | zero => exact absurd ha (lt_irrefl 0)
  | @finite s m e hm hf =>
      cases s with
      | positive => exact ⟨m, e, hf, rfl⟩
      | negative =>
          have hneg : (0 : ℚ) ≤ m * 2 ^ e := by positivity
          exact absurd ha (not_lt.mpr (neg_nonpos.mpr hneg))

/-- No quotient that is less than one is rounded up to it. -/
theorem one_le_div_iff_of_value? (hx : (ofFloat x).value? = some a) (ha : 0 < a)
    (hy : (ofFloat y).value? = some b) (hb : 0 < b) : (ofFloat (x / y)).AtLeast 1 ↔ y ≤ x := by
  rw [le_iff_of_value? hy hx]
  have hr := div_rounds hx hy hb.ne'
  by_cases h : b ≤ a
  · refine iff_of_true (hr.atLeast 1 ⟨1, 0, by decide, by decide, by decide, by norm_num⟩ ?_) h
    rwa [le_div_iff₀ hb, one_mul]
  · obtain ⟨m, e, hm, rfl⟩ := exists_fits hx ha
    obtain ⟨n, d, hn, rfl⟩ := exists_fits hy hb
    have hle := hr.atMost _ isDouble_belowOne (by
      rw [div_le_iff₀ hb]
      exact hm.le_of_lt hn (not_le.mp h))
    refine iff_of_false (fun hge => ?_) h
    generalize ofFloat (x / y) = q at hle hge
    cases q with
    | nan => exact hle
    | infinite negative => cases hle.symm.trans hge
    | finite negative m e =>
        have hone : (1 : ℚ) ≤ belowOne := hge.trans hle
        norm_num [belowOne] at hone

theorem pos_cases (h : 0 < y) : y.toModel.unpack = .infinity .positive ∨
    ∃ b, (ofFloat y).value? = some b ∧ 0 < b := by
  have hzero : (0 : Float).toModel.unpack = .zero .positive := by rfl
  rw [lt_iff_compare, hzero] at h
  rw [ofFloat_eq_ofUnpacked]
  cases hy : y.toModel.unpack with
  | notANumber =>
      rw [hy] at h
      cases h
  | infinity s =>
      rw [hy] at h
      cases s with
      | positive => exact Or.inl rfl
      | negative => cases h
  | zero s =>
      rw [hy] at h
      cases h
  | finite s m e hm =>
      rw [hy] at h
      cases s with
      | positive =>
          refine Or.inr ⟨_, rfl, ?_⟩
          rw [signed_eq_withSign]
          change (0 : ℚ) < m * 2 ^ e
          positivity
      | negative => cases h

theorem div_infinity (hx : (ofFloat x).value? = some a) (hy : y.toModel.unpack = .infinity .positive) :
    ¬ (ofFloat (x / y)).AtLeast 1 ∧ ¬ y ≤ x := by
  have hu := isWorth_of_value? hx
  rw [le_iff_compare, hy]
  change ¬ (ofFloat (.ofModel (.pack
    (UnpackedFloat.div .binary64 x.toModel.unpack y.toModel.unpack)))).AtLeast 1 ∧ _
  rw [hy]
  have hzero : ∀ s : Sign, ¬ (ofFloat (.ofModel (.pack (.zero s)))).AtLeast 1 := fun s h => by
    rw [ofFloat_pack_zero] at h
    change (1 : ℚ) ≤ (signed (s == .negative) 0 : ℤ) * 2 ^ (-1074 : ℤ) at h
    rw [signed_eq_withSign, Nat.cast_zero, withSign_zero, zero_mul] at h
    exact absurd h (not_le.mpr one_pos)
  generalize x.toModel.unpack = u at hu ⊢
  cases hu with
  | zero => exact ⟨hzero _, Bool.false_ne_true⟩
  | finite hf => exact ⟨hzero _, Bool.false_ne_true⟩

/-- The quotient of two positive numbers is at least one just if the dividend is at least the
divisor. -/
theorem one_le_div_iff (hx : (ofFloat x).value? = some a) (ha : 0 < a) (hy : 0 < y) :
    (ofFloat (x / y)).AtLeast 1 ↔ y ≤ x := by
  rcases pos_cases hy with hinf | ⟨b, hb, hpos⟩
  · obtain ⟨hlow, hle⟩ := div_infinity hx hinf
    exact iff_of_false hlow hle
  · exact one_le_div_iff_of_value? hx ha hb hpos

/-! ## Differences and whole numbers -/

theorem decreaseExponent_worth : ((decreaseExponent m e d).1 : ℚ) * 2 ^ (decreaseExponent m e d).2 =
    m * 2 ^ e := by
  unfold decreaseExponent
  dsimp only
  generalize (e - d).toNat = k
  obtain ⟨f, rfl⟩ : ∃ f : ℤ, e = f + k := ⟨e - k, by omega⟩
  rw [add_sub_cancel_right, Nat.shiftLeft_eq, zpow_add₀ two_ne_zero, zpow_natCast, Nat.cast_mul,
    Nat.cast_pow, Nat.cast_two]
  ring

theorem decreaseExponent_snd (h : d ≤ e) : (decreaseExponent m e d).2 = d := by
  unfold decreaseExponent
  dsimp only
  omega

theorem log2_shiftLeft {k : ℕ} (h : m ≠ 0) : (m <<< k).log2 = m.log2 + k := by
  rw [Nat.shiftLeft_eq]
  refine (Nat.log2_eq_iff (Nat.mul_ne_zero h (Nat.two_pow_pos k).ne')).mpr ⟨?_, ?_⟩
  · rw [pow_add]
    exact Nat.mul_le_mul_right _ (Nat.log2_self_le h)
  · rw [Nat.add_right_comm, pow_add]
    exact Nat.mul_lt_mul_of_pos_right Nat.lt_log2_self (Nat.two_pow_pos k)

theorem decreaseExponent_le (h : m ≠ 0) : (decreaseExponent m e (place m e)).2 ≤
    place (decreaseExponent m e (place m e)).1 (decreaseExponent m e (place m e)).2 := by
  unfold decreaseExponent
  dsimp only
  unfold place
  rw [log2_shiftLeft h]
  omega

theorem round_rounds (h : m ≠ 0) : Rounds (withSign s (m * 2 ^ e))
    (ofFloat (.ofModel (.pack (UnpackedFloat.round .binary64 s m e)))) := by
  have hr := (cutOff_exact (m := (decreaseExponent m e (place m e)).1)).rounds_pack (s := s)
    (decreaseExponent_le (e := e) h)
  rw [decreaseExponent_worth] at hr
  unfold UnpackedFloat.round
  rw [targetExponent_eq]
  exact hr

theorem normalize_rounds {z : ℤ} : Rounds (z * 2 ^ e)
    (ofFloat (.ofModel (.pack (UnpackedFloat.normalize .binary64 z e s)))) := by
  unfold UnpackedFloat.normalize
  split
  · rename_i h
    obtain ⟨m, hm⟩ := Int.eq_ofNat_of_zero_le (show 0 ≤ -z by have := Int.compare_eq_lt.mp h; omega)
    obtain rfl : z = -m := by omega
    have hr := round_rounds (m := m) (e := e) (s := .negative) (by
      have := Int.compare_eq_lt.mp h
      omega)
    rw [neg_neg, Int.toNat_natCast, Int.cast_neg, Int.cast_natCast, neg_mul]
    exact hr
  · rename_i h
    rw [Int.compare_eq_eq.mp h, Int.cast_zero, zero_mul]
    exact rounds_zero
  · rename_i h
    obtain ⟨m, rfl⟩ := Int.eq_ofNat_of_zero_le (Int.compare_eq_gt.mp h).le
    have hr := round_rounds (m := m) (e := e) (s := .positive) (by
      have := Int.compare_eq_gt.mp h
      omega)
    rw [Int.toNat_natCast, Int.cast_natCast]
    exact hr

theorem Rounds.value?_eq {b : Binary} (h : Rounds q b) (hq : IsDouble q) : b.value? = some q := by
  have hle := h.atMost q hq le_rfl
  have hge := h.atLeast q hq le_rfl
  cases b with
  | nan => exact hle.elim
  | infinite negative => cases hle.symm.trans hge
  | finite negative m e => exact congrArg some (le_antisymm hle hge)

theorem toFloat_rounds {w : UInt64} : Rounds w.toNat (ofFloat w.toFloat) := by
  have hr := normalize_rounds (z := w.toNat) (e := 0) (s := .positive)
  rw [zpow_zero, mul_one, Int.cast_natCast] at hr
  exact hr

theorem extent_rounds (h : n < UInt64.size) : Rounds n (ofFloat (extent n)) := by
  have hr := toFloat_rounds (w := .ofNat n)
  rwa [UInt64.toNat_ofNat_of_lt' h] at hr

theorem extent_value? (h : n < 2 ^ 53) : (ofFloat (extent n)).value? = some (n : ℚ) := by
  refine (extent_rounds (h.trans (by decide))).value?_eq
    ⟨n, 0, by simpa using h, by decide, by decide, ?_⟩
  rw [zpow_zero, mul_one, Int.cast_natCast]

theorem apply_decreaseExponent (h : d ≤ e) :
    ((s.apply (decreaseExponent m e d).1 : ℤ) : ℚ) * 2 ^ d = withSign s (m * 2 ^ e) := by
  have hworth := decreaseExponent_worth (m := m) (e := e) (d := d)
  rw [decreaseExponent_snd h] at hworth
  rw [← hworth]
  cases s with
  | positive => rfl
  | negative =>
      change ((-((decreaseExponent m e d).1 : ℤ) : ℤ) : ℚ) * 2 ^ d = -_
      rw [Int.cast_neg, neg_mul, Int.cast_natCast]

theorem sub_rounds (hx : (ofFloat x).value? = some a) (hy : (ofFloat y).value? = some b) :
    Rounds (a - b) (ofFloat (x - y)) := by
  change Rounds _ (ofFloat (.ofModel (.pack
    (UnpackedFloat.sub .binary64 x.toModel.unpack y.toModel.unpack))))
  have hu := isWorth_of_value? hx
  have hv := isWorth_of_value? hy
  generalize x.toModel.unpack = u at hu ⊢
  generalize y.toModel.unpack = v at hv ⊢
  have hu' := hu
  have hv' := hv.neg
  cases hu with
  | @zero s =>
      rw [zero_sub]
      cases hv with
      | @zero t =>
          rw [neg_zero]
          unfold UnpackedFloat.sub
          dsimp only
          split
          · exact rounds_zero
          · exact rounds_zero
      | finite hg => exact hv'.rounds
  | @finite s m e hm hf =>
      cases hv with
      | @zero t =>
          rw [sub_zero]
          exact hu'.rounds
      | @finite t n d hn hg =>
          rw [← apply_decreaseExponent (min_le_left e d), ← apply_decreaseExponent (min_le_right e d),
            ← sub_mul, ← Int.cast_sub]
          exact normalize_rounds

theorem add_rounds (hx : (ofFloat x).value? = some a) (hy : (ofFloat y).value? = some b) :
    Rounds (a + b) (ofFloat (x + y)) := by
  change Rounds _ (ofFloat (.ofModel (.pack
    (UnpackedFloat.add .binary64 x.toModel.unpack y.toModel.unpack))))
  have hu := isWorth_of_value? hx
  have hv := isWorth_of_value? hy
  generalize x.toModel.unpack = u at hu ⊢
  generalize y.toModel.unpack = v at hv ⊢
  have hu' := hu
  have hv' := hv
  cases hu with
  | @zero s =>
      rw [zero_add]
      cases hv with
      | @zero t =>
          unfold UnpackedFloat.add
          dsimp only
          split
          · exact rounds_zero
          · exact rounds_zero
      | finite hg => exact hv'.rounds
  | @finite s m e hm hf =>
      cases hv with
      | @zero t =>
          rw [add_zero]
          exact hu'.rounds
      | @finite t n d hn hg =>
          rw [← apply_decreaseExponent (min_le_left e d), ← apply_decreaseExponent (min_le_right e d),
            ← add_mul, ← Int.cast_add]
          exact normalize_rounds

/-! ## Coordinates -/

/-- The other sign is put and nothing else. -/
theorem ofFloat_neg : ofFloat (-x) = (ofFloat x).opposite := by
  rw [ofFloat_eq_ofUnpacked (x := x)]
  change ofFloat (.ofModel (.pack x.toModel.unpack.neg)) = _
  cases hx : x.toModel.unpack with
  | notANumber => exact ofFloat_pack_notANumber
  | infinity s =>
      refine ofFloat_pack_infinity.trans ?_
      cases s <;> rfl
  | zero s =>
      refine ofFloat_pack_zero.trans ?_
      cases s <;> rfl
  | finite s m e hm =>
      obtain ⟨hf, he⟩ := fits_of_unpack hx
      refine (ofFloat_pack_finite hf).trans ?_
      rw [if_pos he]
      cases s <;> rfl

theorem toUInt64_of_neg {c : Int64} (h : c < 0) : ((0 - c).toUInt64.toNat : ℤ) = -c.toInt := by
  have hlt : c.toInt < 0 := Int64.lt_iff_toInt_lt.mp h
  have hc : c.toInt = c.toBitVec.toInt := rfl
  have hsub : (0 - c).toUInt64.toNat = (0#64 - c.toBitVec).toNat := rfl
  rw [hc, BitVec.toInt_eq_toNat_cond] at hlt ⊢
  rw [hsub, BitVec.toNat_sub, BitVec.toNat_zero]
  have := c.toBitVec.isLt
  split at hlt
  · omega
  · rename_i hge
    rw [if_neg hge]
    omega

theorem toUInt64_of_nonneg {c : Int64} (h : ¬ c < 0) : (c.toUInt64.toNat : ℤ) = c.toInt := by
  have hle : 0 ≤ c.toInt := Int.not_lt.mp fun hlt => h (Int64.lt_iff_toInt_lt.mpr hlt)
  rw [Int64.toNat_toUInt64_of_le (Int64.not_lt.mp h)]
  exact Int.toNat_of_nonneg hle

/-- A coordinate as a number is rounded to it. -/
theorem ofCoordinate_rounds {c : Int64} : Rounds c.toInt (ofFloat (ofCoordinate c)) := by
  unfold ofCoordinate
  split
  · rename_i hc
    have hr := (toFloat_rounds (w := (0 - c).toUInt64)).opposite
    rw [← Int.cast_natCast, toUInt64_of_neg hc, Int.cast_neg, neg_neg] at hr
    rw [ofFloat_neg]
    exact hr
  · rename_i hc
    have hr := toFloat_rounds (w := c.toUInt64)
    rwa [← Int.cast_natCast, toUInt64_of_nonneg hc] at hr

end Placard.Binary
