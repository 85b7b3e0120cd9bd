/-
# Rounding

The result of an operation is the exact one, rounded.  What is needed of that here is that no number
of the format is passed: what is exactly at most such a number is still at most that number when it
has been rounded, and the same with "at least" (`Rounds`).

An operation computes a significand that may be cut off (`CutOff`), with two bits that tell whether
something is missing.  The significand is brought into the place that the format has for it
(`RoundedTo`), where it may carry over into the next one, and packed.  `CutOff.rounds_pack` puts these
steps together; it is the one law that the operations are proved from.
-/
import Placard.Proofs.Number.Value

namespace Placard.Binary
open Float.Model Float.Model.UnpackedFloat

variable {em : ExtendedMantissa} {v q : ℚ} {m k : ℕ} {e : ℤ} {acc : Accuracy}

/-! ## What is cut off -/

/-- The mantissa is `v` cut off to a whole number, and its two bits tell whether something has been
cut off. -/
structure CutOff (em : ExtendedMantissa) (v : ℚ) : Prop where
  le : (em.mantissa : ℚ) ≤ v
  lt : v < em.mantissa + 1
  rest : (em.roundBit || em.stickyBit) = true → (em.mantissa : ℚ) < v

@[simp] theorem ofMantissaAndAccuracy_mantissa :
    (ExtendedMantissa.ofMantissaAndAccuracy m acc).mantissa = m := by
  unfold ExtendedMantissa.ofMantissaAndAccuracy
  split <;> rfl

theorem cutOff_exact : CutOff (.ofMantissaAndAccuracy m .exact) m :=
  ⟨le_rfl, lt_add_one _, Bool.noConfusion⟩

/-- A quotient is cut off to its whole part. -/
theorem cutOff_quotient {n d : ℕ} (hd : 0 < d) :
    CutOff (.ofMantissaAndAccuracy (n / d) (accuracyOfFraction (n % d) d)) (n / d) := by
  have hdiv : (n : ℚ) = d * (n / d : ℕ) + (n % d : ℕ) := by exact_mod_cast (Nat.div_add_mod n d).symm
  have hmod : ((n % d : ℕ) : ℚ) < d := by exact_mod_cast Nat.mod_lt n hd
  have hpos : (0 : ℚ) < d := by exact_mod_cast hd
  refine ⟨?_, ?_, fun hrest => ?_⟩
  · rw [ofMantissaAndAccuracy_mantissa, le_div_iff₀ hpos, hdiv]
    have : (0 : ℚ) ≤ (n % d : ℕ) := by positivity
    linarith
  · rw [ofMantissaAndAccuracy_mantissa, div_lt_iff₀ hpos]
    linarith
  · have hne : n % d ≠ 0 := fun h0 => by
      rw [accuracyOfFraction, if_pos h0] at hrest
      cases hrest
    have : (0 : ℚ) < (n % d : ℕ) := by exact_mod_cast Nat.pos_of_ne_zero hne
    rw [ofMantissaAndAccuracy_mantissa, lt_div_iff₀ hpos]
    linarith

theorem CutOff.shiftRightOne (h : CutOff em v) : CutOff em.shiftRightOne (v / 2) := by
  have hdiv : (em.mantissa : ℚ) = 2 * (em.mantissa / 2 : ℕ) + (em.mantissa % 2 : ℕ) := by
    exact_mod_cast (Nat.div_add_mod em.mantissa 2).symm
  have hmod : ((em.mantissa % 2 : ℕ) : ℚ) ≤ 1 := by
    exact_mod_cast Nat.le_of_lt_succ (Nat.mod_lt em.mantissa two_pos)
  have hnonneg : (0 : ℚ) ≤ (em.mantissa % 2 : ℕ) := by positivity
  obtain ⟨hle, hlt, hrest⟩ := h
  refine ⟨?_, ?_, fun hbits => ?_⟩
  · change ((em.mantissa / 2 : ℕ) : ℚ) ≤ v / 2
    linarith
  · change v / 2 < ((em.mantissa / 2 : ℕ) : ℚ) + 1
    linarith
  · change ((em.mantissa / 2 : ℕ) : ℚ) < v / 2
    rcases Bool.or_eq_true_iff.mp hbits with hodd | hbits
    · have hone : em.mantissa % 2 = 1 := by
        have : em.mantissa % 2 ≠ 0 := by simpa [ExtendedMantissa.shiftRightOne] using hodd
        omega
      rw [hone] at hdiv
      push_cast at hdiv
      linarith
    · have := hrest hbits
      linarith

theorem CutOff.shiftRight (h : CutOff em v) (n : ℕ) : CutOff (em >>> n) (v / 2 ^ n) := by
  change CutOff (n.repeat ExtendedMantissa.shiftRightOne em) _
  induction n with
  | zero => simpa [Nat.repeat] using h
  | succ n ih =>
      rw [Nat.repeat, pow_succ, ← div_div]
      exact ih.shiftRightOne

/-- The mantissa is rounded to itself or to the next one, and to itself if nothing is cut off. -/
theorem roundedMantissa_cases (em : ExtendedMantissa) : em.roundedMantissa = em.mantissa ∨
    em.roundedMantissa = em.mantissa + 1 ∧ (em.roundBit || em.stickyBit) = true := by
  obtain ⟨m, round, sticky⟩ := em
  cases round with
  | false =>
      cases sticky with
      | false => exact Or.inl rfl
      | true => exact Or.inl rfl
  | true =>
      cases sticky with
      | false =>
          change m + m % 2 = m ∨ m + m % 2 = m + 1 ∧ _
          rcases Nat.mod_two_eq_zero_or_one m with h | h
          · exact Or.inl (by rw [h, Nat.add_zero])
          · exact Or.inr ⟨by rw [h], rfl⟩
      | true => exact Or.inr ⟨rfl, rfl⟩

theorem CutOff.le_roundedMantissa (h : CutOff em v) (hk : (k : ℚ) ≤ v) : k ≤ em.roundedMantissa := by
  have hle : k ≤ em.mantissa := by
    have := hk.trans_lt h.lt
    exact Nat.le_of_lt_succ (by exact_mod_cast this)
  rcases roundedMantissa_cases em with hr | ⟨hr, -⟩
  · omega
  · omega

theorem CutOff.roundedMantissa_le (h : CutOff em v) (hk : v ≤ k) : em.roundedMantissa ≤ k := by
  rcases roundedMantissa_cases em with hr | ⟨hr, hrest⟩
  · rw [hr]
    exact_mod_cast h.le.trans hk
  · rw [hr]
    exact_mod_cast (h.rest hrest).trans_le hk

/-! ## Places -/

/-- The place of the last bit of a number that begins with the bits of `m` in place `e`. -/
def place (m : ℕ) (e : ℤ) : ℤ := max (m.log2 + e - 52) (-1074)

theorem targetExponent_eq : Format.binary64.targetExponent (totalExponent m e) = place m e := by
  change max ((m.log2 : ℤ) + 1 + e - 53) (-1074) = max (m.log2 + e - 52) (-1074)
  omega

/-- The number `q` has been rounded to `r` in place `e`. -/
structure RoundedTo (q : ℚ) (r : ℕ) (e : ℤ) : Prop where
  nonneg : 0 ≤ q
  le : -1074 ≤ e
  /-- Whole numbers in this place are not passed. -/
  lower : ∀ k : ℕ, k * 2 ^ e ≤ q → k ≤ r
  upper : ∀ k : ℕ, q ≤ k * 2 ^ e → r ≤ k
  /-- The place is the right one. -/
  large : e ≠ -1074 → 2 ^ 52 * 2 ^ e ≤ q
  small : q ≤ 2 ^ 53 * 2 ^ e

/-- A number of the format whose significand may have been carried over. -/
theorem shiftToTargetExponent_exact {r : ℕ} (hr : r ≤ 2 ^ 53) (he : -1074 ≤ e) :
    shiftToTargetExponent .binary64 r e .exact =
      if r < 2 ^ 53 then (⟨r, false, false⟩, e) else (⟨2 ^ 52, false, false⟩, e + 1) := by
  unfold shiftToTargetExponent
  dsimp only
  rw [targetExponent_eq]
  unfold shiftToExponent
  dsimp only
  split
  · rename_i hlt
    have hlog : r.log2 ≤ 52 := by
      by_cases h0 : r = 0
      · rw [h0]
        decide
      · exact Nat.le_of_lt_succ ((Nat.log2_lt h0).mpr hlt)
    have hshift : (place r e - e).toNat = 0 := by
      unfold place
      omega
    rw [hshift]
    exact congrArg _ (Int.add_zero e)
  · obtain rfl : r = 2 ^ 53 := by omega
    have hshift : (place (2 ^ 53) e - e).toNat = 1 := by
      unfold place
      rw [Nat.log2_two_pow]
      omega
    rw [hshift]
    rfl

/-- The leading bit of a mantissa at its place in the format. -/
theorem leading_mul (m : ℕ) (e : ℤ) :
    (2 : ℚ) ^ 52 * 2 ^ ((m.log2 : ℤ) + e - 52) = 2 ^ m.log2 * 2 ^ e := by
  rw [← zpow_natCast, ← zpow_natCast, ← zpow_add₀ two_ne_zero, ← zpow_add₀ two_ne_zero]
  congr 1
  push_cast
  ring

/-- Cutting off rounds. -/
theorem CutOff.roundedTo (h : CutOff (.ofMantissaAndAccuracy m acc) v) (he : e ≤ place m e) :
    RoundedTo (v * 2 ^ e) (shiftToTargetExponent .binary64 m e acc).1.roundedMantissa
      (shiftToTargetExponent .binary64 m e acc).2 := by
  unfold shiftToTargetExponent
  dsimp only
  rw [targetExponent_eq]
  unfold shiftToExponent
  dsimp only
  obtain ⟨s, hs⟩ := Int.eq_ofNat_of_zero_le (Int.sub_nonneg_of_le he)
  have hplace : e + s = place m e := by omega
  rw [hs, Int.toNat_natCast, hplace]
  have hv : v * 2 ^ e = v / 2 ^ s * 2 ^ place m e := by
    rw [← hplace, zpow_add₀ two_ne_zero, zpow_natCast, mul_comm (2 ^ e), ← mul_assoc,
      div_mul_cancel₀ v (by positivity)]
  have hpos : (0 : ℚ) < 2 ^ place m e := by positivity
  have hcut := h.shiftRight s
  have hle : (m : ℚ) ≤ v := by simpa using h.le
  have hlt : v < m + 1 := by simpa using h.lt
  have hnonneg : 0 ≤ v := le_trans (Nat.cast_nonneg m) hle
  refine ⟨by positivity, le_max_right _ _, fun k hk => ?_, fun k hk => ?_, fun hne => ?_, ?_⟩
  · rw [hv, mul_le_mul_iff_left₀ hpos] at hk
    exact hcut.le_roundedMantissa hk
  · rw [hv, mul_le_mul_iff_left₀ hpos] at hk
    exact hcut.roundedMantissa_le hk
  · -- then the place is that of the leading bit, which is there
    have hlead : place m e = m.log2 + e - 52 := by
      unfold place at hne ⊢
      omega
    have hm : m ≠ 0 := by
      rintro rfl
      rw [Nat.log2_zero] at hlead
      omega
    rw [hlead, leading_mul]
    gcongr
    exact le_trans (by exact_mod_cast Nat.log2_self_le hm) hle
  · have hlead : (m.log2 : ℤ) + e - 52 ≤ place m e := le_max_left _ _
    calc v * 2 ^ e ≤ 2 ^ (m.log2 + 1) * 2 ^ e := by
          gcongr
          exact hlt.le.trans (by exact_mod_cast Nat.lt_log2_self)
      _ = 2 ^ 53 * 2 ^ ((m.log2 : ℤ) + e - 52) := by
          rw [pow_succ, mul_right_comm, ← leading_mul]
          ring
      _ ≤ 2 ^ 53 * 2 ^ place m e := by
          gcongr
          norm_num

/-! ## The law of rounding -/

/-- A number of the format. -/
def IsDouble (q : ℚ) : Prop :=
  ∃ z e : ℤ, z.natAbs < 2 ^ 53 ∧ -1074 ≤ e ∧ e ≤ 971 ∧ q = z * 2 ^ e

/-- What `q` is rounded to: no number of the format is passed. -/
structure Rounds (q : ℚ) (b : Binary) : Prop where
  atMost : ∀ p, IsDouble p → q ≤ p → b.AtMost p
  atLeast : ∀ p, IsDouble p → p ≤ q → b.AtLeast p

variable {p : ℚ} {r : ℕ} {s : Sign}

theorem IsDouble.exists_nat (h : IsDouble p) (hp : 0 ≤ p) :
    ∃ (n : ℕ) (e : ℤ), n < 2 ^ 53 ∧ -1074 ≤ e ∧ e ≤ 971 ∧ p = n * 2 ^ e := by
  obtain ⟨z, e, hz, hle, hge, rfl⟩ := h
  have hz0 : 0 ≤ z := by
    by_contra hneg
    have hz1 : (z : ℚ) < 0 := by exact_mod_cast Int.not_le.mp hneg
    exact absurd hp (not_le.mpr (mul_neg_of_neg_of_pos hz1 (by positivity)))
  obtain ⟨n, rfl⟩ := Int.eq_ofNat_of_zero_le hz0
  exact ⟨n, e, hz, hle, hge, by rw [Int.cast_natCast]⟩

/-- A number of the format is whole in a place that is not above its own. -/
theorem mul_zpow_of_le {n : ℕ} {d : ℤ} (h : d ≤ e) :
    (n : ℚ) * 2 ^ e = (n * 2 ^ (e - d).toNat : ℕ) * 2 ^ d := by
  obtain ⟨k, hk⟩ := Int.eq_ofNat_of_zero_le (Int.sub_nonneg_of_le h)
  obtain rfl : e = d + k := by omega
  rw [hk, Int.toNat_natCast, zpow_add₀ two_ne_zero, zpow_natCast]
  push_cast
  ring

theorem RoundedTo.le_of_le (h : RoundedTo q r e) (hp : IsDouble p) (hle : p ≤ q) :
    p ≤ r * 2 ^ e := by
  by_cases hp0 : 0 ≤ p
  · obtain ⟨n, d, hn, hd, -, rfl⟩ := hp.exists_nat hp0
    by_cases hde : e ≤ d
    · rw [mul_zpow_of_le hde] at hle ⊢
      gcongr
      exact h.lower _ hle
    · have hlarge := h.large (by omega)
      have hfull : 2 ^ 52 ≤ r := h.lower (2 ^ 52) (by exact_mod_cast hlarge)
      calc (n : ℚ) * 2 ^ d ≤ 2 ^ 52 * 2 ^ e := (mul_zpow_lt hn (Int.not_le.mp hde)).le
        _ ≤ r * 2 ^ e := by
          gcongr
          exact_mod_cast hfull
  · exact (not_le.mp hp0).le.trans (by positivity)

theorem RoundedTo.ge_of_ge (h : RoundedTo q r e) (hp : IsDouble p) (hle : q ≤ p) :
    r * 2 ^ e ≤ p := by
  obtain ⟨n, d, hn, hd, -, rfl⟩ := hp.exists_nat (h.nonneg.trans hle)
  by_cases hde : e ≤ d
  · rw [mul_zpow_of_le hde] at hle ⊢
    gcongr
    exact h.upper _ hle
  · have hlarge := h.large (by omega)
    exact absurd (hlarge.trans hle) (not_le.mpr (mul_zpow_lt hn (Int.not_le.mp hde)))

/-! ## Signs -/

/-- The number with the other sign. -/
def opposite : Binary → Binary
  | .nan => .nan
  | .infinite negative => .infinite !negative
  | .finite negative m e => .finite (!negative) m e

theorem signed_not {negative : Bool} {n : ℕ} : signed (!negative) n = -signed negative n := by
  cases negative with
  | false => rfl
  | true => exact (neg_neg (n : ℤ)).symm

theorem atMost_opposite {b : Binary} : b.opposite.AtMost p ↔ b.AtLeast (-p) := by
  cases b with
  | nan => exact Iff.rfl
  | infinite negative => exact iff_of_eq (Bool.not_eq_true' negative)
  | finite negative m e =>
      change (signed (!negative) m : ℚ) * 2 ^ e ≤ p ↔ -p ≤ signed negative m * 2 ^ e
      rw [signed_not, Int.cast_neg, neg_mul, neg_le]

theorem atLeast_opposite {b : Binary} : b.opposite.AtLeast p ↔ b.AtMost (-p) := by
  cases b with
  | nan => exact Iff.rfl
  | infinite negative => exact iff_of_eq (Bool.not_eq_false' negative)
  | finite negative m e =>
      change p ≤ (signed (!negative) m : ℚ) * 2 ^ e ↔ signed negative m * 2 ^ e ≤ -p
      rw [signed_not, Int.cast_neg, neg_mul, le_neg]

theorem IsDouble.neg (h : IsDouble p) : IsDouble (-p) := by
  obtain ⟨z, e, hz, hle, hge, rfl⟩ := h
  exact ⟨-z, e, by rwa [Int.natAbs_neg], hle, hge, by rw [Int.cast_neg, neg_mul]⟩

/-- Rounding does not look at the sign. -/
theorem Rounds.opposite {b : Binary} (h : Rounds q b) : Rounds (-q) b.opposite where
  atMost _ hp hle := atMost_opposite.mpr (h.atLeast _ hp.neg (neg_le.mp hle))
  atLeast _ hp hle := atLeast_opposite.mpr (h.atMost _ hp.neg (le_neg.mp hle))

/-! ## Results -/

/-- A finite number comes out as what it is worth, unless it is too large for the format. -/
theorem RoundedTo.rounds_pack {n : ℕ} {d : ℤ} {hn : 0 < n} (h : RoundedTo q r e) (hf : Fits n d)
    (hworth : (r : ℚ) * 2 ^ e = n * 2 ^ d) :
    Rounds (withSign s q) (ofFloat (.ofModel (.pack (.finite s n d hn)))) := by
  have hpos : Rounds q (if d ≤ 971 then .finite false n d else .infinite false) := by
    refine ⟨fun p hp hle => ?_, fun p hp hle => ?_⟩
    · have hge := hworth ▸ h.ge_of_ge hp hle
      split
      · exact hge
      · -- what is too large is above all numbers of the format
        obtain ⟨k, f, hk, -, hf', rfl⟩ := hp.exists_nat (h.nonneg.trans hle)
        have hfull : 2 ^ 52 ≤ n := hf.full.resolve_right (by omega)
        have hlt : (k : ℚ) * 2 ^ f < n * 2 ^ d := by
          refine (mul_zpow_lt hk (show f < d by omega)).trans_le ?_
          gcongr
          exact_mod_cast hfull
        exact absurd hge (not_le.mpr hlt)
    · have hle' := hworth ▸ h.le_of_le hp hle
      split
      · exact hle'
      · rfl
  rw [ofFloat_pack_finite hf]
  cases s with
  | positive => exact hpos
  | negative =>
      have hneg := hpos.opposite
      rw [apply_ite Binary.opposite] at hneg
      exact hneg

theorem RoundedTo.rounds_pack_zero (h : RoundedTo q 0 e) :
    Rounds (withSign s q) (ofFloat (.ofModel (.pack (.zero s)))) := by
  have hworth : ((signed false 0 : ℤ) : ℚ) * 2 ^ (-1074 : ℤ) = (0 : ℕ) * 2 ^ e := by
    simp [signed]
  have hpos : Rounds q (.finite false 0 (-1074)) :=
    ⟨fun p hp hle => hworth.trans_le (h.ge_of_ge hp hle),
      fun p hp hle => (h.le_of_le hp hle).trans_eq hworth.symm⟩
  rw [ofFloat_pack_zero]
  cases s with
  | positive => exact hpos
  | negative => exact hpos.opposite

theorem CutOff.rounds_pack (h : CutOff (.ofMantissaAndAccuracy m acc) v) (he : e ≤ place m e) :
    Rounds (withSign s (v * 2 ^ e))
      (ofFloat (.ofModel (.pack (roundWithAccuracy .binary64 s m e acc)))) := by
  have hr := h.roundedTo he
  unfold roundWithAccuracy
  dsimp only
  generalize (shiftToTargetExponent .binary64 m e acc).1.roundedMantissa = r at hr ⊢
  generalize (shiftToTargetExponent .binary64 m e acc).2 = d at hr ⊢
  have hle : r ≤ 2 ^ 53 := hr.upper _ (by exact_mod_cast hr.small)
  have hfull : d ≠ -1074 → 2 ^ 52 ≤ r := fun hd => hr.lower _ (by exact_mod_cast hr.large hd)
  have hcarry := shiftToTargetExponent_exact hle hr.le
  generalize shiftToTargetExponent .binary64 r d .exact = shifted at hcarry ⊢
  by_cases hlt : r < 2 ^ 53
  · rw [if_pos hlt] at hcarry
    subst hcarry
    by_cases h0 : r = 0
    · subst h0
      exact hr.rounds_pack_zero
    · rw [dif_neg h0]
      exact hr.rounds_pack ⟨hlt, hr.le, or_iff_not_imp_right.mpr hfull⟩ rfl
  · -- the carry goes to the next place
    obtain rfl : r = 2 ^ 53 := by omega
    rw [if_neg hlt] at hcarry
    subst hcarry
    refine hr.rounds_pack ⟨Nat.pow_lt_pow_right one_lt_two (by decide), ?_, Or.inl le_rfl⟩ ?_
    · have := hr.le
      omega
    · rw [zpow_add₀ two_ne_zero]
      push_cast
      ring

end Placard.Binary
