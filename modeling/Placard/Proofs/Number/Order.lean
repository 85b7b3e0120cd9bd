/-
# The order of floating numbers

Of two floating numbers one is less than the other or they are equal, unless one of them is not a
number at all: then every comparison fails.  So a check that refuses what compares as too small lets
through what does not compare (`not_le_iff`, `not_lt_iff`).
-/
import Placard.Number.Binary

namespace Placard
open Float.Model

variable {a b : UnpackedFloat} {x y : Float}

theorem compare_swap : b.compare a = (a.compare b).map Ordering.swap := by
  have hcomp {m n : Nat} {d e : Int} : (compare e d).then (compare n m) =
      ((compare d e).then (compare m n)).swap := by
    rw [Ordering.swap_then, ← Int.compare_swap d e, ← Nat.compare_swap m n]
  cases a with
  | notANumber => cases b <;> rfl
  | infinity s =>
      cases b with
      | notANumber => rfl
      | infinity s' => cases s <;> cases s' <;> rfl
      | zero s' => cases s <;> rfl
      | finite s' => cases s <;> rfl
  | zero s =>
      cases b with
      | notANumber => rfl
      | infinity s' => cases s' <;> rfl
      | zero s' => rfl
      | finite s' => cases s' <;> rfl
  | finite s m d =>
      cases b with
      | notANumber => rfl
      | infinity s' => cases s' <;> rfl
      | zero s' => cases s <;> rfl
      | finite s' n e =>
          cases s with
          | negative =>
              cases s' with
              | negative => exact congrArg (fun o => some (Ordering.swap o)) hcomp
              | positive => rfl
          | positive =>
              cases s' with
              | negative => rfl
              | positive => exact congrArg some hcomp

theorem isSome_compare : (a.compare b).isSome = !(a.isNaN || b.isNaN) := by
  cases a with
  | notANumber => cases b <;> rfl
  | infinity s =>
      cases b with
      | notANumber => rfl
      | infinity s' => cases s <;> cases s' <;> rfl
      | zero s' => cases s <;> rfl
      | finite s' => cases s <;> rfl
  | zero s =>
      cases b with
      | notANumber => rfl
      | infinity s' => cases s' <;> rfl
      | zero s' => rfl
      | finite s' => cases s' <;> rfl
  | finite s m d =>
      cases b with
      | notANumber => rfl
      | infinity s' => cases s' <;> rfl
      | zero s' => cases s <;> rfl
      | finite s' => cases s <;> cases s' <;> rfl

theorem compare_eq_none : a.compare b = none ↔ a.isNaN = true ∨ b.isNaN = true := by
  rw [← Option.isNone_iff_eq_none, ← Option.isSome_eq_false_iff, isSome_compare,
    Bool.not_eq_false', Bool.or_eq_true]

theorem le_iff_compare :
    x ≤ y ↔ (x.toModel.unpack.compare y.toModel.unpack).any (·.isLE) = true :=
  decide_eq_true_iff

theorem lt_iff_compare : x < y ↔ x.toModel.unpack.compare y.toModel.unpack = some .lt :=
  decide_eq_true_iff.trans beq_iff_eq

/-- A number that is not at most another one is above it, or one of the two is not a number. -/
theorem not_le_iff : ¬ x ≤ y ↔ y < x ∨ x.isNaN = true ∨ y.isNaN = true := by
  change _ ↔ _ ∨ x.toModel.unpack.isNaN = true ∨ y.toModel.unpack.isNaN = true
  rw [le_iff_compare, lt_iff_compare, ← compare_eq_none, compare_swap (b := y.toModel.unpack)]
  cases x.toModel.unpack.compare y.toModel.unpack with
  | none => simp
  | some o => cases o <;> simp

theorem not_lt_iff : ¬ x < y ↔ y ≤ x ∨ x.isNaN = true ∨ y.isNaN = true := by
  change _ ↔ _ ∨ x.toModel.unpack.isNaN = true ∨ y.toModel.unpack.isNaN = true
  rw [le_iff_compare, lt_iff_compare, ← compare_eq_none, compare_swap (b := y.toModel.unpack)]
  cases x.toModel.unpack.compare y.toModel.unpack with
  | none => simp
  | some o => cases o <;> simp

theorem isNaN_of_lt (h : x < y) : x.isNaN = false ∧ y.isNaN = false := by
  rw [← Bool.not_eq_true, ← Bool.not_eq_true, ← not_or]
  exact fun hn => not_lt_iff.mpr (Or.inr hn) h

theorem isNaN_of_le (h : x ≤ y) : x.isNaN = false ∧ y.isNaN = false := by
  rw [← Bool.not_eq_true, ← Bool.not_eq_true, ← not_or]
  exact fun hn => not_le_iff.mpr (Or.inr hn) h

end Placard
