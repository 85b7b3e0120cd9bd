/-
# Coordinates and rectangles in whole numbers

A sum of coordinates that has a value is exact (`plus?_eq_some`, `minus?_eq_some`), so coordinates are
compared and added as whole numbers here, and what remains is linear arithmetic.

| | in whole numbers |
| :-- | :-- |
| a pixel of a rectangle | between the edges (`PixelRect.Covers`) |
| the width and the height of a rectangle | `columns` and `rows`, if they are coordinates |
| whether it is degenerate | known if the width tells, or if it leaves it to a height that does |

Only far from zero a sum is no coordinate.  `Within n` bounds a coordinate; the bounds add up as the
coordinates do, and so tell which sums have a value.
-/
import Mathlib.Algebra.Group.Int.Defs
import Mathlib.Algebra.Group.Nat.Defs
import Placard.Geometry

namespace Placard

variable {a b c : Int64} {z : Int} {m n k : Nat}

/-! ## Sums -/

theorem coordinate?_eq_some : coordinate? z = some c ↔ c.toInt = z := by
  have hmin : coordinateMin = -2 ^ 63 := rfl
  have hmax : coordinateMax = 2 ^ 63 - 1 := rfl
  unfold coordinate?
  split
  · rw [Option.some.injEq]
    constructor
    · rintro rfl
      exact Int64.toInt_ofInt_of_le (by omega) (by omega)
    · rintro rfl
      exact Int64.ofInt_toInt c
  · have hlo := c.le_toInt
    have hhi := c.toInt_lt
    exact iff_of_false (fun h => (by cases h)) (by omega)

theorem coordinate?_eq_none : coordinate? z = none ↔ z < -2 ^ 63 ∨ 2 ^ 63 ≤ z := by
  have hmin : coordinateMin = -2 ^ 63 := rfl
  have hmax : coordinateMax = 2 ^ 63 - 1 := rfl
  unfold coordinate?
  split
  · exact iff_of_false (fun h => (by cases h)) (by omega)
  · exact iff_of_true rfl (by omega)

theorem exists_coordinate? (hlo : -2 ^ 63 ≤ z) (hhi : z < 2 ^ 63) :
    ∃ c, coordinate? z = some c ∧ c.toInt = z :=
  ⟨Int64.ofInt z, coordinate?_eq_some.mpr (Int64.toInt_ofInt_of_le hlo hhi),
    Int64.toInt_ofInt_of_le hlo hhi⟩

theorem plus?_eq_some : plus? a b = some c ↔ c.toInt = a.toInt + b.toInt := coordinate?_eq_some

theorem minus?_eq_some : minus? a b = some c ↔ c.toInt = a.toInt - b.toInt := coordinate?_eq_some

theorem toInt_add_eq (hlo : -2 ^ 63 ≤ a.toInt + b.toInt) (hhi : a.toInt + b.toInt < 2 ^ 63) :
    (a + b).toInt = a.toInt + b.toInt := by
  rw [← Int64.toInt_ofInt_of_le hlo hhi, Int64.ofInt_add, Int64.ofInt_toInt, Int64.ofInt_toInt]

theorem toInt_sub_eq (hlo : -2 ^ 63 ≤ a.toInt - b.toInt) (hhi : a.toInt - b.toInt < 2 ^ 63) :
    (a - b).toInt = a.toInt - b.toInt := by
  rw [← Int64.toInt_ofInt_of_le hlo hhi, Int64.ofInt_sub, Int64.ofInt_toInt, Int64.ofInt_toInt]

theorem toInt_ofInt_of_natAbs_lt (h : z.natAbs < 2 ^ 63) : (Int64.ofInt z).toInt = z :=
  Int64.toInt_ofInt_of_le (by omega) (by omega)

theorem toInt_max : (max a b).toInt = max a.toInt b.toInt := by
  change (if a ≤ b then b else a).toInt = _
  by_cases h : a ≤ b
  · rw [if_pos h, Int.max_eq_right (Int64.le_iff_toInt_le.mp h)]
  · rw [if_neg h, Int.max_eq_left (Int.le_of_not_le (mt Int64.le_iff_toInt_le.mpr h))]

theorem toInt_min : (min a b).toInt = min a.toInt b.toInt := by
  change (if a ≤ b then a else b).toInt = _
  by_cases h : a ≤ b
  · rw [if_pos h, Int.min_eq_left (Int64.le_iff_toInt_le.mp h)]
  · rw [if_neg h, Int.min_eq_right (Int.le_of_not_le (mt Int64.le_iff_toInt_le.mpr h))]

theorem toInt_half : (a / 2).toInt = a.toInt.tdiv 2 := Int64.toInt_div_of_ne_right _ _ (by decide)

/-! ## Near zero -/

/-- The coordinate is at most `n` away from zero. -/
def Within (n : Nat) (a : Int64) : Prop := a.toInt.natAbs ≤ n

instance {n : Nat} {a : Int64} : Decidable (Within n a) := Nat.decLe _ _

namespace Within

theorem mono (h : Within m a) (hmn : m ≤ n) : Within n a := Nat.le_trans h hmn

/-- The bounds of two coordinates add up to the bound of their sum. -/
theorem plus? (ha : Within m a) (hb : Within n b) (h : m + n < 2 ^ 63) :
    ∃ c, Placard.plus? a b = some c ∧ c.toInt = a.toInt + b.toInt ∧ Within (m + n) c := by
  unfold Within at ha hb
  obtain ⟨c, hc, hint⟩ := exists_coordinate? (z := a.toInt + b.toInt) (by omega) (by omega)
  refine ⟨c, hc, hint, ?_⟩
  unfold Within
  omega

theorem minus? (ha : Within m a) (hb : Within n b) (h : m + n < 2 ^ 63) :
    ∃ c, Placard.minus? a b = some c ∧ c.toInt = a.toInt - b.toInt ∧ Within (m + n) c := by
  unfold Within at ha hb
  obtain ⟨c, hc, hint⟩ := exists_coordinate? (z := a.toInt - b.toInt) (by omega) (by omega)
  refine ⟨c, hc, hint, ?_⟩
  unfold Within
  omega

theorem half (ha : Within (n + n) a) : Within n (a / 2) := by
  unfold Within at ha ⊢
  rw [toInt_half, Int.natAbs_tdiv]
  change a.toInt.natAbs / 2 ≤ n
  omega

end Within

/-! ## Rectangles -/

namespace PixelRect

variable {r s : PixelRect} {x y : Int} {w : Int64}

/-- The pixel in column `x` of row `y` lies in the rectangle. -/
def Covers (r : PixelRect) (x y : Int) : Prop :=
  r.left.toInt ≤ x ∧ x < r.right.toInt ∧ r.top.toInt ≤ y ∧ y < r.bottom.toInt

instance : Decidable (r.Covers x y) := instDecidableAnd

theorem contains_iff_covers {x y : Int64} :
    r.contains x y = true ↔ r.Covers x.toInt y.toInt := by
  unfold contains Covers
  simp only [Bool.and_eq_true, decide_eq_true_eq, Int64.le_iff_toInt_le, Int64.lt_iff_toInt_lt,
    and_assoc]

theorem covers_intersect : (r.intersect s).Covers x y ↔ r.Covers x y ∧ s.Covers x y := by
  unfold Covers intersect
  dsimp only
  rw [toInt_max, toInt_max, toInt_min, toInt_min]
  omega

theorem covers_clipped {clip : Option PixelRect} :
    (r.clipped clip).Covers x y ↔ r.Covers x y ∧ ∀ c ∈ clip, c.Covers x y := by
  cases clip with
  | none => simp [clipped]
  | some c => simpa [clipped] using covers_intersect

theorem width_eq_some : r.width = some w ↔ w.toInt = r.columns := minus?_eq_some

theorem height_eq_some : r.height = some w ↔ w.toInt = r.rows := minus?_eq_some

/-- A distance is a coordinate. -/
def IsSide (z : Int) : Prop := -2 ^ 63 ≤ z ∧ z < 2 ^ 63

instance : Decidable (IsSide z) := instDecidableAnd

theorem width_eq_none : r.width = none ↔ ¬ IsSide r.columns := by
  unfold IsSide
  exact coordinate?_eq_none.trans (by change r.columns < _ ∨ _ ≤ r.columns ↔ _; omega)

theorem height_eq_none : r.height = none ↔ ¬ IsSide r.rows := by
  unfold IsSide
  exact coordinate?_eq_none.trans (by change r.rows < _ ∨ _ ≤ r.rows ↔ _; omega)

/-- Whether a rectangle is degenerate is known by its width, or else by its height. -/
theorem isDegenerate_eq : r.isDegenerate =
    if ¬ IsSide r.columns then none
    else if r.columns ≤ 0 then some true
    else if ¬ IsSide r.rows then none
    else some (decide (r.rows ≤ 0)) := by
  have hpos {w : Int64} {z : Int} (h : w.toInt = z) : w ≤ 0 ↔ z ≤ 0 := by
    rw [Int64.le_iff_toInt_le, h]
    exact Iff.rfl
  unfold isDegenerate
  cases hw : r.width with
  | none => rw [if_pos (width_eq_none.mp hw)]; rfl
  | some w =>
      have hside : ¬ ¬ IsSide r.columns := mt width_eq_none.mpr (by rw [hw]; nofun)
      rw [if_neg hside]
      simp only [Option.bind_eq_bind, Option.bind_some, hpos (width_eq_some.mp hw)]
      split
      · rfl
      cases hh : r.height with
      | none => rw [if_pos (height_eq_none.mp hh)]; rfl
      | some h =>
          have hside : ¬ ¬ IsSide r.rows := mt height_eq_none.mpr (by rw [hh]; nofun)
          rw [if_neg hside]
          simp only [Option.bind_some, hpos (height_eq_some.mp hh)]
          rfl

theorem isDegenerate_eq_false : r.isDegenerate = some false ↔
    (0 < r.columns ∧ r.columns < 2 ^ 63) ∧ 0 < r.rows ∧ r.rows < 2 ^ 63 := by
  rw [isDegenerate_eq]
  unfold IsSide
  split
  · exact iff_of_false nofun (by omega)
  split
  · exact iff_of_false nofun (by omega)
  split
  · exact iff_of_false nofun (by omega)
  rw [Option.some.injEq, decide_eq_false_iff_not]
  omega

theorem isDegenerate_eq_true : r.isDegenerate = some true ↔
    (-2 ^ 63 ≤ r.columns ∧ r.columns ≤ 0) ∨
      (0 < r.columns ∧ r.columns < 2 ^ 63) ∧ -2 ^ 63 ≤ r.rows ∧ r.rows ≤ 0 := by
  rw [isDegenerate_eq]
  unfold IsSide
  split
  · exact iff_of_false nofun (by omega)
  split
  · exact iff_of_true rfl (by omega)
  split
  · exact iff_of_false nofun (by omega)
  rw [Option.some.injEq, decide_eq_true_iff]
  omega

theorem isDegenerate_eq_none : r.isDegenerate = none ↔
    ¬ IsSide r.columns ∨ 0 < r.columns ∧ ¬ IsSide r.rows := by
  rw [isDegenerate_eq]
  unfold IsSide
  split
  · exact iff_of_true rfl (.inl ‹_›)
  split
  · exact iff_of_false nofun (by omega)
  split
  · exact iff_of_true rfl (by omega)
  · exact iff_of_false nofun (by omega)

/-- All edges are at most `n` away from zero. -/
structure Within (n : Nat) (r : PixelRect) : Prop where
  left : Placard.Within n r.left
  top : Placard.Within n r.top
  right : Placard.Within n r.right
  bottom : Placard.Within n r.bottom

instance {n : Nat} {r : PixelRect} : Decidable (r.Within n) :=
  decidable_of_iff (Placard.Within n r.left ∧ Placard.Within n r.top ∧ Placard.Within n r.right ∧
      Placard.Within n r.bottom)
    ⟨fun ⟨left, top, right, bottom⟩ => ⟨left, top, right, bottom⟩,
      fun ⟨left, top, right, bottom⟩ => ⟨left, top, right, bottom⟩⟩

end PixelRect
end Placard
