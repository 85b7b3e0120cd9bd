/-
# The picture of a matrix

A picture has whole pixels for every module: as many as go into its side.  So each module is a square
block, and the blocks are a square in the middle of the picture (`Enlarged`).  The pixels before the
first block are told apart by the offset alone; those after the last one only by the module that
division leads to, which lies beyond the matrix.  So it is the bounds on that module that keep a module
of the next row from showing there, and that keep the lookup within the matrix (`render?_eq`).

A color that can be seen tells dark blocks from light ones, and any pixel of a block will do
(`Enlarged.sampled_eq`).
-/
import Placard.Proofs.Raster.Region
import Placard.Symbol.Matrix

namespace Placard

/-! ## Rows of entries -/

variable {α : Type} {width height x y : Nat}

theorem getElem?_ofFn_rows {f : Nat → Nat → α} (hx : x < width) (hy : y < height) :
    (Array.ofFn fun i : Fin (width * height) => f (i % width) (i / width))[y * width + x]? =
      some (f x y) := by
  have hmod : (y * width + x) % width = x := by
    rw [Nat.mul_add_mod', Nat.mod_eq_of_lt hx]
  have hdiv : (y * width + x) / width = y := by
    rw [Nat.mul_comm, Nat.mul_add_div (by omega), Nat.div_eq_of_lt hx, Nat.add_zero]
  rw [Array.getElem?_ofFn, dif_pos (Image.index_lt hx hy)]
  dsimp only
  rw [hmod, hdiv]

theorem Image.pixel?_ofFn {f : Nat → Nat → Rgba} (hx : x < width) (hy : y < height) :
    (Image.ofFn width height f).pixel? x y = some (f x y) := by
  rw [pixel?, if_pos (show x < (ofFn width height f).width from hx)]
  exact getElem?_ofFn_rows hx hy

/-- The image with the given pixels, if there is one in every place. -/
def Image.ofFn? (width height : Nat) (f : Nat → Nat → Option Rgba) : Option Image :=
  (Vector.ofFnM fun i : Fin (width * height) => f (i % width) (i / width)).map fun pixels =>
    ⟨width, height, pixels.toArray, pixels.size_toArray⟩

theorem Image.ofFn?_eq {f : Nat → Nat → Option Rgba} {g : Nat → Nat → Rgba}
    (h : ∀ x y, x < width → y < height → f x y = some (g x y)) :
    ofFn? width height f = some (ofFn width height g) := by
  have hpixels : (fun i : Fin (width * height) => f (i % width) (i / width)) =
      fun i : Fin (width * height) => pure (g (i % width) (i / width)) := by
    funext i
    have hpos : 0 < width := Nat.pos_of_mul_pos_right i.pos
    exact h _ _ (Nat.mod_lt _ hpos) (Nat.div_lt_of_lt_mul i.isLt)
  rw [ofFn?, hpixels, Vector.ofFnM_pure]
  rfl

namespace Matrix

variable {m : Matrix} {size : Nat} {color : Rgba} {img : Image} {side block offset : Nat}

/-! ## Modules -/

theorem isDark_ofFn {f : Nat → Nat → Bool} (hx : x < width) (hy : y < width) :
    (ofFn width f).isDark x y = f x y := by
  rw [isDark, Array.getD_eq_getD_getElem?]
  exact (congrArg (Option.getD · false) (getElem?_ofFn_rows hx hy)).trans rfl

theorem ext_isDark {a b : Matrix} (hwidth : a.width = b.width)
    (h : ∀ x y, x < a.width → y < a.width → a.isDark x y = b.isDark x y) : a = b := by
  obtain ⟨n, as, ha⟩ := a
  obtain ⟨_, bs, hb⟩ := b
  obtain rfl : n = _ := hwidth
  suffices as = bs by subst this; rfl
  refine Array.ext (ha.trans hb.symm) fun i hi hi' => ?_
  have hlt : i < n * n := ha ▸ hi
  have hpos : 0 < n := Nat.pos_of_mul_pos_right (Nat.zero_lt_of_lt hlt)
  have hdark := h (i % n) (i / n) (Nat.mod_lt _ hpos) (Nat.div_lt_of_lt_mul hlt)
  rw [isDark, isDark, Nat.div_add_mod', Array.getD_eq_getD_getElem?, Array.getD_eq_getD_getElem?,
    Array.getElem?_eq_getElem hi, Array.getElem?_eq_getElem hi'] at hdark
  exact hdark

/-- The module in column `x` of row `y`, if there is one. -/
def dark? (m : Matrix) (x y : Nat) : Option Bool :=
  if x < m.width then m.dark[y * m.width + x]? else none

theorem dark?_eq (hx : x < m.width) (hy : y < m.width) : m.dark? x y = some (m.isDark x y) := by
  have hlt : y * m.width + x < m.dark.size := m.size_eq ▸ Image.index_lt hx hy
  rw [dark?, if_pos hx, isDark, Array.getElem?_eq_getElem hlt, Array.getD_eq_getD_getElem?,
    Array.getElem?_eq_getElem hlt, Option.getD_some]

/-! ## Blocks of pixels -/

/-- The picture of a matrix where a module that is looked up has to be one of the matrix. -/
def render? (m : Matrix) (size : Nat) (color : Rgba) : Option Image :=
  let modules := max m.width 1
  let size := max size modules
  let block := size / modules
  let offset := (size - block * modules) / 2
  Image.ofFn? size size fun x y =>
    if x < offset ∨ y < offset then some .transparent
    else
      let (mx, my) := ((x - offset) / block, (y - offset) / block)
      if mx < modules ∧ my < modules then
        (m.dark? mx my).map fun dark => if dark then color else .transparent
      else some .transparent

theorem render?_eq (h : 0 < m.width) : m.render? size color = some (m.render size color) := by
  unfold render? render
  refine Image.ofFn?_eq fun x y _ _ => ?_
  rw [Nat.max_eq_left h]
  split
  · rfl
  · dsimp only
    generalize (x - _) / _ = mx
    generalize (y - _) / _ = my
    by_cases hin : mx < m.width ∧ my < m.width
    · rw [if_pos hin, dark?_eq hin.1 hin.2, Option.map_some]
      simp [hin]
    · rw [if_neg hin, if_neg fun hdark => hin ⟨hdark.1, hdark.2.1⟩]

/-- Without modules there is none to look up for the one pixel of the picture. -/
example : (⟨0, #[], rfl⟩ : Matrix).render? 1 .black = none := by decide +kernel

/-- The picture of a matrix, each module of which is a block of pixels.  The blocks are a square in the
middle of the picture. -/
structure Enlarged (m : Matrix) (color : Rgba) (img : Image) (side block offset : Nat) : Prop where
  sides_eq : img.sides = (side, side)
  square_le : offset + block * m.width ≤ side
  margins : side - (offset + block * m.width) = offset ∨
    side - (offset + block * m.width) = offset + 1
  modules : ∀ mx my dx dy, mx < m.width → my < m.width → dx < block → dy < block →
    img.pixel? (offset + block * mx + dx) (offset + block * my + dy) =
      some (if m.isDark mx my then color else .transparent)
  around : ∀ x y, x < side → y < side →
    ¬ (offset ≤ x ∧ x < offset + block * m.width ∧ offset ≤ y ∧ y < offset + block * m.width) →
      img.pixel? x y = some .transparent

/-- The color of a pixel, by the module that it belongs to. -/
def blockColor (m : Matrix) (block offset : Nat) (color : Rgba) (x y : Nat) : Rgba :=
  if x < offset ∨ y < offset then .transparent
  else if (x - offset) / block < m.width ∧ (y - offset) / block < m.width ∧
      m.isDark ((x - offset) / block) ((y - offset) / block) then color
  else .transparent

theorem render_eq (h : 0 < m.width) (hside : side = max size m.width) (hblock : block = side / m.width) :
    m.render size color =
      Image.ofFn side side (m.blockColor block ((side - block * m.width) / 2) color) := by
  subst hside hblock
  unfold render
  rw [Nat.max_eq_left h]
  rfl

theorem blockColor_module {mx my dx dy : Nat} (hmx : mx < m.width) (hmy : my < m.width)
    (hdx : dx < block) (hdy : dy < block) :
    m.blockColor block offset color (offset + block * mx + dx) (offset + block * my + dy) =
      if m.isDark mx my then color else .transparent := by
  have hdiv : ∀ {i d : Nat}, d < block → (offset + block * i + d - offset) / block = i := by
    intro i d hd
    rw [Nat.add_assoc, Nat.add_sub_cancel_left, Nat.mul_add_div (by omega), Nat.div_eq_of_lt hd,
      Nat.add_zero]
  rw [blockColor, if_neg (by omega), hdiv hdx, hdiv hdy]
  simp [hmx, hmy]

theorem blockColor_around (hblock : 0 < block) (h : ¬ (offset ≤ x ∧ x < offset + block * m.width ∧
    offset ≤ y ∧ y < offset + block * m.width)) :
    m.blockColor block offset color x y = .transparent := by
  rw [blockColor]
  split
  · rfl
  · rename_i hoffset
    -- the module that division leads to lies beyond the matrix
    refine if_neg fun ⟨hx, hy, _⟩ => h ?_
    rw [Nat.div_lt_iff_lt_mul hblock, Nat.mul_comm] at hx hy
    omega

theorem enlarged_render (h : 0 < m.width) (hside : side = max size m.width)
    (hblock : block = side / m.width) :
    m.Enlarged color (m.render size color) side block ((side - block * m.width) / 2) := by
  have hle : block * m.width ≤ side := hblock ▸ Nat.div_mul_le_self _ _
  have hpos : 0 < block := hblock ▸ Nat.div_pos (hside ▸ Nat.le_max_right _ _) h
  rw [render_eq h hside hblock]
  refine ⟨rfl, by omega, by omega, fun mx my dx dy hmx hmy hdx hdy => ?_, fun x y hx hy hout => ?_⟩
  · -- a block ends where the next one begins, and the last one ends in the picture
    have hlt : ∀ {i d : Nat}, i < m.width → d < block →
        (side - block * m.width) / 2 + block * i + d < side := by
      intro i d hi hd
      have hnext : block * (i + 1) ≤ block * m.width := Nat.mul_le_mul_left _ hi
      rw [Nat.mul_add_one] at hnext
      omega
    rw [Image.pixel?_ofFn (hlt hmx hdx) (hlt hmy hdy), blockColor_module hmx hmy hdx hdy]
  · rw [Image.pixel?_ofFn hx hy, blockColor_around hpos hout]

/-- The matrix that is read from a picture by one pixel for every module, in column `dx` of row `dy` of
its block: a module is dark if the pixel can be seen. -/
def sampled (img : Image) (width block offset : Nat) (dx dy : Nat → Nat → Nat) : Matrix :=
  ofFn width fun mx my =>
    (img.pixel? (offset + block * mx + dx mx my) (offset + block * my + dy mx my)).any
      fun pixel => pixel.alpha ≠ 0

theorem Enlarged.sampled_eq (h : m.Enlarged color img side block offset) (hcolor : color.alpha ≠ 0)
    {dx dy : Nat → Nat → Nat}
    (hin : ∀ mx my, mx < m.width → my < m.width → dx mx my < block ∧ dy mx my < block) :
    sampled img m.width block offset dx dy = m := by
  refine ext_isDark rfl fun mx my (hmx : mx < m.width) (hmy : my < m.width) => ?_
  obtain ⟨hdx, hdy⟩ := hin mx my hmx hmy
  rw [sampled, isDark_ofFn hmx hmy, h.modules mx my _ _ hmx hmy hdx hdy, Option.any_some]
  cases m.isDark mx my with
  | true => simpa using hcolor
  | false => rfl

/-- The picture of a matrix is the matrix enlarged: it has the side that was asked for, or one pixel for
every module if that is more, and as many pixels for a module as go into it.  No module outside of the
matrix is looked up, and a color that can be seen lets the matrix be read back. -/
theorem render_enlarges (m : Matrix) (size : Nat) (color : Rgba) (h : 0 < m.width) :
    ∃ side block offset, side = max size m.width ∧ block = side / m.width ∧ 0 < block ∧
      m.Enlarged color (m.render size color) side block offset ∧
      m.render? size color = some (m.render size color) ∧
      (color.alpha ≠ 0 → ∀ dx dy : Nat → Nat → Nat,
        (∀ mx my, mx < m.width → my < m.width → dx mx my < block ∧ dy mx my < block) →
          sampled (m.render size color) m.width block offset dx dy = m) := by
  have henlarged : m.Enlarged color (m.render size color) _ _ _ := enlarged_render h rfl rfl
  refine ⟨_, _, _, rfl, rfl, ?_, henlarged, render?_eq h, fun hcolor dx dy hin => ?_⟩
  · exact Nat.div_pos (Nat.le_max_right _ _) h
  · exact henlarged.sampled_eq hcolor hin

/-- Two modules by two in a picture of five pixels by five, read back by the last pixel of each
block. -/
theorem render_enlarges_five :
    let m : Matrix := ⟨2, #[true, false, false, true], rfl⟩
    0 < m.width ∧ ∃ offset, m.Enlarged .black (m.render 5 .black) 5 2 offset ∧
      m.render? 5 .black = some (m.render 5 .black) ∧
      sampled (m.render 5 .black) 2 2 offset (fun _ _ => 1) (fun _ _ => 1) = m := by
  intro m
  have hpos : 0 < m.width := by decide
  obtain ⟨side, block, offset, hside, hblock, -, henlarged, hchecked, hread⟩ :=
    render_enlarges m 5 .black hpos
  obtain rfl : side = 5 := hside
  obtain rfl : block = 2 := hblock.trans (by decide)
  exact ⟨hpos, offset, henlarged, hchecked, hread (by decide) _ _ fun _ _ _ _ => by decide⟩

end Matrix
end Placard
