/-
# The size of an image

Nothing that is drawn changes the sides of what it is drawn on, so the size of an image is settled
before anything is drawn.

| | sides |
| :-- | :-- |
| an image of a template | the selected width and the height derived from it (`renderPlain_sides`) |
| a photo in a price frame | those of the photo (`generate_sides`) |

A text that is not a width is taken for zero, and that is safe for one reason only: no loaded
template has zero among its widths (`Template.load_ok`), so zero selects the first of them like any
width that is not allowed.
-/
import Placard.Proofs.Number
import Placard.Proofs.Render.Outcome
import Placard.Service.Answer

namespace Placard

/-! ## Templates -/

namespace Template

variable {t : Template} {values : RequestValues} {requested : Nat} {assets : AssetSource}
  {raw : String}

theorem selectWidth_mem : t.selectWidth requested ∈ t.widths := by
  unfold selectWidth
  split
  · assumption
  · exact List.mem_cons_self

theorem selectWidth_pos (h : 0 ∉ t.widths) : 0 < t.selectWidth requested :=
  Nat.pos_of_ne_zero fun h₀ => h (h₀ ▸ selectWidth_mem)

theorem selectWidth_of_spells {n : Nat} (hs : Number.Spells (Text.trim raw) n)
    (hlt : n < UInt32.size) (hn : n ∈ t.widths) :
    t.selectWidth (Service.requestedWidth raw) = n := by
  unfold Service.requestedWidth
  rw [Number.size?_eq_some.mpr ⟨hs, hlt⟩]
  exact if_pos hn

theorem selectWidth_of_not_spells (h₀ : 0 ∉ t.widths)
    (h : ∀ n < UInt32.size, Number.Spells (Text.trim raw) n → n ∉ t.widths) :
    t.selectWidth (Service.requestedWidth raw) = t.defaultWidth := by
  unfold Service.requestedWidth
  cases hr : Number.size? (Text.trim raw) with
  | none => exact if_neg h₀
  | some n =>
      obtain ⟨hs, hlt⟩ := Number.size?_eq_some.mp hr
      exact if_neg (h n hlt hs)

theorem renderPlain_sides {img : Image} (ht : ∀ p ∈ t.plugins, p.Able)
    (h : t.renderPlain values requested assets = .ok img) :
    img.sides = (t.selectWidth requested, t.deriveHeight (t.selectWidth requested)) := by
  obtain ⟨_, _, _, -, -, hr⟩ | ⟨-, hr | ⟨_, _, -, hr⟩ | ⟨-, drawn, hr, hsides⟩⟩ :=
    renderPlain_cases ht values requested assets
  all_goals cases hr.symm.trans h
  exact hsides

end Template

/-! ## Price frames -/

namespace PriceBlock

variable {b : PriceBlock} {l : PriceLayout} {amount : Int64} {photo out : Image}

theorem write_sides (h : b.write l photo = some out) : out.sides = photo.sides := by
  obtain ⟨written, hw, h⟩ := Option.bind_eq_some_iff.mp h
  have hsides := FontFace.draw_sides hw
  split at h
  · cases h
    exact Image.fill_sides.trans hsides
  · cases h
    exact hsides

theorem draw_sides (h : b.draw amount photo = some out) : out.sides = photo.sides := by
  obtain ⟨layout, -, h⟩ := Option.bind_eq_some_iff.mp h
  cases layout with
  | none =>
      cases h
      rfl
  | some l => exact write_sides h

end PriceBlock

namespace PriceFrame

variable {f : PriceFrame} {photo out : Image} {price promo : Int64}

theorem drawPrices_sides {pricing : Pricing} (h : f.drawPrices pricing photo = some out) :
    out.sides = photo.sides := by
  cases pricing with
  | frameOnly =>
      cases h
      rfl
  | single amount => exact PriceBlock.draw_sides h
  | promotion full reduced =>
      obtain ⟨first, hfirst, h⟩ := Option.bind_eq_some_iff.mp h
      exact (PriceBlock.draw_sides h).trans (PriceBlock.draw_sides hfirst)

theorem generate_sides (h : (f.generate photo price promo).1 = some out) :
    out.sides = photo.sides := by
  obtain ⟨framed, hframed, h⟩ := Option.bind_eq_some_iff.mp h
  exact (drawPrices_sides h).trans (Image.draw_sides hframed)

end PriceFrame

/-! ## Both -/

end Placard
