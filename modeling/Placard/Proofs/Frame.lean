/-
# What a loaded price frame is

The blocks of a price frame are made one after the other, the first of them on its own and the other
two with it to fall back to.  What a block has follows from its declaration (`MadeOf`):

| | its own, if | else |
| :-- | :-- | :-- |
| ink | a color is declared | white |
| height | it is not at most zero | that of the first block |
| face | a font is named | that of the first block |
| rule | always, moved into the unit interval | |

A height that is not at most zero need not be above zero, and a rule that is moved into the unit
interval need not be there: what is not a number passes both.  It is the only thing that does
(`PriceBlock.MadeOf.drawable_iff`).
-/
import Placard.Frame
import Placard.Proofs.Failure
import Placard.Proofs.Number.Order
import Placard.Proofs.Render.History

namespace Placard

namespace PriceBlock

variable {assets : AssetSource} {name : String} {only b : PriceBlock} {s : PriceBlockFields}
  {fallback : Option PriceBlock} {x : Float}

/-! ## Rules -/

theorem clamped_isNaN : (clamped x).isNaN = x.isNaN := by
  unfold clamped
  split
  · rename_i h
    rw [(isNaN_of_lt h).1]
    decide +kernel
  · split
    · rename_i h
      rw [(isNaN_of_lt h).2]
      decide +kernel
    · rfl

theorem clamped_mem_iff : (0 ≤ clamped x ∧ clamped x ≤ 1) ↔ x.isNaN = false := by
  constructor
  · intro h
    rw [← clamped_isNaN]
    exact (isNaN_of_le h.1).2
  · intro h
    unfold clamped
    split
    · decide +kernel
    · rename_i h₀
      split
      · decide +kernel
      · rename_i h₁
        have hzero : (0 : Float).isNaN = false := by decide +kernel
        have hone : (1 : Float).isNaN = false := by decide +kernel
        have hlow := not_lt_iff.mp h₀
        have hhigh := not_lt_iff.mp h₁
        simp only [h, hzero, hone, Bool.false_eq_true, or_false] at hlow hhigh
        exact ⟨hlow, hhigh⟩

/-! ## Blocks -/

/-- The block is what a document declares of it; what is left out is taken from the block `only`. -/
structure MadeOf (assets : AssetSource) (only : PriceBlock) (s : PriceBlockFields)
    (b : PriceBlock) : Prop where
  ink : Rgba.parseOr s.color .white = .ok b.ink
  height : b.height = if s.height ≤ 0 then only.height else s.height
  face : if s.fontUri.isEmpty then b.face = only.face
    else FontFace.load assets s.fontUri 1 = .ok b.face
  strikeThrough : b.strikeThrough = clamped s.strikeThrough

/-- The block has a size and a rule that fits its text. -/
def Drawable (b : PriceBlock) : Prop := 0 < b.height ∧ 0 ≤ b.strikeThrough ∧ b.strikeThrough ≤ 1

theorem configure_eq_ok (h : configure name fallback assets s = .ok b) :
    Rgba.parseOr s.color .white = .ok b.ink ∧ heightOf name fallback s = .ok b.height ∧
      faceOf fallback assets s = .ok b.face ∧ b.strikeThrough = clamped s.strikeThrough := by
  obtain ⟨ink, hink, h⟩ := bind_eq_ok.mp h
  obtain ⟨height, hheight, h⟩ := bind_eq_ok.mp h
  obtain ⟨face, hface, h⟩ := bind_eq_ok.mp h
  cases h
  exact ⟨hink, hheight, hface, rfl⟩

theorem configure_first (h : configure name none assets s = .ok b) :
    MadeOf assets b s b ∧ ¬ s.height ≤ 0 ∧ s.fontUri.isEmpty = false := by
  obtain ⟨hink, hheight, hface, hstrike⟩ := configure_eq_ok h
  unfold heightOf at hheight
  split at hheight
  · cases hheight
  rename_i hpos
  unfold faceOf at hface
  split at hface
  · cases hface
  rename_i huri
  refine ⟨⟨hink, ?_, ?_, hstrike⟩, hpos, Bool.not_eq_true _ ▸ huri⟩
  · rw [if_neg hpos]
    exact (Except.ok.inj hheight).symm
  · rw [if_neg huri]
    exact hface

theorem configure_madeOf (h : configure name (some only) assets s = .ok b) :
    MadeOf assets only s b := by
  obtain ⟨hink, hheight, hface, hstrike⟩ := configure_eq_ok h
  refine ⟨hink, ?_, ?_, hstrike⟩
  · unfold heightOf at hheight
    split at hheight
    · rename_i hlow
      rw [if_pos hlow]
      exact (Except.ok.inj hheight).symm
    · rename_i hlow
      rw [if_neg hlow]
      exact (Except.ok.inj hheight).symm
  · unfold faceOf at hface
    split at hface
    · rename_i huri
      rw [if_pos huri]
      exact (Except.ok.inj hface).symm
    · rename_i huri
      rw [if_neg huri]
      exact hface

theorem pos_iff_of_not_le (h : ¬ x ≤ 0) : 0 < x ↔ x.isNaN = false := by
  constructor
  · exact fun hpos => (isNaN_of_lt hpos).2
  · intro hn
    have hzero : (0 : Float).isNaN = false := by decide +kernel
    rcases not_le_iff.mp h with hlt | hnan | hnan
    · exact hlt
    · cases hn.symm.trans hnan
    · cases hzero.symm.trans hnan

/-- A block falls back to one whose height is not at most zero.  Then neither is its own. -/
theorem MadeOf.height_not_le (h : MadeOf assets only s b) (ho : ¬ only.height ≤ 0) :
    ¬ b.height ≤ 0 := by
  rw [h.height]
  split
  · exact ho
  · assumption

/-- A block can be drawn just if its height and the rule that it declares are numbers. -/
theorem MadeOf.drawable_iff (h : MadeOf assets only s b) (ho : ¬ only.height ≤ 0) :
    b.Drawable ↔ b.height.isNaN = false ∧ s.strikeThrough.isNaN = false := by
  unfold Drawable
  rw [pos_iff_of_not_le (h.height_not_le ho), h.strikeThrough, clamped_mem_iff]

/-- A block has a height of its own just if it declares one above zero, among the declared heights
that are numbers. -/
theorem MadeOf.height_of_number (h : MadeOf assets only s b) (hn : s.height.isNaN = false) :
    b.height = if 0 < s.height then s.height else only.height := by
  rw [h.height]
  by_cases hle : s.height ≤ 0
  · rw [if_pos hle, if_neg fun hlt => not_le_iff.mpr (Or.inl hlt) hle]
  · rw [if_neg hle, if_pos ((pos_iff_of_not_le hle).mpr hn)]

theorem MadeOf.height_isNaN (h : MadeOf assets only s b) (ho : only.height.isNaN = false) :
    b.height.isNaN = s.height.isNaN := by
  rw [h.height]
  split
  · rename_i hle
    rw [ho, (isNaN_of_le hle).1]
  · rfl

end PriceBlock

/-! ## Frames -/

/-- What a document declares of the blocks of a frame. -/
def PriceFrameFields.blocks (d : PriceFrameFields) : List PriceBlockFields :=
  [d.priceOnly, d.priceOrig, d.pricePromo]

namespace PriceFrame

open PriceBlock

variable {assets : AssetSource} {name : String} {d : PriceFrameFields} {f : PriceFrame}

/-- The blocks of a frame. -/
def blocks (f : PriceFrame) : List PriceBlock := [f.priceOnly, f.priceOrig, f.pricePromo]

theorem ofFields_madeOf (h : ofFields name d assets = .ok f) :
    List.Forall₂ (MadeOf assets f.priceOnly) d.blocks f.blocks ∧
      ¬ d.priceOnly.height ≤ 0 ∧ d.priceOnly.fontUri.isEmpty = false := by
  unfold ofFields at h
  dsimp only at h
  split at h
  · cases h
  obtain ⟨artwork, -, h⟩ := bind_eq_ok.mp h
  -- with an artwork for promotions or without, the rest is the same
  split at h
  all_goals
    obtain ⟨promotionArtwork, -, h⟩ := bind_eq_ok.mp h
    obtain ⟨only, hfirst, h⟩ := bind_eq_ok.mp h
    obtain ⟨orig, horig, h⟩ := bind_eq_ok.mp h
    obtain ⟨promo, hpromo, h⟩ := bind_eq_ok.mp h
    cases h
    obtain ⟨hmade, hown⟩ := configure_first hfirst
    exact ⟨.cons hmade (.cons (configure_madeOf horig) (.cons (configure_madeOf hpromo) .nil)), hown⟩

theorem load_of_fields {content : Payload} {document : Yaml.Mapping}
    (hd : Yaml.Mapping.read content = .ok document) (hf : readFields document = .ok d) :
    load name content assets = ofFields name d assets := by
  unfold load
  rw [hd]
  change (readFields document >>= fun d => ofFields name d assets) = _
  rw [hf]
  rfl

/-- What a price frame that loads has.  Let `d` be what the document says.  Each block has the ink it
declares or a white one, the face of the font it names or else that of the first block, its own
height or else that of the first block, and a rule; the first block has a height and a font of its
own.  Among the declared heights that are numbers those above zero count.  The height is above zero
unless it is not a number, and the rule lies between zero and one unless it is declared as something
that is not a number: the blocks can all be drawn just if all declared heights and rules are
numbers. -/
theorem load_blocks {content : Payload} {document : Yaml.Mapping}
    (hd : Yaml.Mapping.read content = .ok document) (hf : readFields document = .ok d)
    (h : load name content assets = .ok f) :
    (¬ d.priceOnly.height ≤ 0 ∧ d.priceOnly.fontUri.isEmpty = false) ∧
    List.Forall₂ (fun s b => MadeOf assets f.priceOnly s b ∧
      (s.height.isNaN = false → b.height = if 0 < s.height then s.height else f.priceOnly.height) ∧
      (b.Drawable ↔ b.height.isNaN = false ∧ s.strikeThrough.isNaN = false)) d.blocks f.blocks ∧
    ((∀ b ∈ f.blocks, b.Drawable) ↔
      ∀ s ∈ d.blocks, s.height.isNaN = false ∧ s.strikeThrough.isNaN = false) := by
  rw [load_of_fields hd hf] at h
  obtain ⟨hmade, hpos, huri⟩ := ofFields_madeOf h
  obtain ⟨hfirst, hrest⟩ := List.forall₂_cons.mp hmade
  obtain ⟨horig, hrest⟩ := List.forall₂_cons.mp hrest
  obtain ⟨hpromo, -⟩ := List.forall₂_cons.mp hrest
  have hheight : f.priceOnly.height = d.priceOnly.height := by
    rw [hfirst.height, if_neg hpos]
  have hpos' : ¬ f.priceOnly.height ≤ 0 := by rwa [hheight]
  refine ⟨⟨hpos, huri⟩, hmade.imp fun s b hb => ⟨hb, hb.height_of_number, hb.drawable_iff hpos'⟩, ?_⟩
  have hdraw := hfirst.drawable_iff hpos'
  simp only [blocks, PriceFrameFields.blocks, List.forall_mem_cons, List.not_mem_nil, false_imp_iff,
    implies_true, and_true, hdraw, horig.drawable_iff hpos', hpromo.drawable_iff hpos']
  by_cases ho : f.priceOnly.height.isNaN = false
  · rw [horig.height_isNaN ho, hpromo.height_isNaN ho, hheight]
  · -- the first block then cannot be drawn, and it is what it declares
    exact iff_of_false (fun h => ho h.1.1) fun h => ho (hheight ▸ h.1.1)

/-- A frame whose second block leaves out the height and the font, and whose third one declares a
height and a rule that is too thick. -/
theorem load_blocks_of_sale :
    let source : AssetSource := .ofPictures [("frame.png", .filled 2 2 .black)]
    let sale : Payload := .ofText <|
      "frameURI: frame.png\npriceOnly: \x7bheight: 0.1, fontUri: builtin:spleen\x7d\n" ++
      "priceOrig: \x7bheight: -1\x7d\npricePromo: \x7bheight: 0.2, strikeThrough: 7\x7d\n"
    ∃ f, load "sale" sale source = .ok f ∧ (∀ b ∈ f.blocks, b.Drawable) ∧
      f.priceOrig.height = f.priceOnly.height ∧ f.pricePromo.height = 0.2 := by
  intro source sale
  have hread : ((Yaml.Mapping.read sale).toOption.any fun document =>
      (readFields document).toOption.any fun d => decide (d.blocks.map (·.height) = [0.1, -1, 0.2] ∧
        ∀ s ∈ d.blocks, s.height.isNaN = false ∧ s.strikeThrough.isNaN = false)) = true := by
    rw [Yaml.Mapping.read_toOption (show sale = .ofText _ from rfl)]
    simp only [String.toList_append]
    repeat rw [String.toList_ofList]
    decide +kernel
  have hload : ((load "sale" sale source).toOption.any fun _ => true) = true := by
    rw [any_load (show sale = .ofText _ from rfl)]
    simp only [String.toList_append]
    repeat rw [String.toList_ofList]
    decide +kernel
  obtain ⟨document, hd, hread⟩ := any_toOption.mp hread
  obtain ⟨d, hf, hread⟩ := any_toOption.mp hread
  obtain ⟨f, hl, -⟩ := any_toOption.mp hload
  obtain ⟨hheights, hnumbers⟩ := of_decide_eq_true hread
  obtain ⟨-, hblocks, hdraw⟩ := load_blocks hd hf hl
  obtain ⟨-, hrest⟩ := List.forall₂_cons.mp hblocks
  obtain ⟨⟨-, horig, -⟩, hrest⟩ := List.forall₂_cons.mp hrest
  obtain ⟨⟨-, hpromo, -⟩, -⟩ := List.forall₂_cons.mp hrest
  simp only [PriceFrameFields.blocks, List.map_cons, List.map_nil, List.cons.injEq, and_true]
    at hheights
  obtain ⟨-, horig', hpromo'⟩ := hheights
  rw [horig'] at horig
  rw [hpromo'] at hpromo
  refine ⟨f, hl, hdraw.mpr hnumbers, ?_, ?_⟩
  · rw [horig (by decide +kernel), if_neg (by decide +kernel)]
  · rw [hpromo (by decide +kernel), if_pos (by decide +kernel)]

/-- A height that is not a number is not at most zero, and the frame loads. -/
theorem load_height_not_a_number :
    let source : AssetSource := .ofPictures [("frame.png", .filled 2 2 .black)]
    let sale : Payload := .ofText
      "frameURI: frame.png\npriceOnly: \x7bheight: .nan, fontUri: builtin:spleen\x7d\n"
    ∃ f, load "sale" sale source = .ok f ∧ ¬ 0 < f.priceOnly.height := by
  intro source sale
  have hload : ((load "sale" sale source).toOption.any fun f => decide (¬ 0 < f.priceOnly.height)) =
      true := by
    rw [any_load (show sale = .ofText _ from rfl), String.toList_ofList]
    decide +kernel
  obtain ⟨f, hl, hf⟩ := any_toOption.mp hload
  exact ⟨f, hl, of_decide_eq_true hf⟩

end PriceFrame
end Placard
