/-
# What was rendered before does not matter

A template and a price frame keep the sizes of their artwork that have been asked for, so each render
returns an object that keeps more.  `Template.after` and `PriceFrame.after` are the objects after any
renders, the failed ones among them.  The reference is rendering without a cache:
`Template.renderPlain` and `PriceFrame.generatePlain`.

| | template | frame |
| :-- | :-- | :-- |
| loading gives sound caches | `Template.load_kept` | `PriceFrame.load_kept` |
| one render | `Template.render_agrees` | `PriceFrame.generate_agrees` |
| any number of renders | `Template.after_agrees` | `PriceFrame.after_agrees` |

The two artworks of a frame share one cache, told apart by the variant in its key.  So the originals
of the cache are a function of the variant (`PriceFrame.original`), and the key of an ordinary
artwork is never that of a promotional one.
-/
import Placard.Frame
import Placard.Proofs.Plugin.Plain
import Placard.Proofs.Reading

namespace Placard

/-! ## Templates -/

/-- What a render is asked for. -/
structure RenderRequest where
  values : RequestValues
  width : Nat
  assets : AssetSource

namespace Template

/-- The template after some renders. -/
def after (t : Template) (history : List RenderRequest) : Template :=
  history.foldl (fun t r => (t.render r.values r.width r.assets).2) t

def renderPlain (t : Template) (values : RequestValues) (requestedWidth : Nat)
    (assets : AssetSource) : Except RenderError Image :=
  match Plugin.bindAll values assets 0 t.plugins with
  | .error e => .error e
  | .ok copies =>
    Plugin.composePlain 0 (t.plugins.zipWith (fun p copy => copy.getD p) copies)
      (t.canvas (t.selectWidth requestedWidth))

def forget (t : Template) : Template := { t with plugins := t.plugins.map Plugin.forget }

/-- What the plugins keep is what they would make anew. -/
def Kept (t : Template) : Prop := ∀ p ∈ t.plugins, p.Kept

variable {t : Template} {values : RequestValues} {width : Nat} {assets : AssetSource}
  {ps qs : List Plugin} {copies : List (Option Plugin)}

theorem load_kept {name : String} {content : Payload} (h : load name content assets = .ok t) :
    t.Kept := fun p hp => Plugin.configured_kept (load_configured h p hp)

theorem zipWith_forget :
    ((ps.map Plugin.forget).zipWith (fun p copy => copy.getD p) copies).map Plugin.forget =
      (ps.zipWith (fun p copy => copy.getD p) copies).map Plugin.forget := by
  induction ps generalizing copies with
  | nil => rfl
  | cons p ps ih =>
      cases copies with
      | nil => rfl
      | cons copy copies =>
          simp only [List.map_cons, List.zipWith_cons_cons, ih]
          cases copy with
          | none => simp only [Option.getD_none, Plugin.forget_forget]
          | some q => rfl

theorem renderPlain_forget :
    t.forget.renderPlain values width assets = t.renderPlain values width assets := by
  unfold renderPlain
  rw [show t.forget.plugins = t.plugins.map Plugin.forget from rfl, Plugin.bindAll_forget]
  cases Plugin.bindAll values assets 0 t.plugins with
  | error e => rfl
  | ok copies =>
      dsimp only
      rw [← Plugin.composePlain_forget, zipWith_forget, Plugin.composePlain_forget]
      rfl

/-- The plugins and copies that are drawn keep what they would make anew. -/
theorem bound_kept (h : ∀ p ∈ ps, p.Kept)
    (hb : List.Forall₂ (fun p copy => p.bind values assets = .ok copy) ps copies) :
    ∀ q ∈ ps.zipWith (fun p copy => copy.getD p) copies, q.Kept :=
  Plugin.forall_bound (fun _ _ _ => Plugin.bind_kept) h hb

/-- The plugins that go on are those that were there, up to their caches, and their caches are
sound. -/
theorem keep_agrees (h : ∀ p ∈ ps, p.Kept) (hqs : ∀ q ∈ qs, q.Kept)
    (hf : qs.map Plugin.forget =
      (ps.zipWith (fun p copy => copy.getD p) copies).map Plugin.forget) :
    (keep ps copies qs).map Plugin.forget = ps.map Plugin.forget ∧
      ∀ p ∈ keep ps copies qs, p.Kept := by
  induction ps generalizing copies qs with
  | nil => exact ⟨rfl, h⟩
  | cons p ps ih =>
      cases copies with
      | nil => exact ⟨rfl, h⟩
      | cons copy copies =>
          cases qs with
          | nil => exact ⟨rfl, h⟩
          | cons q qs =>
              rw [List.zipWith_cons_cons, List.map_cons, List.map_cons, List.cons.injEq] at hf
              obtain ⟨h₁, h₂⟩ := ih (fun p hp => h p (List.mem_cons_of_mem _ hp))
                (fun q hq => hqs q (List.mem_cons_of_mem _ hq)) hf.2
              rw [keep]
              cases copy with
              | none =>
                  refine ⟨by simp only [Option.isNone_none, if_true, List.map_cons, h₁,
                    show q.forget = p.forget from hf.1], fun p' hp' => ?_⟩
                  rcases List.mem_cons.mp hp' with rfl | hp'
                  · exact hqs _ List.mem_cons_self
                  · exact h₂ p' hp'
              | some copy =>
                  refine ⟨by simp [h₁], fun p' hp' => ?_⟩
                  rcases List.mem_cons.mp hp' with rfl | hp'
                  · exact h _ List.mem_cons_self
                  · exact h₂ p' hp'

/-- A render gives what rendering without a cache gives, and changes nothing but caches. -/
theorem render_agrees (h : t.Kept) (values : RequestValues) (width : Nat) (assets : AssetSource) :
    (t.render values width assets).1 = t.renderPlain values width assets ∧
      (t.render values width assets).2.forget = t.forget ∧
      (t.render values width assets).2.Kept := by
  unfold render renderPlain
  cases hb : Plugin.bindAll values assets 0 t.plugins with
  | error e => exact ⟨rfl, rfl, h⟩
  | ok copies =>
      have hk := bound_kept h (Plugin.bindAll_ok hb)
      obtain ⟨h₁, h₂, h₃⟩ := Plugin.drawAll_agrees hk 0
        (t.canvas (t.selectWidth width))
      obtain ⟨h₄, h₅⟩ := keep_agrees h h₃ h₂
      exact ⟨h₁, by simp only [forget, h₄], h₅⟩

/-- Any number of renders change nothing but caches. -/
theorem after_agrees (h : t.Kept) (history : List RenderRequest) :
    (t.after history).forget = t.forget ∧ (t.after history).Kept := by
  induction history generalizing t with
  | nil => exact ⟨rfl, h⟩
  | cons r history ih =>
      obtain ⟨-, hf, hk⟩ := render_agrees h r.values r.width r.assets
      obtain ⟨hf', hk'⟩ := ih hk
      exact ⟨hf'.trans hf, hk'⟩

/-- After any renders, a render gives what rendering without a cache gives to begin with. -/
theorem render_after (h : t.Kept) (history : List RenderRequest) :
    ((t.after history).render values width assets).1 = t.renderPlain values width assets := by
  obtain ⟨hf, hk⟩ := after_agrees h history
  calc ((t.after history).render values width assets).1
      = (t.after history).renderPlain values width assets := (render_agrees hk _ _ _).1
    _ = (t.after history).forget.renderPlain values width assets := renderPlain_forget.symm
    _ = t.forget.renderPlain values width assets := by rw [hf]
    _ = t.renderPlain values width assets := renderPlain_forget

end Template

/-! ## Price frames -/

/-- What a frame is asked for. -/
structure FrameRequest where
  photo : Image
  price : Int64
  promo : Int64

namespace PriceFrame

/-- The frame after some photos. -/
def after (f : PriceFrame) (history : List FrameRequest) : PriceFrame :=
  history.foldl (fun f r => (f.generate r.photo r.price r.promo).2) f

/-- The artwork that there is for prices: that of promotions if these are the prices of one and
there is such an artwork, or else the ordinary one. -/
def artworkPlain (f : PriceFrame) : Pricing → Image
  | .promotion _ _ => f.promotionArtwork.getD f.artwork
  | _ => f.artwork

def generatePlain (f : PriceFrame) (photo : Image) (price promo : Int64) : Option Image := do
  let pricing := Pricing.ofPrices price promo
  let art := (f.artworkPlain pricing).resize .stretch photo.width photo.height
  let framed ← photo.draw art 0 0 none
  match pricing with
  | .frameOnly => return framed
  | .single amount => f.priceOnly.draw amount framed
  | .promotion full reduced => f.pricePromo.draw reduced (← f.priceOrig.draw full framed)

/-- The artwork of a variant. -/
def original (f : PriceFrame) (variant : Bool) : Image :=
  if variant then f.promotionArtwork.getD f.artwork else f.artwork

/-- The images that the frame keeps are stretched from the artwork of their variant. -/
structure Kept (f : PriceFrame) : Prop where
  mode_eq : f.cache.mode = .stretch
  images : f.cache.Holds (ResizeCache.Resized f.original .stretch)

def forget (f : PriceFrame) : PriceFrame := { f with cache := .empty .stretch }

variable {f : PriceFrame} {photo : Image} {price promo : Int64}

/-- What loading a frame leaves behind: the name of the document, and an empty cache. -/
theorem load_ok {name : String} {content : Payload} {assets : AssetSource}
    (h : load name content assets = .ok f) : f.name = name ∧ f.cache = .empty .stretch := by
  obtain ⟨m, -, h⟩ := bind_eq_ok.mp h
  obtain ⟨g, -, h⟩ := bind_eq_ok.mp h
  unfold ofFields at h
  dsimp only at h
  split at h
  · cases h
  obtain ⟨artwork, -, h⟩ := bind_eq_ok.mp h
  -- with an artwork for promotions or without, the rest is the same
  split at h
  all_goals
    obtain ⟨promotionArtwork, -, h⟩ := bind_eq_ok.mp h
    obtain ⟨only, -, h⟩ := bind_eq_ok.mp h
    obtain ⟨orig, -, h⟩ := bind_eq_ok.mp h
    obtain ⟨reduced, -, h⟩ := bind_eq_ok.mp h
    cases h
    exact ⟨rfl, rfl⟩

theorem load_kept {name : String} {content : Payload} {assets : AssetSource}
    (h : load name content assets = .ok f) : f.Kept := by
  have hc := (load_ok h).2
  exact ⟨hc ▸ rfl, hc ▸ ResizeCache.holds_empty⟩

/-- The artwork at a size is the stretched one, whether it had been kept or not. -/
theorem artworkFor_agrees (h : f.Kept) (width height : Nat) (promotion : Bool) :
    (f.artworkFor width height promotion).1 =
        (f.original promotion).resize .stretch width height ∧
      (f.artworkFor width height promotion).2.forget = f.forget ∧
      (f.artworkFor width height promotion).2.Kept := by
  -- the variant in the key is that of the artwork which is resized
  obtain ⟨variant, hv, ha⟩ : ∃ variant, f.original variant = f.original promotion ∧
      f.artworkFor width height promotion =
        ((f.cache.get (f.original variant) ⟨width, height, variant⟩).1,
          { f with cache := (f.cache.get (f.original variant) ⟨width, height, variant⟩).2 }) := by
    unfold artworkFor original
    cases hp : f.promotionArtwork with
    | none => exact ⟨false, by cases promotion <;> rfl, rfl⟩
    | some art => cases promotion with
      | true => exact ⟨true, rfl, rfl⟩
      | false => exact ⟨false, rfl, rfl⟩
  have hh := h.images
  rw [← h.mode_eq] at hh
  obtain ⟨hg, hk⟩ := hh.get ⟨width, height, variant⟩
  rw [ha]
  refine ⟨?_, rfl, ResizeCache.get_mode.trans h.mode_eq, ?_⟩
  · rw [← hv, ← h.mode_eq]
    exact hg
  · rw [← h.mode_eq]
    exact hk

/-- Decorating a photo gives what decorating it without a cache gives, and changes nothing but the
cache. -/
theorem generate_agrees (h : f.Kept) (photo : Image) (price promo : Int64) :
    (f.generate photo price promo).1 = f.generatePlain photo price promo ∧
      (f.generate photo price promo).2.forget = f.forget ∧
      (f.generate photo price promo).2.Kept := by
  -- the prices do not see the cache
  have hprices : ∀ {g : PriceFrame}, g.forget = f.forget → ∀ pricing,
      g.drawPrices pricing = f.drawPrices pricing := by
    intro g hg pricing
    have hd := congrArg (fun g : PriceFrame => g.drawPrices pricing) hg
    exact hd
  unfold generate generatePlain
  dsimp only
  cases Pricing.ofPrices price promo with
  | frameOnly =>
      obtain ⟨ha, hf, hk⟩ := artworkFor_agrees h photo.width photo.height false
      exact ⟨by rw [hprices hf, ha]; rfl, hf, hk⟩
  | single amount =>
      obtain ⟨ha, hf, hk⟩ := artworkFor_agrees h photo.width photo.height false
      exact ⟨by rw [hprices hf, ha]; rfl, hf, hk⟩
  | promotion full reduced =>
      obtain ⟨ha, hf, hk⟩ := artworkFor_agrees h photo.width photo.height true
      exact ⟨by rw [hprices hf, ha]; rfl, hf, hk⟩

theorem after_agrees (h : f.Kept) (history : List FrameRequest) :
    (f.after history).forget = f.forget ∧ (f.after history).Kept := by
  induction history generalizing f with
  | nil => exact ⟨rfl, h⟩
  | cons r history ih =>
      obtain ⟨-, hf, hk⟩ := generate_agrees h r.photo r.price r.promo
      obtain ⟨hf', hk'⟩ := ih hk
      exact ⟨hf'.trans hf, hk'⟩

/-- After any photos, a photo is decorated as without a cache to begin with. -/
theorem generate_after (h : f.Kept) (history : List FrameRequest) :
    ((f.after history).generate photo price promo).1 = f.generatePlain photo price promo := by
  obtain ⟨hf, hk⟩ := after_agrees h history
  calc ((f.after history).generate photo price promo).1
      = (f.after history).generatePlain photo price promo := (generate_agrees hk _ _ _).1
    _ = (f.after history).forget.generatePlain photo price promo := rfl
    _ = f.forget.generatePlain photo price promo := by rw [hf]
    _ = f.generatePlain photo price promo := rfl

end PriceFrame

/-! ## Both -/

/-- What has been rendered before does not matter.  After any renders, successful or not, a loaded
template gives what it would have given to begin with, and that is what rendering without a cache
gives; and so does a loaded frame, whatever photos it has decorated. -/
theorem rendering_ignores_history :
    (∀ name content assets t, Template.load name content assets = .ok t →
      ∀ history values width source,
        ((t.after history).render values width source).1 = (t.render values width source).1 ∧
        (t.render values width source).1 = t.renderPlain values width source) ∧
    (∀ name content assets f, PriceFrame.load name content assets = .ok f →
      ∀ history photo price promo,
        ((f.after history).generate photo price promo).1 = (f.generate photo price promo).1 ∧
        (f.generate photo price promo).1 = f.generatePlain photo price promo) := by
  constructor
  · intro name content assets t ht history values width source
    have h := (Template.render_agrees (Template.load_kept ht) values width source).1
    exact ⟨(Template.render_after (Template.load_kept ht) history).trans h.symm, h⟩
  · intro name content assets f hf history photo price promo
    have h := (PriceFrame.generate_agrees (PriceFrame.load_kept hf) photo price promo).1
    exact ⟨(PriceFrame.generate_after (PriceFrame.load_kept hf) history).trans h.symm, h⟩

/-- A card with a picture and a frame, each of which has kept images of two sizes by the time of the
render in question. -/
theorem rendering_ignores_history_of_card :
    let source : AssetSource :=
      .ofPictures [("photo.png", .filled 2 1 .white), ("frame.png", .filled 2 2 .black)]
    let card : Payload :=
      .ofText "allWidths: [8, 4]\nplugins:\n  - type: image\n    image: photo.png\n"
    let sale : Payload :=
      .ofText "frameURI: frame.png\npriceOnly:\n  height: 0.1\n  fontUri: builtin:spleen\n"
    let photo : Image := .filled 3 3 .white
    ∃ t f,
      Template.load "card" card source = .ok t ∧ t.plugins.length = 1 ∧
      PriceFrame.load "sale" sale source = .ok f ∧
      ((t.after [⟨.empty, 8, source⟩, ⟨.empty, 4, source⟩]).render .empty 8 source).1 =
        t.renderPlain .empty 8 source ∧
      ((f.after [⟨photo, 90, 50⟩, ⟨.filled 5 4 .white, 0, 0⟩]).generate photo 70 0).1 =
        f.generatePlain photo 70 0 := by
  intro source card sale photo
  have ht : ((Template.load "card" card source).toOption.any fun t => t.plugins.length == 1) =
      true := by
    rw [Template.any_load (show card = .ofText _ from rfl), String.toList_ofList]
    decide +kernel
  have hf : ((PriceFrame.load "sale" sale source).toOption.any fun _ => true) = true := by
    rw [PriceFrame.any_load (show sale = .ofText _ from rfl), String.toList_ofList]
    decide +kernel
  obtain ⟨t, hl, ht⟩ := any_toOption.mp ht
  obtain ⟨f, hs, -⟩ := any_toOption.mp hf
  obtain ⟨ha, hp⟩ := rendering_ignores_history.1 _ _ _ t hl
    [⟨.empty, 8, source⟩, ⟨.empty, 4, source⟩] .empty 8 source
  obtain ⟨hg, hq⟩ := rendering_ignores_history.2 _ _ _ f hs
    [⟨photo, 90, 50⟩, ⟨.filled 5 4 .white, 0, 0⟩] photo 70 0
  exact ⟨t, f, hl, of_decide_eq_true ht, hs, ha.trans hp, hg.trans hq⟩

end Placard
