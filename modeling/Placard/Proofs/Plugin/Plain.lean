/-
# Drawing without a cache

A picture that is not bound keeps the sizes it has been drawn at, so drawing it returns a picture
with another cache.  `Picture.drawPlain` draws it without a cache, and so do `Plugin.drawPlain` for
a plugin and `Plugin.composePlain` for a list of them.  Two facts relate the two ways of drawing.

| | |
| :-- | :-- |
| caches are sound (`Kept`) | drawing gives what drawing without a cache gives |
| caches are all that drawing changes (`forget`) | binding and drawing without a cache do not see it |

A cache is sound if all images in it are resized from the raster at hand.  It begins empty whenever
a raster is loaded, and then asking it is resizing (`ResizeCache.Holds.get`).
-/
import Placard.Proofs.Plugin.Drawn
import Placard.Proofs.Plugin.Life
import Placard.Proofs.Raster.Cache

namespace Placard

/-! ## Pictures -/

namespace Picture

def drawPlain (p : Picture) (canvas : Image) : Drawing :=
  let rect := p.rect.transform canvas.width canvas.height
  match p.plan rect with
  | none => .overflow
  | some (.error e) => .failed e
  | some (.ok (raster, box)) =>
    .ofImage? (p.place canvas (raster.resize p.mode box.1 box.2) rect)

def forget (p : Picture) : Picture := { p with cache := .empty p.mode }

/-- The images that the picture keeps are resized from its raster. -/
def Kept (p : Picture) : Prop :=
  ∀ raster, p.raster = some raster →
    p.cache.mode = p.mode ∧ p.cache.Holds (ResizeCache.Resized (fun _ => raster) p.mode)

variable {p q : Picture} {canvas img : Image} {assets : AssetSource} {values : RequestValues}

theorem kept_of_raster_none (h : p.raster = none) : p.Kept := by
  intro raster hr
  rw [h] at hr
  cases hr

theorem load_kept (h : p.load assets = .ok q) : q.Kept := by
  obtain ⟨-, raster, -, rfl⟩ := load_eq_ok.mp h
  exact fun _ _ => ⟨rfl, ResizeCache.holds_empty⟩

theorem configure_kept (hp : p.raster = none) (h : p.configure assets = .ok q) : q.Kept := by
  obtain ⟨bindings, -, ⟨-, hl⟩ | ⟨-, rfl⟩⟩ := configure_ok h
  · exact load_kept hl
  · exact kept_of_raster_none hp

theorem bind_kept (h : p.bind values assets = .ok (some q)) : q.Kept := by
  obtain ⟨uri, raster, -, rfl⟩ := bind_some h
  exact fun _ _ => ⟨rfl, ResizeCache.holds_empty⟩

/-- A fitted raster is the resized one, whether it had been kept or not. -/
theorem fitted_eq {raster : Image} (h : p.Kept) (hr : p.raster = some raster) (box : Nat × Nat) :
    ∃ cache, p.fitted raster box =
        (raster.resize p.mode box.1 box.2, { p with cache := cache }) ∧
      Kept { p with cache := cache } := by
  obtain ⟨hm, hh⟩ := h raster hr
  unfold fitted
  split
  · rw [← hm] at hh
    obtain ⟨hg, hh'⟩ := hh.get ⟨box.1, box.2, false⟩
    refine ⟨_, Prod.ext (by rw [← hm]; exact hg) rfl, fun raster' hr' => ?_⟩
    cases hr.symm.trans hr'
    exact ⟨ResizeCache.get_mode.trans hm, by rw [← hm]; exact hh'⟩
  · exact ⟨p.cache, rfl, h⟩

/-- Drawing gives what drawing without a cache gives, and changes nothing but the cache. -/
theorem draw_agrees (h : p.Kept) (canvas : Image) :
    (p.draw canvas).1 = p.drawPlain canvas ∧ (p.draw canvas).2.forget = p.forget ∧
      (p.draw canvas).2.Kept := by
  unfold draw drawPlain
  dsimp only
  cases hp : p.plan (p.rect.transform canvas.width canvas.height) with
  | none => exact ⟨rfl, rfl, h⟩
  | some x => cases x with
    | error e => exact ⟨rfl, rfl, h⟩
    | ok found =>
        obtain ⟨-, hr, -⟩ := plan_eq_ok.mp hp
        obtain ⟨cache, hf, hk⟩ := fitted_eq h hr found.2
        dsimp only
        rw [hf]
        exact ⟨rfl, rfl, hk⟩

theorem draw_of_plan {raster : Image} {box : Nat × Nat} (h : p.Kept)
    (hp : p.plan (p.rect.transform canvas.width canvas.height) = some (.ok (raster, box))) :
    (p.draw canvas).1 = .ofImage? (p.place canvas (raster.resize p.mode box.1 box.2)
      (p.rect.transform canvas.width canvas.height)) := by
  rw [(draw_agrees h canvas).1]
  unfold drawPlain
  dsimp only
  rw [hp]

theorem drawPlain_forget : p.forget.drawPlain canvas = p.drawPlain canvas := rfl

theorem kept_forget : p.forget.Kept := fun _ _ => ⟨rfl, ResizeCache.holds_empty⟩

theorem draw_forget : (p.forget.draw canvas).1 = p.drawPlain canvas :=
  (draw_agrees kept_forget canvas).1

theorem foldl_bindEntry_forget (entries : List (PictureField × String)) (changed : Bool) :
    entries.foldl (bindEntry values) ⟨p.forget, changed⟩ =
      ⟨(entries.foldl (bindEntry values) ⟨p, changed⟩).state.forget,
        (entries.foldl (bindEntry values) ⟨p, changed⟩).changed⟩ := by
  induction entries generalizing p changed with
  | nil => rfl
  | cons e entries ih =>
      have hs : bindEntry values ⟨p.forget, changed⟩ e =
          ⟨(bindEntry values ⟨p, changed⟩ e).state.forget,
            (bindEntry values ⟨p, changed⟩ e).changed⟩ := by
        by_cases hc : values.text e.2 ≠ p.image ∨ p.raster.isNone = true
        · rw [bindEntry_of_new (c := ⟨p, changed⟩) hc]
          exact bindEntry_of_new (c := ⟨p.forget, changed⟩) hc
        · rw [bindEntry_of_same (c := ⟨p, changed⟩) hc]
          exact bindEntry_of_same (c := ⟨p.forget, changed⟩) hc
      rw [List.foldl_cons, List.foldl_cons, hs, ih]

theorem load_forget : p.forget.load assets = p.load assets := rfl

theorem bind_forget : p.forget.bind values assets = p.bind values assets := by
  unfold bind
  rw [show p.forget.bindings = p.bindings from rfl, foldl_bindEntry_forget]
  unfold Change.result?
  cases (p.bindings.entries.foldl (bindEntry values) ⟨p, false⟩).changed with
  | false => rfl
  | true => simp only [if_true, load_forget]

end Picture

/-! ## Plugins -/

namespace Plugin

def drawPlain (p : Plugin) (canvas : Image) : Drawing :=
  match p with
  | image p => p.drawPlain canvas
  | text p => p.draw canvas
  | qr p => p.draw canvas

/-- Draws the plugins of a list in order and keeps nothing. -/
def composePlain : (index : Nat) → List Plugin → Image → Except RenderError Image
  | _, [], canvas => .ok canvas
  | index, p :: ps, canvas =>
    match p.drawPlain canvas with
    | .overflow => .error .task
    | .failed e => .error (.draw index p.kind e)
    | .done canvas => composePlain (index + 1) ps canvas

def forget : Plugin → Plugin
  | image p => image p.forget
  | text p => text p
  | qr p => qr p

/-- What the plugin keeps is what it would make anew. -/
def Kept : Plugin → Prop
  | image p => p.Kept
  | _ => True

variable {p q : Plugin} {canvas img : Image} {assets : AssetSource} {values : RequestValues}

@[simp] theorem forget_forget : p.forget.forget = p.forget := by cases p <;> rfl

@[simp] theorem kind_forget : p.forget.kind = p.kind := by cases p <;> rfl

theorem drawPlain_forget : p.forget.drawPlain canvas = p.drawPlain canvas := by
  cases p <;> rfl

theorem draw_forget : (p.forget.draw canvas).1 = p.drawPlain canvas := by
  cases p with
  | image p => exact Picture.draw_forget
  | text c => rfl
  | qr c => rfl

theorem drawPlain_sides (h : p.drawPlain canvas = .done img) : img.sides = canvas.sides :=
  draw_sides (p := p.forget) (draw_forget.trans h)

theorem bind_forget : p.forget.bind values assets = p.bind values assets := by
  cases p with
  | image p => exact congrArg (Except.map _) Picture.bind_forget
  | text p => rfl
  | qr p => rfl

theorem bind_kept (h : p.bind values assets = .ok (some q)) : q.Kept := by
  cases p with
  | image p =>
      obtain ⟨copy, hb, hc⟩ := map_eq_ok.mp h
      obtain ⟨p', rfl, rfl⟩ := Option.map_eq_some_iff.mp hc
      exact Picture.bind_kept hb
  | text p =>
      obtain ⟨copy, -, hc⟩ := map_eq_ok.mp h
      obtain ⟨p', -, rfl⟩ := Option.map_eq_some_iff.mp hc
      trivial
  | qr p =>
      obtain ⟨copy, -, hc⟩ := map_eq_ok.mp h
      obtain ⟨p', -, rfl⟩ := Option.map_eq_some_iff.mp hc
      trivial

theorem configured_kept (h : Template.Configured assets p) : p.Kept := by
  obtain ⟨entry, declared, he, hc⟩ := h
  cases declared with
  | image d =>
      obtain ⟨q, hq, rfl⟩ := map_eq_ok.mp hc
      exact Picture.configure_kept (ofEntry_raster he) hq
  | text d =>
      obtain ⟨q, -, rfl⟩ := map_eq_ok.mp hc
      trivial
  | qr d =>
      obtain ⟨q, -, rfl⟩ := map_eq_ok.mp hc
      trivial

/-- Drawing gives what drawing without a cache gives, and changes nothing but the cache. -/
theorem draw_agrees (h : p.Kept) (canvas : Image) :
    (p.draw canvas).1 = p.drawPlain canvas ∧ (p.draw canvas).2.forget = p.forget ∧
      (p.draw canvas).2.Kept := by
  cases p with
  | image p =>
      obtain ⟨hd, hf, hk⟩ := Picture.draw_agrees h canvas
      exact ⟨hd, congrArg image hf, hk⟩
  | text p => exact ⟨rfl, rfl, trivial⟩
  | qr p => exact ⟨rfl, rfl, trivial⟩

/-! ## Lists of plugins -/

variable {ps qs : List Plugin}

theorem composePlain_forget {index : Nat} :
    composePlain index (ps.map forget) canvas = composePlain index ps canvas := by
  induction ps generalizing index canvas with
  | nil => rfl
  | cons p ps ih =>
      simp only [List.map_cons, composePlain, drawPlain_forget, kind_forget, ih]

theorem bindAll_forget {index : Nat} :
    bindAll values assets index (ps.map forget) = bindAll values assets index ps := by
  induction ps generalizing index with
  | nil => rfl
  | cons p ps ih => simp only [List.map_cons, bindAll, bind_forget, kind_forget, ih]

/-- All copies have come from the plugins they stand in for. -/
theorem bindAll_ok {index : Nat} {copies : List (Option Plugin)}
    (h : bindAll values assets index ps = .ok copies) :
    List.Forall₂ (fun p copy => p.bind values assets = .ok copy) ps copies := by
  induction ps generalizing index copies with
  | nil =>
      cases h
      exact .nil
  | cons p ps ih =>
      rw [bindAll] at h
      split at h
      · cases h
      · rename_i copy hb
        obtain ⟨rest, hr, rfl⟩ := map_eq_ok.mp h
        exact .cons hb (ih hr)

/-- What plugins have and binding keeps, the plugins that are drawn have. -/
theorem forall_bound {P : Plugin → Prop} {copies : List (Option Plugin)}
    (hbind : ∀ p q, P p → p.bind values assets = .ok (some q) → P q) (h : ∀ p ∈ ps, P p)
    (hb : List.Forall₂ (fun p copy => p.bind values assets = .ok copy) ps copies) :
    ∀ q ∈ ps.zipWith (fun p copy => copy.getD p) copies, P q := by
  induction hb with
  | nil => exact fun q hq => absurd hq List.not_mem_nil
  | @cons p copy ps copies hp _ ih =>
      intro q hq
      rw [List.zipWith_cons_cons] at hq
      rcases List.mem_cons.mp hq with rfl | hq
      · cases copy with
        | none => exact h p List.mem_cons_self
        | some q => exact hbind p q (h p List.mem_cons_self) hp
      · exact ih (fun p hp => h p (List.mem_cons_of_mem _ hp)) q hq

/-- A list of plugins is drawn as without caches, and nothing but the caches is changed, even where
one of the plugins cannot be drawn. -/
theorem drawAll_agrees (h : ∀ p ∈ ps, p.Kept) (index : Nat) (canvas : Image) :
    (drawAll index ps canvas).1 = composePlain index ps canvas ∧
      (drawAll index ps canvas).2.map forget = ps.map forget ∧
      ∀ q ∈ (drawAll index ps canvas).2, q.Kept := by
  induction ps generalizing index canvas with
  | nil => exact ⟨rfl, rfl, h⟩
  | cons p ps ih =>
      have hp : p.Kept := h p List.mem_cons_self
      have hps : ∀ q ∈ ps, q.Kept := fun q hq => h q (List.mem_cons_of_mem _ hq)
      obtain ⟨hd, hf, hk⟩ := draw_agrees hp canvas
      rw [drawAll, composePlain, ← hd, List.map_cons, ← hf]
      generalize p.draw canvas = drawn at hf hk
      obtain ⟨drawn, q⟩ := drawn
      cases drawn with
      | done img =>
          obtain ⟨h₁, h₂, h₃⟩ := ih hps (index + 1) img
          exact ⟨h₁, congrArg _ h₂, List.forall_mem_cons.mpr ⟨hk, h₃⟩⟩
      | failed e =>
          have hkind : q.kind = p.kind := by rw [← kind_forget, hf, kind_forget]
          exact ⟨by rw [← hkind], rfl, List.forall_mem_cons.mpr ⟨hk, hps⟩⟩
      | overflow => exact ⟨rfl, rfl, List.forall_mem_cons.mpr ⟨hk, hps⟩⟩

end Plugin
end Placard
