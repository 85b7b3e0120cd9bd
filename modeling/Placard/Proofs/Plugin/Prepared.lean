/-
# What is drawn for a request

A plugin is configured, bound to the values of a request, and drawn.  `Plugin.prepare` is the first two
steps, with what can go wrong in each; a plugin without a binding is drawn as it has been configured
(`Plugin.prepare_of_unbound`).

Two plugins are drawn alike (`DrawsLike`) if no canvas tells them apart.  Drawing looks at neither the
binding nor what is kept of earlier drawings, so it is enough that they agree in everything else
(`drawsLike_of_bare`).
-/
import Placard.Proofs.Plugin.Current

namespace Placard

/-- Why there is nothing to draw for a request. -/
inductive PrepareError where
  | config (cause : ConfigError)
  | bind (cause : BindError)

namespace Plugin

variable {p q d : Plugin} {values : RequestValues} {assets : AssetSource}

/-- What is drawn for a request: the configured plugin, or the copy that binding makes of it. -/
def prepare (d : Plugin) (values : RequestValues) (assets : AssetSource) :
    Except PrepareError Plugin :=
  match d.configure assets with
  | .error e => .error (.config e)
  | .ok p =>
    match p.bind values assets with
    | .error e => .error (.bind e)
    | .ok copy => .ok (copy.getD p)

/-- The two are drawn the same on every canvas, whatever they have been drawn on before. -/
def DrawsLike (p q : Plugin) : Prop :=
  ∀ (before before' : List Image) (canvas : Image),
    ((before.foldl afterDraw p).draw canvas).1 = ((before'.foldl afterDraw q).draw canvas).1

/-- The plugin without its binding and what it keeps. -/
def bare : Plugin → Plugin
  | image p => image { p with binding := [], bindings := .empty, cache := .empty p.mode }
  | text c => text { c with binding := [], bindings := .empty }
  | qr c => qr { c with binding := [], bindings := .empty }

theorem drawPlain_bare {canvas : Image} : p.bare.drawPlain canvas = p.drawPlain canvas := by
  cases p <;> rfl

/-- Drawing gives what drawing without a cache gives, whatever has been drawn before. -/
theorem draw_after (h : p.Kept) (before : List Image) (canvas : Image) :
    ((before.foldl afterDraw p).draw canvas).1 = p.drawPlain canvas := by
  induction before generalizing p with
  | nil => exact (draw_agrees h canvas).1
  | cons c before ih =>
      -- an earlier drawing changes the cache only, which `drawPlain` does not look at
      obtain ⟨hf, hk⟩ := afterDraw_agrees h c
      rw [List.foldl_cons, ih hk, ← drawPlain_forget, hf, drawPlain_forget]

theorem drawsLike_of_bare (hp : p.Kept) (hq : q.Kept) (h : p.bare = q.bare) : p.DrawsLike q := by
  intro before before' canvas
  rw [draw_after hp, draw_after hq, ← drawPlain_bare, h, drawPlain_bare]

/-- A plugin that declares no binding takes nothing from a request. -/
theorem bind_of_unbound (hd : d.isBound = false) (h : d.configure assets = .ok p) :
    p.bind values assets = .ok none := by
  cases d with
  | image d =>
      obtain ⟨p, hp, rfl⟩ := map_eq_ok.mp h
      have hnil : d.binding = [] := by simpa [isBound, Picture.isBound] using hd
      obtain ⟨bindings, hb, hcases⟩ := Picture.configure_ok hp
      rw [hnil] at hb
      cases hb
      obtain ⟨-, hl⟩ | ⟨he, -⟩ := hcases
      · obtain ⟨-, raster, -, rfl⟩ := Picture.load_eq_ok.mp hl
        rfl
      · cases he
  | text d =>
      obtain ⟨c, hc, rfl⟩ := map_eq_ok.mp h
      have hnil : d.binding = [] := by simpa [isBound, Caption.isBound] using hd
      obtain ⟨bindings, ink, face, hb, -, -, rfl⟩ := Caption.configure_ok hc
      rw [hnil] at hb
      cases hb
      rfl
  | qr d =>
      obtain ⟨c, hc, rfl⟩ := map_eq_ok.mp h
      have hnil : d.binding = [] := by simpa [isBound, Code.isBound] using hd
      obtain ⟨bindings, ink, matrix, hb, -, rfl⟩ := Code.configure_ok hc
      rw [hnil] at hb
      cases hb
      rfl

/-- A plugin that declares no binding is drawn as it has been configured. -/
theorem prepare_of_unbound (hd : d.isBound = false) :
    d.prepare values assets = (d.configure assets).mapError .config := by
  unfold prepare
  cases h : d.configure assets with
  | error e => rfl
  | ok p =>
      simp only [bind_of_unbound hd h]
      rfl

end Plugin
end Placard
