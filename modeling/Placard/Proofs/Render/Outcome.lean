/-
# What comes of a render

A render binds all plugins and then draws all of them, and stops at the first failure of either.  So
what comes of it can be told without drawing anything:

| | |
| :-- | :-- |
| a plugin cannot be bound | the first such plugin, its kind and the cause |
| all are bound, a picture has no room | the first such picture and the sides of its rectangle |
| neither | an image of the selected width and the height derived from it |

Only an overflow can come in between: it breaks off the task that draws.  That nothing else can happen
rests on an invariant from configuring through binding to drawing.  A configured plugin has all that
drawing takes (`Able`), except that a picture that takes its image from the request has no raster yet;
binding it always loads one (`Plugin.bind_ready`).  And a copy is drawn where the plugin itself would
have been, on a canvas whose sides no drawing changes.
-/
import Placard.Proofs.Raster.Extent
import Placard.Proofs.Render.History

namespace Placard

/-! ## The first of a list -/

/-- Entry number `i` is the first one with the property. -/
def IsFirst {α : Type} (P : α → Prop) (as : List α) (i : Nat) (a : α) : Prop :=
  as[i]? = some a ∧ P a ∧ ∀ j b, j < i → as[j]? = some b → ¬ P b

namespace IsFirst

variable {α : Type} {P : α → Prop} {a b : α} {as : List α} {i : Nat}

theorem head (h : P a) : IsFirst P (a :: as) 0 a :=
  ⟨rfl, h, fun _ _ hj => absurd hj (Nat.not_lt_zero _)⟩

theorem tail (hb : ¬ P b) (h : IsFirst P as i a) : IsFirst P (b :: as) (i + 1) a := by
  refine ⟨h.1, h.2.1, fun j c hj hc => ?_⟩
  cases j with
  | zero =>
      cases hc
      exact hb
  | succ j => exact h.2.2 j c (Nat.lt_of_succ_lt_succ hj) hc

theorem mem (h : IsFirst P as i a) : a ∈ as := List.mem_of_getElem? h.1

/-- There is only one first. -/
theorem unique {j : Nat} (h : IsFirst P as i a) (h' : IsFirst P as j b) : i = j ∧ a = b := by
  have hij : i = j := by
    rcases Nat.lt_trichotomy i j with hlt | heq | hgt
    · exact absurd h.2.1 (h'.2.2 i a hlt h.1)
    · exact heq
    · exact absurd h'.2.1 (h.2.2 j b hgt h'.1)
  subst hij
  exact ⟨rfl, Option.some.inj (h.1.symm.trans h'.1)⟩

end IsFirst

namespace Plugin

/-! ## What drawing takes -/

/-- The plugin has all that drawing takes. -/
def Ready : Plugin → Prop
  | image p => p.raster.isSome = true
  | text c => c.face.isSome = true
  | qr c => c.matrix.isSome = true

/-- The plugin is ready, or will be once it has been bound. -/
def Able : Plugin → Prop
  | image p => p.bindings.isEmpty = true → p.raster.isSome = true
  | text c => c.face.isSome = true
  | qr c => c.matrix.isSome = true

/-- The rectangle that the plugin is fitted into. -/
def rect? : Plugin → Option FractionRect
  | image p => some p.rect
  | _ => none

/-- The rectangle of the plugin is empty or inverted on a canvas of the given sides. -/
def HasNoRoom (width height : Nat) (p : Plugin) : Prop :=
  ∃ rect, p.rect? = some rect ∧ (rect.transform width height).isDegenerate = some true

/-- The plugin cannot take the values of a request. -/
def Unbindable (values : RequestValues) (assets : AssetSource) (p : Plugin) : Prop :=
  ∃ e, p.bind values assets = .error e

variable {p q : Plugin} {values : RequestValues} {assets : AssetSource} {canvas : Image}

theorem unbindable_iff : p.Unbindable values assets ↔ (p.bind values assets).isOk = false := by
  unfold Unbindable
  cases p.bind values assets with
  | error e => exact ⟨fun _ => rfl, fun _ => ⟨e, rfl⟩⟩
  | ok copy =>
      constructor
      · rintro ⟨_, h⟩
        cases h
      · intro h
        cases h

theorem configured_able (h : Template.Configured assets p) : p.Able := by
  obtain ⟨entry, declared, -, hc⟩ := h
  cases declared with
  | image d =>
      obtain ⟨q, hq, rfl⟩ := map_eq_ok.mp hc
      obtain ⟨bindings, -, ⟨-, hl⟩ | ⟨hb, rfl⟩⟩ := Picture.configure_ok hq
      · obtain ⟨-, raster, -, rfl⟩ := Picture.load_eq_ok.mp hl
        exact fun _ => rfl
      · intro he
        rw [show bindings.isEmpty = true from he] at hb
        cases hb
  | text d =>
      obtain ⟨q, hq, rfl⟩ := map_eq_ok.mp hc
      obtain ⟨_, _, face, -, -, -, rfl⟩ := Caption.configure_ok hq
      rfl
  | qr d =>
      obtain ⟨q, hq, rfl⟩ := map_eq_ok.mp hc
      obtain ⟨_, _, matrix, -, -, hq⟩ := Code.configure_ok hq
      show q.matrix.isSome = true
      rw [hq]
      rfl

/-- What stands in for a plugin once it has been bound can be drawn, and goes to the same place. -/
theorem bind_ready {copy : Option Plugin} (h : p.Able) (hb : p.bind values assets = .ok copy) :
    (copy.getD p).Ready ∧ (copy.getD p).rect? = p.rect? := by
  cases p with
  | image p =>
      obtain ⟨copy', hp, rfl⟩ := map_eq_ok.mp hb
      cases copy' with
      | none => exact ⟨(Picture.bind_none hp).elim h id, rfl⟩
      | some q =>
          obtain ⟨uri, raster, -, rfl⟩ := Picture.bind_some hp
          exact ⟨rfl, rfl⟩
  | text c =>
      obtain ⟨copy', hc, rfl⟩ := map_eq_ok.mp hb
      cases copy' with
      | none => exact ⟨h, rfl⟩
      | some d =>
          obtain ⟨_, _, _, _, _, rfl⟩ := Caption.bind_some hc
          exact ⟨h, rfl⟩
  | qr c =>
      obtain ⟨copy', hc, rfl⟩ := map_eq_ok.mp hb
      cases copy' with
      | none => exact ⟨h, rfl⟩
      | some d =>
          obtain ⟨_, _, -, rfl⟩ := Code.bind_some hc
          exact ⟨rfl, rfl⟩

end Plugin

/-! ## Drawing what is ready -/

namespace Plugin

variable {p : Plugin} {values : RequestValues} {assets : AssetSource} {canvas : Image}
  {width height : Nat}

/-- A plugin that is rejected is a picture whose rectangle has no room, if it is ready. -/
theorem drawPlain_of_failed {e : DrawError} (hr : p.Ready) (hc : canvas.sides = (width, height))
    (h : p.drawPlain canvas = .failed e) : p.kind = .image ∧ p.HasNoRoom width height ∧
      ∃ rect w h, p.rect? = some rect ∧ (rect.transform width height).width = some w ∧
        (rect.transform width height).height = some h ∧ e = .degenerateRect w h := by
  obtain ⟨rfl, rfl⟩ := Prod.mk.inj hc
  cases p with
  | image p =>
      have hforget : (p.forget.draw canvas).1 = .failed e := Picture.draw_forget.trans h
      have hplan := Picture.draw_eq_failed.mp hforget
      obtain ⟨w, h', hd, hw, hh, rfl⟩ | ⟨-, hnone, -⟩ := Picture.plan_eq_error.mp hplan
      · exact ⟨rfl, ⟨p.rect, rfl, hd⟩, p.rect, w, h', rfl, hw, hh, rfl⟩
      · have hsome : p.raster.isSome = true := hr
        rw [show p.raster = none from hnone] at hsome
        cases hsome
  | text c =>
      obtain ⟨face, hf⟩ := Option.isSome_iff_exists.mp hr
      obtain ⟨layout, -, hd⟩ := Caption.draw_of_face canvas hf
      cases Drawing.ofImage?_ne_failed _ _ (hd.symm.trans h)
  | qr c =>
      obtain ⟨matrix, hm⟩ := Option.isSome_iff_exists.mp hr
      cases Drawing.ofImage?_ne_failed _ _ ((Code.draw_of_matrix hm).symm.trans h)

theorem not_hasNoRoom_of_done {img : Image} (hc : canvas.sides = (width, height))
    (h : p.drawPlain canvas = .done img) : ¬ p.HasNoRoom width height := by
  obtain ⟨rfl, rfl⟩ := Prod.mk.inj hc
  rintro ⟨rect, hrect, hd⟩
  cases p with
  | image p =>
      cases hrect
      obtain ⟨raster, box, hplan, -⟩ := Picture.draw_eq_done.mp (Picture.draw_forget.trans h)
      cases hd.symm.trans (Picture.plan_eq_ok.mp hplan).1
  | text c => cases hrect
  | qr c => cases hrect

/-! ## Lists of plugins -/

variable {ps qs : List Plugin} {copies : List (Option Plugin)}

/-- Binding stops at the first plugin that cannot be bound. -/
theorem bindAll_of_unbindable (h : ∃ p ∈ ps, Unbindable values assets p) (index : Nat) :
    ∃ i p e, IsFirst (Unbindable values assets) ps i p ∧ p.bind values assets = .error e ∧
      bindAll values assets index ps = .error (.bind (index + i) p.kind e) := by
  induction ps generalizing index with
  | nil =>
      obtain ⟨p, hp, -⟩ := h
      exact absurd hp List.not_mem_nil
  | cons p ps ih =>
      cases hb : p.bind values assets with
      | error e => exact ⟨0, p, e, IsFirst.head ⟨e, hb⟩, hb, by simp only [bindAll, hb]; rfl⟩
      | ok copy =>
          have hp : ¬ Unbindable values assets p := by
            rintro ⟨e, he⟩
            rw [hb] at he
            cases he
          have hps : ∃ q ∈ ps, Unbindable values assets q := by
            obtain ⟨q, hq, hu⟩ := h
            rcases List.mem_cons.mp hq with rfl | hq
            · exact absurd hu hp
            · exact ⟨q, hq, hu⟩
          obtain ⟨i, q, e, hfirst, hq, hall⟩ := ih hps (index + 1)
          refine ⟨i + 1, q, e, hfirst.tail hp, hq, ?_⟩
          simp only [bindAll, hb, hall, Except.map]
          rw [Nat.add_assoc, Nat.add_comm 1 i]

theorem bindAll_of_bindable (h : ∀ p ∈ ps, ¬ Unbindable values assets p) (index : Nat) :
    ∃ copies, bindAll values assets index ps = .ok copies := by
  induction ps generalizing index with
  | nil => exact ⟨[], rfl⟩
  | cons p ps ih =>
      cases hb : p.bind values assets with
      | error e => exact absurd ⟨e, hb⟩ (h p List.mem_cons_self)
      | ok copy =>
          obtain ⟨copies, hc⟩ := ih (fun q hq => h q (List.mem_cons_of_mem _ hq)) (index + 1)
          exact ⟨copy :: copies, by simp only [bindAll, hb, hc, Except.map]⟩

/-- What stands in for the plugins of a list can be drawn, and goes to the same places. -/
theorem bound_ready (h : ∀ p ∈ ps, p.Able)
    (hb : List.Forall₂ (fun p copy => p.bind values assets = .ok copy) ps copies) :
    List.Forall₂ (fun p q => q.Ready ∧ q.rect? = p.rect?) ps
      (ps.zipWith (fun p copy => copy.getD p) copies) := by
  induction hb with
  | nil => exact .nil
  | @cons p copy ps copies hp _ ih =>
      exact .cons (bind_ready (h p List.mem_cons_self) hp)
        (ih fun q hq => h q (List.mem_cons_of_mem _ hq))

/-- Plugin number `i` is the first one without room, and that is what comes of drawing all. -/
def FailsAt (width height : Nat) (ps : List Plugin) (i : Nat) (e : DrawError) : Prop :=
  ∃ p rect w h, IsFirst (HasNoRoom width height) ps i p ∧ p.rect? = some rect ∧
    (rect.transform width height).width = some w ∧
    (rect.transform width height).height = some h ∧ e = .degenerateRect w h

/-- What a list fails with depends on its plugins and the sides of the canvas alone. -/
theorem FailsAt.unique {i j : Nat} {e e' : DrawError} (h : FailsAt width height ps i e)
    (h' : FailsAt width height ps j e') : i = j ∧ e = e' := by
  obtain ⟨p, rect, w, h, hfirst, hrect, hw, hh, rfl⟩ := h
  obtain ⟨p', rect', w', h', hfirst', hrect', hw', hh', rfl⟩ := h'
  obtain ⟨rfl, rfl⟩ := hfirst.unique hfirst'
  cases hrect.symm.trans hrect'
  cases hw.symm.trans hw'
  cases hh.symm.trans hh'
  exact ⟨rfl, rfl⟩

/-- Drawing stops at an overflow or at the first picture without room, or comes to the end. -/
theorem composePlain_cases (hb : List.Forall₂ (fun p q => q.Ready ∧ q.rect? = p.rect?) ps qs)
    (hc : canvas.sides = (width, height)) (index : Nat) :
    composePlain index qs canvas = .error .task ∨
      (∃ i e, FailsAt width height ps i e ∧
        composePlain index qs canvas = .error (.draw (index + i) .image e)) ∨
      (∀ p ∈ ps, ¬ p.HasNoRoom width height) ∧
        ∃ img, composePlain index qs canvas = .ok img ∧ img.sides = (width, height) := by
  induction hb generalizing index canvas with
  | nil => exact .inr (.inr ⟨fun p hp => absurd hp List.not_mem_nil, canvas, rfl, hc⟩)
  | @cons p q ps qs hq _ ih =>
      have hroom : q.HasNoRoom width height ↔ p.HasNoRoom width height := by
        unfold HasNoRoom
        rw [hq.2]
      rw [composePlain]
      cases hd : q.drawPlain canvas with
      | overflow => exact .inl rfl
      | failed e =>
          obtain ⟨hkind, hn, rect, w, h, hrect, hw, hh, rfl⟩ := drawPlain_of_failed hq.1 hc hd
          rw [hq.2] at hrect
          exact .inr (.inl ⟨0, _, ⟨p, rect, w, h, IsFirst.head (hroom.mp hn), hrect, hw, hh, rfl⟩,
            by rw [hkind]; rfl⟩)
      | done img =>
          have hp : ¬ p.HasNoRoom width height := fun h =>
            not_hasNoRoom_of_done hc hd (hroom.mpr h)
          obtain ht | ⟨i, e, ⟨p', rect, w, h, hfirst, hrest⟩, hall⟩ | ⟨hps, himg⟩ :=
            ih ((drawPlain_sides hd).trans hc) (index + 1)
          · exact .inl ht
          · rw [Nat.add_assoc, Nat.add_comm 1 i] at hall
            exact .inr (.inl ⟨i + 1, e, ⟨p', rect, w, h, hfirst.tail hp, hrest⟩, hall⟩)
          · exact .inr (.inr ⟨List.forall_mem_cons.mpr ⟨hp, hps⟩, himg⟩)

end Plugin

/-! ## Templates -/

instance {result : Except RenderError Image} : Decidable (result = .error .task) :=
  match result with
  | .error .task => .isTrue rfl
  | .error (.bind ..) | .error (.draw ..) | .error (.source _) | .error .encode | .ok _ =>
    .isFalse nofun

namespace Template

variable {t : Template} {values : RequestValues} {requested : Nat} {assets : AssetSource}

theorem load_able {name : String} {content : Payload} (h : load name content assets = .ok t) :
    ∀ p ∈ t.plugins, p.Able := fun p hp => Plugin.configured_able (load_configured h p hp)

@[simp] theorem canvas_sides (t : Template) (width : Nat) :
    (t.canvas width).sides = (width, t.deriveHeight width) := Image.canvas_sides

theorem renderPlain_of_unbindable (hu : ∃ p ∈ t.plugins, p.Unbindable values assets) :
    ∃ i p e, IsFirst (Plugin.Unbindable values assets) t.plugins i p ∧
      p.bind values assets = .error e ∧
      t.renderPlain values requested assets = .error (.bind i p.kind e) := by
  obtain ⟨i, p, e, hfirst, hp, hall⟩ := Plugin.bindAll_of_unbindable hu 0
  rw [Nat.zero_add] at hall
  exact ⟨i, p, e, hfirst, hp, by unfold renderPlain; rw [hall]⟩

/-- What comes of a render without a cache. -/
theorem renderPlain_cases (ht : ∀ p ∈ t.plugins, p.Able) (values : RequestValues)
    (requested : Nat) (assets : AssetSource) :
    let width := t.selectWidth requested
    let height := t.deriveHeight width
    let result := t.renderPlain values requested assets
    (∃ i p e, IsFirst (Plugin.Unbindable values assets) t.plugins i p ∧
      p.bind values assets = .error e ∧ result = .error (.bind i p.kind e)) ∨
    (∀ p ∈ t.plugins, ¬ p.Unbindable values assets) ∧
      (result = .error .task ∨
        (∃ i e, Plugin.FailsAt width height t.plugins i e ∧ result = .error (.draw i .image e)) ∨
        (∀ p ∈ t.plugins, ¬ p.HasNoRoom width height) ∧
          ∃ img, result = .ok img ∧ img.sides = (width, height)) := by
  intro width height result
  by_cases hu : ∃ p ∈ t.plugins, p.Unbindable values assets
  · exact .inl (renderPlain_of_unbindable hu)
  · have hbound : ∀ p ∈ t.plugins, ¬ p.Unbindable values assets := fun p hp hx => hu ⟨p, hp, hx⟩
    obtain ⟨copies, hc⟩ := Plugin.bindAll_of_bindable hbound 0
    have hready := Plugin.bound_ready ht (Plugin.bindAll_ok hc)
    have hcases := Plugin.composePlain_cases hready (t.canvas_sides width) 0
    refine .inr ⟨hbound, ?_⟩
    have hresult : result = Plugin.composePlain 0
        (t.plugins.zipWith (fun p copy => copy.getD p) copies) (t.canvas width) := by
      unfold result renderPlain
      rw [hc]
    simp only [Nat.zero_add] at hcases
    rw [hresult]
    exact hcases

/-- What comes of a render of a loaded template, whatever has been rendered before.

If a plugin cannot be bound, it is the failure of the first such plugin, even where an earlier one
could not have been drawn; otherwise, if a picture has no room, it is that of the first such picture;
otherwise it is an image of the selected width and the height derived from it.  Only an overflow can
put the failure of the task in the place of the last two.  So the only failure of drawing is that of
a picture without room, and it does not depend on the values of the request. -/
theorem render_outcome {name : String} {content : Payload} {source : AssetSource}
    (h : load name content source = .ok t) (history : List RenderRequest) (requested : Nat) :
    let width := t.selectWidth requested
    let height := t.deriveHeight width
    let result := fun values assets => ((t.after history).render values requested assets).1
    (∀ values assets, (∃ p ∈ t.plugins, p.Unbindable values assets) →
      ∃ i p e, IsFirst (Plugin.Unbindable values assets) t.plugins i p ∧
        p.bind values assets = .error e ∧ result values assets = .error (.bind i p.kind e)) ∧
    (∀ values assets, (∀ p ∈ t.plugins, ¬ p.Unbindable values assets) →
      (∃ p ∈ t.plugins, p.HasNoRoom width height) → result values assets = .error .task ∨
      ∃ i p rect w h, IsFirst (Plugin.HasNoRoom width height) t.plugins i p ∧
        p.rect? = some rect ∧ (rect.transform width height).width = some w ∧
        (rect.transform width height).height = some h ∧
        result values assets = .error (.draw i .image (.degenerateRect w h))) ∧
    (∀ values assets, (∀ p ∈ t.plugins, ¬ p.Unbindable values assets) →
      (∀ p ∈ t.plugins, ¬ p.HasNoRoom width height) → result values assets = .error .task ∨
      ∃ img, result values assets = .ok img ∧ img.sides = (width, height)) ∧
    (∀ values assets i kind e, result values assets = .error (.draw i kind e) →
      kind = .image ∧ e ≠ .notConfigured) ∧
    (∀ values assets values' assets', (∀ p ∈ t.plugins, ¬ p.Unbindable values assets) →
      (∀ p ∈ t.plugins, ¬ p.Unbindable values' assets') →
      result values assets = .error .task ∨ result values' assets' = .error .task ∨
      (∃ i kind e, result values assets = .error (.draw i kind e) ∧
          result values' assets' = .error (.draw i kind e)) ∨
        ∃ img img', result values assets = .ok img ∧ result values' assets' = .ok img') := by
  intro width height result
  have hcases : ∀ values assets,
      (∃ i p e, IsFirst (Plugin.Unbindable values assets) t.plugins i p ∧
        p.bind values assets = .error e ∧ result values assets = .error (.bind i p.kind e)) ∨
      (∀ p ∈ t.plugins, ¬ p.Unbindable values assets) ∧ (result values assets = .error .task ∨
        (∃ i e, Plugin.FailsAt width height t.plugins i e ∧
          result values assets = .error (.draw i .image e)) ∨
        (∀ p ∈ t.plugins, ¬ p.HasNoRoom width height) ∧
          ∃ img, result values assets = .ok img ∧ img.sides = (width, height)) := by
    intro values assets
    rw [show result values assets = t.renderPlain values requested assets from
      render_after (load_kept h) history]
    exact renderPlain_cases (load_able h) values requested assets
  -- a plugin that comes first is in the list, so the cases exclude one another
  have hbound : ∀ {values assets}, (∀ p ∈ t.plugins, ¬ p.Unbindable values assets) →
      result values assets = .error .task ∨
        (∃ i e, Plugin.FailsAt width height t.plugins i e ∧
          result values assets = .error (.draw i .image e)) ∨
        (∀ p ∈ t.plugins, ¬ p.HasNoRoom width height) ∧
          ∃ img, result values assets = .ok img ∧ img.sides = (width, height) := by
    intro values assets hu
    obtain ⟨i, p, e, hfirst, -, -⟩ | ⟨-, hdrawn⟩ := hcases values assets
    · exact absurd hfirst.2.1 (hu p hfirst.mem)
    · exact hdrawn
  refine ⟨fun values assets hu => ?_, fun values assets hu hn => ?_, fun values assets hu hn => ?_,
    fun values assets i kind e he => ?_, fun values assets values' assets' hu hu' => ?_⟩
  · obtain hbind | ⟨hu', -⟩ := hcases values assets
    · exact hbind
    · obtain ⟨p, hp, hpu⟩ := hu
      exact absurd hpu (hu' p hp)
  · obtain ht | ⟨i, e, ⟨p, rect, w, h, hfirst, hrect, hw, hh, rfl⟩, hr⟩ | ⟨hn', -⟩ := hbound hu
    · exact .inl ht
    · exact .inr ⟨i, p, rect, w, h, hfirst, hrect, hw, hh, hr⟩
    · obtain ⟨p, hp, hpn⟩ := hn
      exact absurd hpn (hn' p hp)
  · obtain ht | ⟨i, e, ⟨p, rect, w, h, hfirst, -⟩, -⟩ | ⟨-, hok⟩ := hbound hu
    · exact .inl ht
    · exact absurd hfirst.2.1 (hn p hfirst.mem)
    · exact .inr hok
  · obtain ⟨_, _, _, -, -, hr⟩ | ⟨-, hr | ⟨_, _, ⟨_, _, _, _, -, -, -, -, rfl⟩, hr⟩ | ⟨-, _, hr, -⟩⟩ :=
      hcases values assets
    all_goals cases he.symm.trans hr
    exact ⟨rfl, DrawError.noConfusion⟩
  · obtain ht | ⟨i, e, hfails, hr⟩ | ⟨hn, img, hr, -⟩ := hbound hu
    · exact .inl ht
    · obtain ht | ⟨i', e', hfails', hr'⟩ | ⟨hn', -⟩ := hbound hu'
      · exact .inr (.inl ht)
      · obtain ⟨rfl, rfl⟩ := hfails.unique hfails'
        exact .inr (.inr (.inl ⟨i, .image, e, hr, hr'⟩))
      · obtain ⟨p, _, _, _, hfirst, -⟩ := hfails
        exact absurd hfirst.2.1 (hn' p hfirst.mem)
    · obtain ht | ⟨i', e', ⟨p, _, _, _, hfirst, -⟩, -⟩ | ⟨-, img', hr', -⟩ := hbound hu'
      · exact .inr (.inl ht)
      · exact absurd hfirst.2.1 (hn p hfirst.mem)
      · exact .inr (.inr (.inr ⟨img, img', hr, hr'⟩))

/-- A card whose first picture has no room, and whose second one takes its image from the request.
Without that image the failure is that of the second picture, which is bound before the first one is
drawn; with it, the failure is that of the first. -/
theorem render_outcome_of_card :
    let source : AssetSource := .ofPictures [("a", .filled 2 1 .white)]
    let card : Payload := .ofText <|
      "allWidths: [8]\nplugins:\n- \x7btype: image, image: a, rect: \x7bright: -1\x7d\x7d\n" ++
      "- \x7btype: image, binding: \x7bimage: b\x7d\x7d\n"
    let named := RequestValues.ofList [("b", .text "a")]
    ∃ t, load "card" card source = .ok t ∧
      (∃ e, (t.render .empty 8 source).1 = .error (.bind 1 .image e)) ∧
      (t.render named 8 source).1 = .error (.draw 0 .image (.degenerateRect (-8) 8)) := by
  intro source card named
  have ht : ((load "card" card source).toOption.any fun t => decide (
      (t.plugins.map fun p => (p.kind, (p.bind .empty source).isOk,
          (p.bind named source).isOk, p.rect?.map (·.transform 8 8))) =
        [(.image, true, true, some ⟨0, 0, -8, 8⟩), (.image, false, true, some ⟨0, 0, 8, 8⟩)] ∧
      t.selectWidth 8 = 8 ∧ t.deriveHeight 8 = 8 ∧
      (t.render named 8 source).1 ≠ .error .task)) = true := by
    rw [any_load (show card = .ofText _ from rfl)]
    simp only [String.toList_append]
    repeat rw [String.toList_ofList]
    decide +kernel
  obtain ⟨t, hl, ht⟩ := any_toOption.mp ht
  obtain ⟨hp, hw, hh, htask⟩ := of_decide_eq_true ht
  obtain ⟨p₀, ps, hps, hp₀, hp₁⟩ := List.map_eq_cons_iff.mp hp
  obtain ⟨p₁, ps', rfl, hp₁, hnil⟩ := List.map_eq_cons_iff.mp hp₁
  rw [List.map_eq_nil_iff.mp hnil] at hps
  simp only [Prod.mk.injEq, Option.map_eq_some_iff] at hp₀ hp₁
  obtain ⟨hk₀, he₀, hn₀, r, hr, hpx⟩ := hp₀
  obtain ⟨hk₁, he₁, hn₁, -⟩ := hp₁
  have hroom : p₀.HasNoRoom 8 8 := ⟨r, hr, by rw [hpx]; rfl⟩
  obtain ⟨hbind, hdraw, -⟩ := render_outcome hl [] 8
  rw [hw, hh, hps] at hdraw
  rw [hps] at hbind
  refine ⟨t, hl, ?_, ?_⟩
  · obtain ⟨i, p, e, ⟨hi, hu, -⟩, -, hres⟩ := hbind .empty source
      ⟨p₁, by simp, Plugin.unbindable_iff.mpr he₁⟩
    rcases i with _ | _ | i
    · cases hi
      rw [Plugin.unbindable_iff, he₀] at hu
      cases hu
    · cases hi
      rw [hk₁] at hres
      exact ⟨e, hres⟩
    · cases hi
  · have hbound : ∀ p ∈ [p₀, p₁], ¬ p.Unbindable named source := by
      simp [Plugin.unbindable_iff, hn₀, hn₁]
    obtain hres | ⟨i, p, rect, w, h, ⟨hi, -, hfirst⟩, hrect, hw, hh, hres⟩ :=
      hdraw named source hbound ⟨p₀, by simp, hroom⟩
    · exact absurd hres htask
    cases i with
    | zero =>
        cases hi
        cases hr.symm.trans hrect
        rw [hpx] at hw hh
        cases hw
        cases hh
        exact hres
    | succ i => exact absurd hroom (hfirst 0 p₀ (Nat.succ_pos i) rfl)

end Template
end Placard
