/-
# What is made of a plugin stays current

Configuring makes something of what a plugin declares, and keeps it beside the declaration.

| | made | of |
| :-- | :-- | :-- |
| picture | its raster, the sizes of it that are kept | the image, the mode |
| caption | its face, its ink | the font and its size, the color |
| code | its matrix | the text, the level |

Binding changes the declaration on a copy that begins with everything the plugin had, and drawing adds
to the sizes that are kept.  So what is made could come to belong to a declaration that is no longer
there.  It does not: `Current` says that it is what would be made now, configuring brings that about
(`Plugin.configure_current`), every use keeps it (`Plugin.use_current`), and so does any chain of uses
(`Plugin.chain_current`).
-/
import Placard.Proofs.Plugin.Plain

namespace Placard

variable {assets : AssetSource} {values : RequestValues} {canvas : Image}

/-! ## What would be made now -/

/-- The raster, if there is one, is that of the image at hand, and the sizes of it that are kept are
made from it by the mode at hand. -/
structure Picture.Current (assets : AssetSource) (p : Picture) : Prop where
  raster_eq : ∀ raster, p.raster = some raster → assets.image p.image = .ok raster
  kept : p.Kept

/-- The face is that of the font and the size at hand, and the ink that of the color. -/
structure Caption.Current (assets : AssetSource) (c : Caption) : Prop where
  face_eq : ∃ face, c.face = some face ∧
    FontFace.load assets c.fontUri (narrow c.fontSize) = .ok face
  ink_eq : Rgba.parseOr c.color .black = .ok c.ink

/-- The matrix is that of the text and the level at hand. -/
def Code.Current (c : Code) : Prop :=
  ∃ matrix, c.matrix = some matrix ∧ Matrix.encode c.text c.recovery = .ok matrix

/-! ## Pictures -/

namespace Picture

variable {p q : Picture}

theorem load_current (h : p.load assets = .ok q) : q.Current assets := by
  refine ⟨?_, load_kept h⟩
  obtain ⟨-, raster, hr, rfl⟩ := load_eq_ok.mp h
  intro raster' he
  cases he
  exact hr

theorem configure_current (hp : p.raster = none) (h : p.configure assets = .ok q) :
    q.Current assets := by
  obtain ⟨bindings, -, ⟨-, hl⟩ | ⟨-, rfl⟩⟩ := configure_ok h
  · exact load_current hl
  · exact ⟨fun raster hr => (by cases hp.symm.trans hr), kept_of_raster_none hp⟩

/-- A copy has been loaded for the image that the entries have come to. -/
theorem bind_current (h : p.bind values assets = .ok (some q)) : q.Current assets := by
  refine ⟨?_, bind_kept h⟩
  obtain ⟨uri, raster, hr, rfl⟩ := bind_some h
  intro raster' he
  cases he
  exact hr

/-- A picture with another sound cache has the same image and raster. -/
theorem Current.of_forget (h : p.Current assets) (hf : q.forget = p.forget) (hk : q.Kept) :
    q.Current assets := by
  have himage : q.forget.image = p.forget.image := by rw [hf]
  have hraster : q.forget.raster = p.forget.raster := by rw [hf]
  refine ⟨fun raster hr => ?_, hk⟩
  rw [show q.image = p.image from himage]
  exact h.raster_eq raster (hraster.symm.trans hr)

end Picture

/-! ## Captions -/

namespace Caption

variable {c d : Caption}

theorem configure_current (h : c.configure assets = .ok d) : d.Current assets := by
  obtain ⟨bindings, ink, face, -, hi, hf, rfl⟩ := configure_ok h
  exact ⟨⟨face, rfl, hf⟩, hi⟩

/-- No entry of a binding names the font, its size or the color. -/
theorem bind_current (hc : c.Current assets) (h : c.bind values = .ok (some d)) :
    d.Current assets := by
  obtain ⟨_, _, _, _, _, rfl⟩ := bind_some h
  exact ⟨hc.face_eq, hc.ink_eq⟩

end Caption

/-! ## Codes -/

namespace Code

variable {c d : Code}

theorem configure_current (h : c.configure = .ok d) : d.Current := by
  obtain ⟨_, _, matrix, -, hm, hd⟩ := configure_ok h
  exact ⟨matrix, by rw [hd], hm⟩

/-- A copy has been built for the text that the entries have come to. -/
theorem bind_current (h : c.bind values = .ok (some d)) : d.Current := by
  obtain ⟨text, matrix, hm, rfl⟩ := bind_some h
  exact ⟨matrix, rfl, hm⟩

end Code

/-! ## Uses of a plugin -/

/-- What is done with a configured plugin. -/
inductive PluginUse where
  | bind (values : RequestValues)
  | draw (canvas : Image)

namespace Plugin

/-- The picture, if the plugin is one. -/
def picture? : Plugin → Option Picture
  | image p => some p
  | _ => none

/-- Nothing has been loaded for the plugin yet. -/
def Unloaded : Plugin → Prop
  | image p => p.raster = none
  | _ => True

/-- What has been made of the plugin is what would be made of it now. -/
def Current (assets : AssetSource) : Plugin → Prop
  | image p => p.Current assets
  | text c => c.Current assets
  | qr c => c.Current

/-- The plugin after it has been drawn, whether or not it could be. -/
def afterDraw (p : Plugin) (canvas : Image) : Plugin := (p.draw canvas).2

/-- What a use leaves behind: a copy, or the plugin itself where binding changes nothing. -/
def use (assets : AssetSource) (p : Plugin) : PluginUse → Except BindError Plugin
  | .bind values => (p.bind values assets).map (·.getD p)
  | .draw canvas => .ok (p.afterDraw canvas)

/-- What a chain of uses leaves behind, each of which begins with what the one before it has left. -/
def chain (assets : AssetSource) (p : Plugin) (uses : List PluginUse) : Except BindError Plugin :=
  uses.foldlM (use assets) p

variable {p q d : Plugin}

theorem picture?_eq_some {r : Picture} : p.picture? = some r ↔ p = image r := by
  cases p with
  | image p =>
      exact ⟨fun h => congrArg image (Option.some.inj h), fun h => congrArg some (image.inj h)⟩
  | text c => exact ⟨fun h => (by cases h), fun h => (by cases h)⟩
  | qr c => exact ⟨fun h => (by cases h), fun h => (by cases h)⟩

theorem afterDraw_agrees (h : p.Kept) (canvas : Image) :
    (p.afterDraw canvas).forget = p.forget ∧ (p.afterDraw canvas).Kept := (draw_agrees h canvas).2

theorem Current.kept (h : p.Current assets) : p.Kept := by
  cases p with
  | image p => exact Picture.Current.kept h
  | text c => trivial
  | qr c => trivial

theorem configure_current (hd : d.Unloaded) (h : d.configure assets = .ok p) :
    p.Current assets := by
  cases d with
  | image d =>
      obtain ⟨p, hp, rfl⟩ := map_eq_ok.mp h
      exact Picture.configure_current hd hp
  | text d =>
      obtain ⟨c, hc, rfl⟩ := map_eq_ok.mp h
      exact Caption.configure_current hc
  | qr d =>
      obtain ⟨c, hc, rfl⟩ := map_eq_ok.mp h
      exact Code.configure_current hc

theorem bind_current (hp : p.Current assets) (h : p.bind values assets = .ok (some q)) :
    q.Current assets := by
  cases p with
  | image p =>
      obtain ⟨copy, hb, hc⟩ := map_eq_ok.mp h
      obtain ⟨p', rfl, rfl⟩ := Option.map_eq_some_iff.mp hc
      exact Picture.bind_current hb
  | text c =>
      obtain ⟨copy, hb, hc⟩ := map_eq_ok.mp h
      obtain ⟨c', rfl, rfl⟩ := Option.map_eq_some_iff.mp hc
      exact Caption.bind_current hp hb
  | qr c =>
      obtain ⟨copy, hb, hc⟩ := map_eq_ok.mp h
      obtain ⟨c', rfl, rfl⟩ := Option.map_eq_some_iff.mp hc
      exact Code.bind_current hb

/-- Drawing changes nothing that anything is made of. -/
theorem afterDraw_current (h : p.Current assets) (canvas : Image) :
    (p.afterDraw canvas).Current assets := by
  -- a plugin that is the same but for a cache is of the same kind
  obtain ⟨hf, hk⟩ := afterDraw_agrees h.kept canvas
  generalize p.afterDraw canvas = q at hf hk
  cases p with
  | image p =>
      cases q with
      | image q => exact Picture.Current.of_forget h (image.inj hf) hk
      | text d => cases hf
      | qr d => cases hf
  | text c =>
      cases q with
      | image q => cases hf
      | text d =>
          cases hf
          exact h
      | qr d => cases hf
  | qr c =>
      cases q with
      | image q => cases hf
      | text d => cases hf
      | qr d =>
          cases hf
          exact h

/-- One use keeps what has been made current. -/
theorem use_current {u : PluginUse} (hp : p.Current assets) (h : p.use assets u = .ok q) :
    q.Current assets := by
  cases u with
  | bind values =>
      obtain ⟨copy, hb, rfl⟩ := map_eq_ok.mp h
      cases copy with
      | none => exact hp
      | some q => exact bind_current hp hb
  | draw canvas =>
      cases h
      exact afterDraw_current hp canvas

/-- Whatever chain of requests and drawings a configured plugin has been through, what has been made
of it is what would be made of it now. -/
theorem chain_current {uses : List PluginUse} (hd : d.Unloaded)
    (hp : d.configure assets = .ok p) (hq : p.chain assets uses = .ok q) : q.Current assets :=
  foldlM_keeps (Current assets) (fun _ _ _ => use_current) (configure_current hd hp) hq

/-- A picture whose image two requests name, one after the other, and which is drawn in between. -/
theorem chain_current_of_picture :
    let source : AssetSource := .ofPictures [("a", .filled 1 1 .white), ("b", .filled 1 1 .black)]
    let named := fun uri => RequestValues.ofList [("pic", .text uri)]
    let uses := [.bind (named "a"), .draw (.filled 4 4 .white), .bind (named "b"),
      .bind (named "b")]
    ∃ p q : Picture,
      configure (.image { binding := [("IMAGE", "Pic")] }) source = .ok (.image p) ∧
      chain source (.image p) uses = .ok (.image q) ∧
      p.raster = none ∧ q.image = "b" ∧ source.image q.image = .ok (.filled 1 1 .black) ∧
      (Plugin.image q).Current source := by
  intro source named uses
  have h : ((configure (.image { binding := [("IMAGE", "Pic")] }) source).toOption.any fun p =>
      (p.chain source uses).toOption.any fun q => p.picture?.any fun p => q.picture?.any fun q =>
        decide (p.raster = none ∧ q.image = "b" ∧ q.raster = some (.filled 1 1 .black))) =
      true := by
    decide +kernel
  obtain ⟨p, hp, h⟩ := any_toOption.mp h
  obtain ⟨q, hq, h⟩ := any_toOption.mp h
  have hc := chain_current (d := .image { binding := [("IMAGE", "Pic")] }) rfl hp hq
  obtain ⟨p, hpp, h⟩ := (Option.any_eq_true _ _).mp h
  obtain ⟨q, hqq, h⟩ := (Option.any_eq_true _ _).mp h
  rw [picture?_eq_some.mp hpp, picture?_eq_some.mp hqq] at hq
  rw [picture?_eq_some.mp hpp] at hp
  rw [picture?_eq_some.mp hqq] at hc
  obtain ⟨hn, hi, hr⟩ := of_decide_eq_true h
  exact ⟨p, q, hp, hq, hn, hi, Picture.Current.raster_eq hc _ hr, hc⟩

end Plugin
end Placard
