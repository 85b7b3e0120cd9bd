/-
# The life of a plugin

A plugin is declared, configured, bound to the values of a request, and drawn.  Each of the first
steps is inverted here once: what a configured plugin is made of, and what a bound copy may differ in
from the plugin that it stands in for.

| | configured | a bound copy differs in |
| :-- | :-- | :-- |
| picture | `Picture.configure_ok` | the image, its raster and the cache (`Picture.bind_some`) |
| caption | `Caption.configure_ok` | the text and the amounts (`Caption.bind_some`) |
| code | `Code.configure_ok` | the text and its matrix (`Code.bind_some`) |

All other fields stay, so a copy is drawn in the place, with the face and in the mode of the plugin
itself.  The plugins of a loaded template have been read from its document and configured
(`Template.load_configured`), so these facts are at hand wherever a template is rendered.
-/
import Placard.Proofs.Failure
import Placard.Template

namespace Placard

/-! ## Declared bindings -/

namespace Binding

variable {φ : Type} {kind : PluginKind} {field? : String → Option φ}
  {declared : List (String × String)} {b : Binding φ}

theorem entry_eq_ok {d : String × String} {e : φ × String} :
    entry kind field? d = .ok e ↔
      field? (Text.lower d.1) = some e.1 ∧ e.2 = Text.lower d.2 := by
  unfold entry
  dsimp only
  cases field? (Text.lower d.1) with
  | none => simp
  | some field =>
      rw [Option.some.injEq]
      constructor
      · intro h
        cases h
        exact ⟨rfl, rfl⟩
      · rintro ⟨rfl, h⟩
        rw [← h]

theorem forall₂_of_ofDeclared (h : ofDeclared kind field? declared = .ok b) :
    List.Forall₂ (fun d e => field? (Text.lower d.1) = some e.1 ∧ e.2 = Text.lower d.2)
      declared b.entries := by
  obtain ⟨entries, hm, rfl⟩ := map_eq_ok.mp h
  exact (forall₂_of_mapM hm).imp fun _ _ he => entry_eq_ok.mp he

theorem mem_entries (h : ofDeclared kind field? declared = .ok b) {e : φ × String} :
    e ∈ b.entries ↔ ∃ d ∈ declared, field? (Text.lower d.1) = some e.1 ∧ e.2 = Text.lower d.2 := by
  have hf := forall₂_of_ofDeclared h
  clear h
  generalize b.entries = entries at hf
  induction hf with
  | nil => simp
  | @cons d e' ds es hde _ ih =>
      have he : e = e' ↔ field? (Text.lower d.1) = some e.1 ∧ e.2 = Text.lower d.2 := by
        rw [hde.1, ← hde.2, Prod.ext_iff, Option.some.injEq]
        exact and_congr_left' eq_comm
      simp only [List.mem_cons, he, ih, or_and_right, exists_or, exists_eq_left]

theorem keys_of_ofDeclared (h : ofDeclared kind field? declared = .ok b) :
    b.entries.map Prod.snd = declared.map fun d => Text.lower d.2 := by
  have hf := forall₂_of_ofDeclared h
  clear h
  generalize b.entries = entries at hf
  induction hf with
  | nil => rfl
  | cons hde _ ih => rw [List.map_cons, List.map_cons, hde.2, ih]

end Binding

/-! ## Pictures -/

namespace Picture

variable {p q : Picture} {assets : AssetSource} {values : RequestValues}

/-- A picture that has been loaded has the raster of its image, and keeps no size of it yet. -/
theorem load_eq_ok : p.load assets = .ok q ↔
    p.image.isEmpty = false ∧ ∃ raster, assets.image p.image = .ok raster ∧
      q = { p with raster := some raster, cache := .empty p.mode } := by
  unfold load
  cases hi : p.image.isEmpty with
  | true => simp
  | false =>
      cases ha : assets.image p.image with
      | error e => simp
      | ok raster =>
          simp only [Bool.false_eq_true, if_false, Except.ok.injEq, true_and, exists_eq_left']
          exact eq_comm

/-- A configured picture is loaded unless a request will name its image. -/
theorem configure_ok (h : p.configure assets = .ok q) :
    ∃ bindings, Binding.ofDeclared .image PictureField.ofName? p.binding = .ok bindings ∧
      (bindings.isEmpty = true ∧
          { p with bindings := bindings, rect := p.rect.normalized }.load assets = .ok q ∨
        bindings.isEmpty = false ∧
          q = { p with bindings := bindings, rect := p.rect.normalized }) := by
  unfold configure at h
  obtain ⟨bindings, hb, h⟩ := bind_eq_ok.mp h
  refine ⟨bindings, hb, ?_⟩
  dsimp only at h
  split at h
  · cases h
  · cases he : bindings.isEmpty with
    | true =>
        rw [if_pos he] at h
        exact Or.inl ⟨rfl, h⟩
    | false =>
        rw [if_neg (by simp [he])] at h
        cases h
        exact Or.inr ⟨rfl, rfl⟩

theorem configure_binding (h : p.configure assets = .ok q) :
    Binding.ofDeclared .image PictureField.ofName? q.binding = .ok q.bindings := by
  obtain ⟨bindings, hb, ⟨-, hl⟩ | ⟨-, rfl⟩⟩ := configure_ok h
  · obtain ⟨-, raster, -, rfl⟩ := load_eq_ok.mp hl
    exact hb
  · exact hb

/-- An entry whose value is new names the image; so does every entry while there is no raster. -/
theorem bindEntry_of_new {c : Change Picture} {e : PictureField × String}
    (h : values.text e.2 ≠ c.state.image ∨ c.state.raster.isNone = true) :
    bindEntry values c e = ⟨{ c.state with image := values.text e.2 }, true⟩ := if_pos h

theorem bindEntry_of_same {c : Change Picture} {e : PictureField × String}
    (h : ¬ (values.text e.2 ≠ c.state.image ∨ c.state.raster.isNone = true)) :
    bindEntry values c e = c := if_neg h

theorem foldl_bindEntry (values : RequestValues) (entries : List (PictureField × String))
    (c : Change Picture) :
    ∃ uri, (entries.foldl (bindEntry values) c).state = { c.state with image := uri } := by
  induction entries generalizing c with
  | nil => exact ⟨c.state.image, rfl⟩
  | cons e entries ih =>
      obtain ⟨uri, hu⟩ := ih (bindEntry values c e)
      refine ⟨uri, ?_⟩
      rw [List.foldl_cons, hu]
      simp only [bindEntry]
      split <;> rfl

/-- A picture without a raster is changed by the first entry already. -/
theorem foldl_bindEntry_changed (values : RequestValues) (entries : List (PictureField × String))
    {c : Change Picture} (hr : c.state.raster = none) (h : c.changed = true ∨ entries ≠ []) :
    (entries.foldl (bindEntry values) c).changed = true := by
  induction entries generalizing c with
  | nil => exact h.resolve_right (fun hn => hn rfl)
  | cons e entries ih =>
      rw [List.foldl_cons]
      have hs : bindEntry values c e = ⟨{ c.state with image := values.text e.2 }, true⟩ :=
        bindEntry_of_new (Or.inr (by rw [hr]; rfl))
      exact ih (by rw [hs]; exact hr) (Or.inl (by rw [hs]))

/-- Where binding changes nothing, the picture takes nothing from a request or has its raster. -/
theorem bind_none (h : p.bind values assets = .ok none) :
    p.bindings.isEmpty = true ∨ p.raster.isSome = true := by
  cases hr : p.raster with
  | some raster => exact Or.inr rfl
  | none =>
      refine Or.inl ?_
      by_contra he
      have hc := foldl_bindEntry_changed values p.bindings.entries
        (c := ⟨p, false⟩) hr (Or.inr fun hn => he (by rw [Binding.isEmpty, hn]; rfl))
      simp only [bind, Change.result?, hc, if_true] at h
      split at h <;> cases h

/-- A bound copy has another image, loaded anew, and is the same picture otherwise. -/
theorem bind_some (h : p.bind values assets = .ok (some q)) :
    ∃ uri raster, assets.image uri = .ok raster ∧
      q = { p with image := uri, raster := some raster, cache := .empty p.mode } := by
  unfold bind at h
  split at h
  · cases h
  · rename_i copy hc
    obtain ⟨uri, hu⟩ := foldl_bindEntry values p.bindings.entries ⟨p, false⟩
    have hcopy : copy = { p with image := uri } := by
      unfold Change.result? at hc
      split at hc
      · rw [← hu]
        exact (Option.some.inj hc).symm
      · cases hc
    split at h
    · rename_i loaded hl
      cases h
      obtain ⟨-, raster, hr, rfl⟩ := load_eq_ok.mp hl
      rw [hcopy] at hr ⊢
      exact ⟨uri, raster, hr, rfl⟩
    · cases h

end Picture

/-! ## Captions -/

/-- A put changes a field to the value, whether or not it had it before. -/
theorem Change.put_state {α σ : Type} [BEq α] [LawfulBEq α] {c : Change σ} {old : σ → α}
    {set : σ → α → σ} {value : α} (hset : ∀ s, set s (old s) = s) :
    (c.put old set value).state = set c.state value := by
  unfold Change.put
  split
  · rename_i h
    rw [← eq_of_beq h, hset]
  · rfl

namespace Caption

variable {c d : Caption} {assets : AssetSource} {values : RequestValues}

/-- A configured caption has the ink of its color, and the face of its font at its size. -/
theorem configure_ok (h : c.configure assets = .ok d) :
    ∃ bindings ink face,
      Binding.ofDeclared .text CaptionField.ofName? c.binding = .ok bindings ∧
      Rgba.parseOr c.color .black = .ok ink ∧
      FontFace.load assets c.fontUri (narrow c.fontSize) = .ok face ∧
      d = { c with
        lineSpacing := if c.lineSpacing ≤ 0 then 1 else c.lineSpacing
        bindings := bindings, ink := ink, face := some face } := by
  unfold configure at h
  dsimp only at h
  split at h
  · cases h
  split at h
  · cases h
  obtain ⟨bindings, hb, h⟩ := bind_eq_ok.mp h
  obtain ⟨ink, hi, h⟩ := bind_eq_ok.mp h
  obtain ⟨face, hf, h⟩ := bind_eq_ok.mp h
  cases h
  exact ⟨bindings, ink, face, hb, hi, hf, rfl⟩

theorem configure_binding (h : c.configure assets = .ok d) :
    Binding.ofDeclared .text CaptionField.ofName? d.binding = .ok d.bindings := by
  obtain ⟨bindings, ink, face, hb, -, -, rfl⟩ := configure_ok h
  exact hb

/-- The caption of some values for the fields that can be bound. -/
def withBindable (c : Caption) (text : String) (price promo decimal int : Int64) : Caption :=
  { c with text := text, price := price, promotionPrice := promo, decimalPrice := decimal,
           intPrice := int }

theorem bindEntry_ok {e : CaptionField × String} {c' : Change Caption} {c : Change Caption}
    (h : bindEntry values c e = .ok c') :
    match e.1 with
    | .text => c'.state = { c.state with text := values.text e.2 }
    | .price => ∃ n, values.amount e.2 = .ok n ∧ c'.state = { c.state with price := n }
    | .promotionPrice =>
      ∃ n, values.amount e.2 = .ok n ∧ c'.state = { c.state with promotionPrice := n }
    | .decimalPrice =>
      ∃ n, values.amount e.2 = .ok n ∧ c'.state = { c.state with decimalPrice := n % 1000 }
    | .intPrice =>
      ∃ n, values.amount e.2 = .ok n ∧ c'.state = { c.state with intPrice := n / 1000 } := by
  obtain ⟨field, key⟩ := e
  cases field
  case text =>
      cases h
      exact Change.put_state fun _ => rfl
  all_goals
    obtain ⟨n, hn, h⟩ := bind_eq_ok.mp h
    cases h
    exact ⟨n, hn, Change.put_state fun _ => rfl⟩

theorem foldlM_bindEntry {entries : List (CaptionField × String)} {c c' : Change Caption}
    (h : entries.foldlM (bindEntry values) c = .ok c') :
    ∃ text price promo decimal int,
      c'.state = c.state.withBindable text price promo decimal int := by
  induction entries generalizing c with
  | nil =>
      cases h
      exact ⟨_, _, _, _, _, rfl⟩
  | cons e entries ih =>
      rw [List.foldlM_cons] at h
      obtain ⟨c₁, h₁, h⟩ := bind_eq_ok.mp h
      obtain ⟨text, price, promo, decimal, int, hs⟩ := ih h
      have he := bindEntry_ok h₁
      obtain ⟨field, key⟩ := e
      cases field
      case text =>
          rw [hs, show c₁.state = _ from he]
          exact ⟨text, price, promo, decimal, int, rfl⟩
      all_goals
        obtain ⟨n, -, he⟩ := he
        rw [hs, he]
        exact ⟨text, price, promo, decimal, int, rfl⟩

/-- A bound copy has another text and other amounts, and is the same caption otherwise. -/
theorem bind_some (h : c.bind values = .ok (some d)) :
    ∃ text price promo decimal int, d = c.withBindable text price promo decimal int := by
  obtain ⟨c', hc, hr⟩ := map_eq_ok.mp h
  obtain ⟨text, price, promo, decimal, int, hs⟩ := foldlM_bindEntry hc
  unfold Change.result? at hr
  split at hr
  · cases hr
    exact ⟨text, price, promo, decimal, int, hs⟩
  · cases hr

end Caption

/-! ## Codes -/

namespace Code

variable {c d : Code} {values : RequestValues}

theorem build_eq_ok : c.build = .ok d ↔
    ∃ matrix, Matrix.encode c.text c.recovery = .ok matrix ∧
      d = { c with matrix := some matrix } := by
  unfold build
  rw [map_eq_ok]
  exact exists_congr fun _ => and_congr_right fun _ => eq_comm

/-- A configured code has the matrix of its text, which is not empty. -/
theorem configure_ok (h : c.configure = .ok d) :
    ∃ bindings ink matrix,
      Binding.ofDeclared .qr CodeField.ofName? c.binding = .ok bindings ∧
      Matrix.encode d.text d.recovery = .ok matrix ∧
      d = { c with
        text := if c.text.isEmpty then placeholder else c.text
        bindings := bindings, foreground := ink, matrix := some matrix } := by
  unfold configure at h
  dsimp only at h
  split at h
  · cases h
  obtain ⟨bindings, hb, h⟩ := bind_eq_ok.mp h
  obtain ⟨ink, -, h⟩ := bind_eq_ok.mp h
  obtain ⟨matrix, hm, rfl⟩ := build_eq_ok.mp h
  exact ⟨bindings, ink, matrix, hb, hm, rfl⟩

theorem configure_binding (h : c.configure = .ok d) :
    Binding.ofDeclared .qr CodeField.ofName? d.binding = .ok d.bindings := by
  obtain ⟨bindings, ink, matrix, hb, -, hd⟩ := configure_ok h
  rw [hd]
  exact hb

theorem foldl_bindEntry (base : Code) (values : RequestValues)
    (entries : List (CodeField × String)) (s : Change Code) :
    ∃ text, (entries.foldl (bindEntry base values) s).state = { s.state with text := text } := by
  induction entries generalizing s with
  | nil => exact ⟨s.state.text, rfl⟩
  | cons e entries ih =>
      obtain ⟨text, ht⟩ := ih (bindEntry base values s e)
      refine ⟨text, ?_⟩
      rw [List.foldl_cons, ht]
      simp only [bindEntry]
      split <;> rfl

/-- A bound copy has another text and its matrix, and is the same code otherwise. -/
theorem bind_some (h : c.bind values = .ok (some d)) :
    ∃ text matrix, Matrix.encode text c.recovery = .ok matrix ∧
      d = { c with text := text, matrix := some matrix } := by
  unfold bind at h
  split at h
  · cases h
  · rename_i copy hc
    obtain ⟨text, ht⟩ := foldl_bindEntry c values c.bindings.entries ⟨c, false⟩
    have hcopy : copy = { c with text := text } := by
      unfold Change.result? at hc
      split at hc
      · rw [← ht]
        exact (Option.some.inj hc).symm
      · cases hc
    split at h
    · rename_i built hb
      cases h
      obtain ⟨matrix, hm, rfl⟩ := build_eq_ok.mp hb
      rw [hcopy] at hm ⊢
      exact ⟨text, matrix, hm, rfl⟩
    · cases h

end Code

/-! ## Loaded templates -/

theorem Picture.reading_raster {v : Yaml.Value} {p : Picture} (h : Picture.reading v = .ok p) :
    p.raster = none := by
  obtain ⟨f, -, rfl⟩ := map_eq_ok.mp h
  rfl

theorem Plugin.ofEntry_image {entry : Yaml.Mapping} {p : Picture}
    (h : Plugin.ofEntry entry = .ok (.image p)) : ∃ v, Picture.reading v = .ok p := by
  unfold Plugin.ofEntry at h
  split at h
  · cases h
  · unfold Plugin.ofTag at h
    dsimp only at h
    split at h
    · obtain ⟨p', hp, he⟩ := map_eq_ok.mp h
      cases he
      exact ⟨_, hp⟩
    · obtain ⟨_, -, he⟩ := map_eq_ok.mp h
      cases he
    · obtain ⟨_, -, he⟩ := map_eq_ok.mp h
      cases he
    · cases h
  · cases h

theorem Plugin.ofEntry_raster {entry : Yaml.Mapping} {p : Picture}
    (h : Plugin.ofEntry entry = .ok (.image p)) : p.raster = none := by
  obtain ⟨v, hv⟩ := Plugin.ofEntry_image h
  exact Picture.reading_raster hv

namespace Template

/-- The plugin has been read from a document and configured. -/
def Configured (assets : AssetSource) (p : Plugin) : Prop :=
  ∃ entry declared, Plugin.ofEntry entry = .ok declared ∧ declared.configure assets = .ok p

variable {assets : AssetSource}

theorem loadPlugin_ok {index : Nat} {entry : Yaml.Mapping} {p : Plugin}
    (h : loadPlugin assets index entry = .ok p) : Configured assets p := by
  unfold loadPlugin at h
  split at h
  · cases h
  · rename_i declared he
    split at h
    · cases h
    · rename_i configured hc
      cases h
      exact ⟨entry, declared, he, hc⟩

theorem loadPlugins_ok {index : Nat} {entries : List Yaml.Mapping} {ps : List Plugin}
    (h : loadPlugins assets index entries = .ok ps) : ∀ p ∈ ps, Configured assets p := by
  induction entries generalizing index ps with
  | nil =>
      cases h
      exact fun p hp => absurd hp List.not_mem_nil
  | cons entry rest ih =>
      obtain ⟨p, hp, h⟩ := bind_eq_ok.mp h
      obtain ⟨ps', hps, h⟩ := bind_eq_ok.mp h
      cases h
      intro q hq
      rcases List.mem_cons.mp hq with rfl | hq
      · exact loadPlugin_ok hp
      · exact ih hps q hq

/-- What loading a template leaves behind: the name of the document, widths none of which is zero,
and configured plugins. -/
theorem load_ok {name : String} {content : Payload} {t : Template}
    (h : load name content assets = .ok t) :
    t.name = name ∧ 0 ∉ t.widths ∧ ∀ p ∈ t.plugins, Configured assets p := by
  obtain ⟨f, -, h⟩ := bind_eq_ok.mp h
  obtain ⟨g, -, h⟩ := bind_eq_ok.mp h
  unfold ofFields at h
  split at h
  · cases h
  · rename_i hw
    dsimp only at h
    split at h
    · cases h
    rename_i hpositive
    rw [hw] at hpositive
    obtain ⟨background, -, h⟩ := bind_eq_ok.mp h
    obtain ⟨plugins, hp, h⟩ := bind_eq_ok.mp h
    cases h
    exact ⟨rfl, hpositive, loadPlugins_ok hp⟩

/-- All plugins of a loaded template are configured. -/
theorem load_configured {name : String} {content : Payload} {t : Template}
    (h : load name content assets = .ok t) : ∀ p ∈ t.plugins, Configured assets p :=
  (load_ok h).2.2

end Template
end Placard
