/-
# Requests that a plugin cannot be bound to

Binding fails for a value that no assets make usable, or for an asset that cannot be had.  The first
kind is told from the request and the plugin alone (`Plugin.Refuses`).

| | refuses | and otherwise fails |
| :-- | :-- | :-- |
| picture | an empty name of its image (`Picture.requested?`) | if the image cannot be had |
| caption | an amount that is not a whole number | never |
| code | a text too long for its level (`Code.requested`) | never |

A picture that takes its image from the request has not been loaded yet, so that even a request which
names none is a change to it, to the empty name.  A code has its matrix already, and a request that
names no text changes it to the empty text, which is never too long.
-/
import Placard.Proofs.Plugin.Declared

namespace Placard

namespace RequestValues

variable {values : RequestValues} {key : String} {e : BindError}

/-- What stands under the key is not a whole number. -/
def NoAmount (values : RequestValues) (key : String) : Prop :=
  ∃ value, values.get? key = some value ∧ value.toAmount? = none

theorem amount_eq_error : values.amount key = .error e ↔
    ∃ value, values.get? key = some value ∧ value.toAmount? = none ∧
      e = .coercion key value.toText := by
  unfold amount
  cases hv : values.get? key with
  | none => simp
  | some value =>
      cases ha : value.toAmount? with
      | none => simp [ha, eq_comm]
      | some n => simp [ha]

end RequestValues

/-! ## Pictures -/

namespace Picture

variable {p d : Picture} {values : RequestValues} {assets source : AssetSource} {uri : String}

/-- The image that a request names for the picture. -/
def requested? (values : RequestValues) (p : Picture) : Option String :=
  (Binding.lastKey? PictureField.ofName? p.binding .image).map values.text

theorem requested?_eq (hc : d.configure source = .ok p) :
    p.requested? values = (p.bindings.entries.getLast?).map fun e => values.text e.2 := by
  have hall : (p.bindings.entries.filter fun e => decide (e.1 = .image)) = p.bindings.entries :=
    List.filter_eq_self.mpr fun e _ => by cases e.1; rfl
  rw [requested?, Binding.lastKey?_of_ofDeclared (configure_binding hc), hall, Option.map_map]
  rfl

/-- Without a raster, the image is that of the last entry, whatever was declared. -/
theorem foldl_bindEntry_concat (hr : p.raster = none) (front : List (PictureField × String))
    (e : PictureField × String) :
    (front ++ [e]).foldl (bindEntry values) ⟨p, false⟩ =
      ⟨{ p with image := values.text e.2 }, true⟩ := by
  obtain ⟨uri, hu⟩ := foldl_bindEntry values front ⟨p, false⟩
  have hnone : (front.foldl (bindEntry values) ⟨p, false⟩).state.raster.isNone = true := by
    rw [hu]
    simp [hr]
  rw [List.foldl_append, List.foldl_cons, List.foldl_nil, bindEntry_of_new (Or.inr hnone), hu]

/-- A picture that a request names no image for takes nothing from it. -/
theorem bind_of_unrequested (hc : d.configure source = .ok p) (h : p.requested? values = none) :
    p.bind values assets = .ok none := by
  rw [requested?_eq hc, Option.map_eq_none_iff, List.getLast?_eq_none_iff] at h
  unfold bind
  rw [h]
  rfl

theorem bind_of_requested (hd : d.raster = none) (hc : d.configure source = .ok p)
    (h : p.requested? values = some uri) :
    p.bind values assets =
      ((({ p with image := uri } : Picture).load assets).map some).mapError .reconfigure := by
  rw [requested?_eq hc, Option.map_eq_some_iff] at h
  obtain ⟨e, he, rfl⟩ := h
  obtain ⟨front, hentries⟩ := List.getLast?_eq_some_iff.mp he
  have hraster : p.raster = none := by
    obtain ⟨bindings, -, ⟨hempty, hl⟩ | ⟨-, rfl⟩⟩ := configure_ok hc
    · -- a picture that is loaded already has no entries
      obtain ⟨-, raster, -, rfl⟩ := load_eq_ok.mp hl
      rw [List.isEmpty_iff.mp hempty] at hentries
      simp at hentries
    · exact hd
  unfold bind
  rw [hentries, foldl_bindEntry_concat hraster]
  simp only [Change.result?, if_true]
  cases ({ p with image := values.text e.2 } : Picture).load assets with
  | error cause => rfl
  | ok loaded => rfl

theorem bind_eq_error (hd : d.raster = none) (hc : d.configure source = .ok p) {e : BindError} :
    p.bind values assets = .error e ↔
      ∃ uri cause, p.requested? values = some uri ∧ imageFault? assets uri = some cause ∧
        e = .reconfigure cause := by
  cases hq : p.requested? values with
  | none => simp [bind_of_unrequested hc hq]
  | some uri =>
      rw [bind_of_requested hd hc hq]
      cases hf : imageFault? assets uri with
      | some cause =>
          rw [load_of_fault hf rfl]
          simp [Except.map, Except.mapError, hf, eq_comm]
      | none =>
          obtain ⟨raster, hl⟩ := load_of_sound hf
          rw [hl _ rfl]
          simp [Except.map, Except.mapError, hf]

theorem imageFault?_empty : imageFault? assets "" = some (.missingField "image") := rfl

theorem imageFault?_named {cause : ConfigError} (hu : uri ≠ "")
    (h : imageFault? assets uri = some cause) :
    ∃ e, assets.image uri = .error e ∧ cause = .asset uri e := by
  have hempty : uri.isEmpty = false := by simpa using hu
  unfold imageFault? at h
  rw [hempty] at h
  cases ha : assets.image uri with
  | error e =>
      simp only [ha] at h
      exact ⟨e, rfl, (Option.some.inj h).symm⟩
  | ok raster =>
      simp only [ha] at h
      cases h

end Picture

/-! ## Codes -/

namespace Code

variable {c d : Code} {values : RequestValues}

/-- The text that a request comes to for the code: its own, unless some entry brings another. -/
def requested (values : RequestValues) (c : Code) : String :=
  (((texts values c.binding).filter (· ≠ c.text)).getLast?).getD c.text

/-- No version of the level has room for the text. -/
def TooLong (level : Recovery) (text : String) : Prop :=
  Symbol.choose level text.toUTF8.toList = none

theorem encode_eq_error {level : Recovery} {text : String} {e : ConfigError} :
    Matrix.encode text level = .error e ↔ TooLong level text ∧ e = .qr "data too long" := by
  unfold Matrix.encode Matrix.ofPayload? TooLong
  cases Symbol.choose level text.toUTF8.toList with
  | none => simp [eq_comm]
  | some chosen => simp

theorem bind_eq_error (hc : d.configure = .ok c) {e : BindError} :
    c.bind values = .error e ↔
      TooLong c.recovery (c.requested values) ∧ e = .reconfigure (.qr "data too long") := by
  obtain ⟨m, -, hm⟩ := configure_current hc
  have htext : (c.bindings.entries.foldl (bindEntry c values) ⟨c, false⟩).state.text =
      c.requested values := by
    rw [foldl_bindEntry_text, requested, texts_of_ofDeclared (configure_binding hc)]
  unfold bind
  cases hn : (c.bindings.entries.foldl (bindEntry c values) ⟨c, false⟩).changed with
  | false =>
      -- the text at hand has its matrix already
      rw [foldl_bindEntry_unchanged hn] at htext ⊢
      rw [← htext]
      constructor
      · intro h
        cases h
      · rintro ⟨hlong, -⟩
        cases hm.symm.trans (encode_eq_error.mpr ⟨hlong, rfl⟩)
  | true =>
      obtain ⟨text, hs⟩ := foldl_bindEntry c values c.bindings.entries ⟨c, false⟩
      rw [hs] at htext
      simp only [Change.result?, hn, if_true, hs, build]
      rw [show text = c.requested values from htext]
      cases he : Matrix.encode (c.requested values) c.recovery with
      | error cause =>
          obtain ⟨hlong, rfl⟩ := encode_eq_error.mp he
          simp [Except.map, hlong, eq_comm]
      | ok m' =>
          have hfits : ¬ TooLong c.recovery (c.requested values) := fun hlong => by
            cases he.symm.trans (encode_eq_error.mpr ⟨hlong, rfl⟩)
          simp [Except.map, hfits]

end Code

/-! ## Captions -/

namespace Caption

variable {c d : Caption} {values : RequestValues} {assets : AssetSource}

/-- The caption takes an amount from what a request has under the key. -/
def TakesAmount (c : Caption) (key : String) : Prop :=
  ∃ d ∈ c.binding, ∃ field, CaptionField.ofName? (Text.lower d.1) = some field ∧ field ≠ .text ∧
    Text.lower d.2 = key

theorem takesAmount_iff (hc : d.configure assets = .ok c) {key : String} :
    c.TakesAmount key ↔ ∃ e ∈ c.bindings.entries, e.1 ≠ .text ∧ e.2 = key := by
  constructor
  · rintro ⟨d', hd', field, hf, hne, hkey⟩
    have hmem : (field, key) ∈ c.bindings.entries :=
      (Binding.mem_entries (configure_binding hc)).mpr ⟨d', hd', hf, hkey.symm⟩
    exact ⟨(field, key), hmem, hne, rfl⟩
  · rintro ⟨e, he, hne, rfl⟩
    obtain ⟨d', hd', hf, hkey⟩ := (Binding.mem_entries (configure_binding hc)).mp he
    exact ⟨d', hd', e.1, hf, hne, hkey.symm⟩

/-- An entry is at fault if it asks for an amount where the request has none. -/
theorem entryValue_eq_error {entry : CaptionField × String} {e : BindError} :
    entryValue values entry = .error e ↔ entry.1 ≠ .text ∧ values.amount entry.2 = .error e := by
  obtain ⟨field, key⟩ := entry
  cases field
  case text => simp [entryValue, boundValue, Except.map]
  all_goals
    cases ha : values.amount key with
    | error cause => simp [entryValue, boundValue, Except.map, ha]
    | ok n => simp [entryValue, boundValue, Except.map, ha]

/-- Binding fails of a value that is not the amount that the caption takes. -/
theorem bind_error_coercion (hc : d.configure assets = .ok c) {e : BindError}
    (h : c.bind values = .error e) :
    ∃ key value, c.TakesAmount key ∧ values.get? key = some value ∧ value.toAmount? = none ∧
      e = .coercion key value.toText := by
  have hfault := @bind_fault c values
  rw [h] at hfault
  rcases cases_of_fault hfault with ⟨e', he, hm⟩ | ⟨_, _, he, -⟩
  · cases he
    obtain ⟨entry, hentry, hv⟩ := mapM_eq_error hm
    obtain ⟨hne, ha⟩ := entryValue_eq_error.mp hv
    obtain ⟨value, hget, hnone, rfl⟩ := RequestValues.amount_eq_error.mp ha
    exact ⟨entry.2, value, (takesAmount_iff hc).mpr ⟨entry, hentry, hne, rfl⟩, hget, hnone, rfl⟩
  · cases he

theorem bind_of_noAmount (hc : d.configure assets = .ok c) {key : String}
    (hk : c.TakesAmount key) (h : values.NoAmount key) : ∃ e, c.bind values = .error e := by
  obtain ⟨entry, hentry, hne, rfl⟩ := (takesAmount_iff hc).mp hk
  obtain ⟨value, hget, hnone⟩ := h
  have hv : entryValue values entry = .error (.coercion entry.2 value.toText) :=
    entryValue_eq_error.mpr ⟨hne, RequestValues.amount_eq_error.mpr ⟨value, hget, hnone, rfl⟩⟩
  rcases cases_of_fault (@bind_fault c values) with ⟨e, he, -⟩ | ⟨_, vs, -, hm⟩
  · exact ⟨e, he⟩
  · obtain ⟨v, hok⟩ := ok_of_mapM hm entry hentry
    cases hv.symm.trans hok

end Caption

/-! ## The three kinds -/

namespace Plugin

variable {p : Plugin} {values : RequestValues} {assets source : AssetSource} {e : BindError}

/-- The request has a value that no assets make usable for the plugin. -/
def Refuses (values : RequestValues) : Plugin → Prop
  | image p => p.requested? values = some ""
  | text c => ∃ key, c.TakesAmount key ∧ values.NoAmount key
  | qr c => Code.TooLong c.recovery (c.requested values)

/-- What binding fails of where a value is refused. -/
inductive Refusal : PluginKind → BindError → Prop
  | unnamed : Refusal .image (.reconfigure (.missingField "image"))
  | noAmount {key value : String} : Refusal .text (.coercion key value)
  | tooLong : Refusal .qr (.reconfigure (.qr "data too long"))

/-- A value that is refused cannot be bound with any assets. -/
theorem bind_of_refuses (hp : Template.Configured source p) (h : p.Refuses values)
    (assets : AssetSource) : ∃ e, p.bind values assets = .error e := by
  obtain ⟨entry, declared, he, hc⟩ := hp
  cases declared with
  | image d =>
      obtain ⟨q, hq, rfl⟩ := map_eq_ok.mp hc
      have hb : q.bind values assets = .error (.reconfigure (.missingField "image")) :=
        (Picture.bind_eq_error (ofEntry_raster he) hq).mpr
          ⟨"", _, h, Picture.imageFault?_empty, rfl⟩
      exact ⟨_, congrArg (Except.map _) hb⟩
  | text d =>
      obtain ⟨c, hq, rfl⟩ := map_eq_ok.mp hc
      obtain ⟨key, hk, hv⟩ := h
      obtain ⟨e, hb⟩ := Caption.bind_of_noAmount hq hk hv
      exact ⟨e, congrArg (Except.map _) hb⟩
  | qr d =>
      obtain ⟨c, hq, rfl⟩ := map_eq_ok.mp hc
      have hb := (Code.bind_eq_error hq).mpr ⟨h, rfl⟩
      exact ⟨_, congrArg (Except.map _) hb⟩

/-- Binding fails of a value that is refused, or of an image that has a name and cannot be had. -/
theorem bind_error_cases (hp : Template.Configured source p) (h : p.bind values assets = .error e) :
    p.Refuses values ∧ Refusal p.kind e ∨
      ¬ p.Refuses values ∧ ∃ q uri cause, p = image q ∧ q.requested? values = some uri ∧
        assets.image uri = .error cause ∧ e = .reconfigure (.asset uri cause) := by
  obtain ⟨entry, declared, he, hc⟩ := hp
  cases declared with
  | image d =>
      obtain ⟨q, hq, rfl⟩ := map_eq_ok.mp hc
      obtain ⟨uri, cause, hr, hf, rfl⟩ :=
        (Picture.bind_eq_error (ofEntry_raster he) hq).mp (map_eq_error.mp h)
      by_cases hu : uri = ""
      · subst hu
        cases Picture.imageFault?_empty.symm.trans hf
        exact Or.inl ⟨hr, .unnamed⟩
      · obtain ⟨cause, ha, rfl⟩ := Picture.imageFault?_named hu hf
        refine Or.inr ⟨fun hn => hu ?_, q, uri, cause, rfl, hr, ha, rfl⟩
        exact Option.some.inj (hr.symm.trans hn)
  | text d =>
      obtain ⟨c, hq, rfl⟩ := map_eq_ok.mp hc
      obtain ⟨key, value, hk, hget, hnone, rfl⟩ :=
        Caption.bind_error_coercion hq (map_eq_error.mp h)
      exact Or.inl ⟨⟨key, hk, value, hget, hnone⟩, .noAmount⟩
  | qr d =>
      obtain ⟨c, hq, rfl⟩ := map_eq_ok.mp hc
      obtain ⟨hlong, rfl⟩ := (Code.bind_eq_error hq).mp (map_eq_error.mp h)
      exact Or.inl ⟨hlong, .tooLong⟩

/-- What is not a picture cannot be bound only where it refuses a value. -/
theorem refuses_of_bind_error (hp : Template.Configured source p) (hk : p.kind ≠ .image)
    (h : p.bind values assets = .error e) : p.Refuses values := by
  rcases bind_error_cases hp h with ⟨hv, -⟩ | ⟨-, q, -, -, rfl, -⟩
  · exact hv
  · exact absurd rfl hk

end Plugin
end Placard
