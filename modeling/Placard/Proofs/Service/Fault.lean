/-
# Whose fault a failed render is

A status of 400 says that the request is at fault, and one of 500 that the service is.  A render that
fails while it binds fails of a value that the request has brought (`Plugin.Refuses`), or of an image
that cannot be had.

| what a plugin fails of | the answer |
| :-- | :-- |
| an amount that is not a whole number | 400 |
| an empty name of an image | 500 |
| a text too long for its code | 500 |
| an image that cannot be had | as the download has failed, or 500 |

So a value that a request is at fault for is answered as such only where it should have been an
amount.  A picture and a code are made anew for their values, and an error of theirs is taken for one
of the service.  What counts is the first plugin that cannot be bound.
-/
import Placard.Proofs.Plugin.Refused
import Placard.Proofs.Render.Outcome
import Placard.Proofs.Service.Status

namespace Placard

theorem RenderError.answerStatus_of_refusal {index : Nat} {kind : PluginKind} {e : BindError}
    (h : Plugin.Refusal kind e) :
    (RenderError.bind index kind e).answerStatus = if kind = .text then 400 else 500 := by
  cases h <;> rfl

/-- An image that cannot be had is answered alike, whether a plugin shows it or the request. -/
theorem RenderError.answerStatus_asset {index : Nat} {kind : PluginKind} {uri : String}
    {cause : AssetError} :
    (RenderError.bind index kind (.reconfigure (.asset uri cause))).answerStatus =
      (RenderError.source cause).answerStatus := rfl

theorem FetchError.answerStatus_ne_bad {f : FetchError} : f.answerStatus ≠ 400 := by
  rw [answerStatus_eq]
  split <;> decide

theorem RenderError.answerStatus_source_ne_bad {cause : AssetError} :
    (RenderError.source cause).answerStatus ≠ 400 := by
  cases hf : (RenderError.source cause).fetchError? with
  | none =>
      rw [answerStatus_of_none hf]
      show (500 : Nat) ≠ 400
      decide
  | some f =>
      rw [(wraps_iff.mpr hf).answerStatus_eq]
      exact FetchError.answerStatus_ne_bad

namespace Service

variable {s : Service} {registry : Registry Template} {key width : String} {t : Template}
  {values : RequestValues} {format : ImageFormat} {name : String} {content : Payload}
  {source : AssetSource} {i : Nat} {p : Plugin}

theorem answerTemplate_of_error {e : RenderError} (hr : registry.get? key = some t)
    (h : (t.render values (requestedWidth width) s.assets).1 = .error e) :
    s.answerTemplate registry key values width format = .failure e.answerStatus := by
  have hencoded : (t.renderEncoded values (requestedWidth width) format s.assets).1 = .error e := by
    unfold Template.renderEncoded
    simp only [h]
    rfl
  unfold answerTemplate
  rw [hr]
  simp only [hencoded]
  rfl

/-- The answer tells of the first plugin that cannot be bound. -/
theorem answerTemplate_of_unbindable (h : Template.load name content source = .ok t)
    (history : List RenderRequest) (hr : registry.get? key = some (t.after history))
    (hp : IsFirst (Plugin.Unbindable values s.assets) t.plugins i p) (width : String)
    (format : ImageFormat) :
    ∃ e, p.bind values s.assets = .error e ∧
      s.answerTemplate registry key values width format =
        .failure (RenderError.bind i p.kind e).answerStatus := by
  obtain ⟨j, q, e, hq, he, hplain⟩ :=
    @Template.renderPlain_of_unbindable t values (requestedWidth width) s.assets ⟨p, hp.mem, hp.2.1⟩
  obtain ⟨rfl, rfl⟩ := hp.unique hq
  exact ⟨e, he, answerTemplate_of_error hr
    ((Template.render_after (Template.load_kept h) history).trans hplain)⟩

/-- A render that fails while binding is answered by the first plugin that cannot be bound.  If the
plugin refuses a value of the request, which no assets would make usable, the answer is 400 where the
plugin is a caption, and 500 where it is a picture or a code.  Otherwise it is a picture whose image
cannot be had, and the answer is that of the missing image, which is not 400. -/
theorem refused_value_status (h : Template.load name content source = .ok t)
    (history : List RenderRequest) (s : Service) (hr : registry.get? key = some (t.after history))
    (values : RequestValues) (width : String) (format : ImageFormat) :
    (∀ p ∈ t.plugins, p.Refuses values → ∀ assets, p.Unbindable values assets) ∧
    ∀ i p, IsFirst (Plugin.Unbindable values s.assets) t.plugins i p →
      (p.Refuses values → s.answerTemplate registry key values width format =
        .failure (if p.kind = .text then 400 else 500)) ∧
      (¬ p.Refuses values → ∃ q uri cause, p = .image q ∧ q.requested? values = some uri ∧
        s.assets.image uri = .error cause ∧
        s.answerTemplate registry key values width format =
          .failure (RenderError.source cause).answerStatus ∧
        (RenderError.source cause).answerStatus ≠ 400) := by
  have hconf := Template.load_configured h
  refine ⟨fun p hp hv assets => Plugin.bind_of_refuses (hconf p hp) hv assets, ?_⟩
  intro i p hp
  obtain ⟨e, he, hanswer⟩ := answerTemplate_of_unbindable h history hr hp width format
  have hcases := Plugin.bind_error_cases (hconf p hp.mem) he
  constructor
  · intro hv
    rcases hcases with ⟨-, hrefusal⟩ | ⟨hn, -⟩
    · rw [hanswer, RenderError.answerStatus_of_refusal hrefusal]
    · exact absurd hv hn
  · intro hv
    rcases hcases with ⟨hy, -⟩ | ⟨-, q, uri, cause, rfl, hq, ha, rfl⟩
    · exact absurd hy hv
    · rw [RenderError.answerStatus_asset] at hanswer
      exact ⟨q, uri, cause, rfl, hq, ha, hanswer, RenderError.answerStatus_source_ne_bad⟩

def photoEntry : String := "- \x7btype: image, binding: \x7bimage: img_source1\x7d\x7d\n"

def priceEntry : String :=
  "- \x7btype: text, fontUri: builtin:spleen, fontSize: 9, binding: \x7bprice: price1\x7d\x7d\n"

def card (entries : String) : Payload := .ofText ("allWidths: [8]\nplugins:\n" ++ entries)

def onePhoto : AssetSource := .ofPictures [("a", .filled 1 1 .white)]

def showing (t : Template) : Service :=
  { ofAssets (.default 1) onePhoto with templates := Registry.empty.insert "card" t }

/-- A price that is no number is the fault of the request, and a missing picture is not. -/
theorem refused_value_status_of_card :
    let numberless := RequestValues.ofList [("img_source1", .text "a"), ("price1", .text "x")]
    let pictureless := RequestValues.ofList [("price1", .text "x")]
    ∃ t, Template.load "card" (card (photoEntry ++ priceEntry)) onePhoto = .ok t ∧
      (showing t).answerTemplate (showing t).templates "card" numberless "" .jpeg = .failure 400 ∧
      (showing t).answerTemplate (showing t).templates "card" pictureless "" .jpeg =
        .failure 500 := by
  intro numberless pictureless
  have ht : ((Template.load "card" (card (photoEntry ++ priceEntry)) onePhoto).toOption.any fun t =>
      decide ((t.plugins.map fun p => (p.kind, (p.bind numberless onePhoto).isOk,
          (p.picture?.bind (·.requested? pictureless)))) =
        [(.image, true, some ""), (.text, false, none)])) = true := by
    rw [Template.any_load (show card (photoEntry ++ priceEntry) = .ofText _ from rfl)]
    simp only [String.toList_append, photoEntry, priceEntry]
    repeat rw [String.toList_ofList]
    decide +kernel
  obtain ⟨t, hl, ht⟩ := any_toOption.mp ht
  obtain ⟨p₀, ps, hps, hp₀, hp₁⟩ := List.map_eq_cons_iff.mp (of_decide_eq_true ht)
  obtain ⟨p₁, ps', rfl, hp₁, hnil⟩ := List.map_eq_cons_iff.mp hp₁
  rw [List.map_eq_nil_iff.mp hnil] at hps
  simp only [Prod.mk.injEq] at hp₀ hp₁
  obtain ⟨hk₀, hok₀, hq₀⟩ := hp₀
  obtain ⟨hk₁, hok₁, -⟩ := hp₁
  have hget : (showing t).templates.get? "card" = some (t.after []) := rfl
  have hconf := Template.load_configured hl
  rw [hps] at hconf
  refine ⟨t, hl, ?_, ?_⟩
  · -- the picture is bound, and the price is the first that is not
    have hbound : ¬ p₀.Unbindable numberless onePhoto := by simp [Plugin.unbindable_iff, hok₀]
    have hprice : p₁.Unbindable numberless onePhoto := Plugin.unbindable_iff.mpr hok₁
    have hrefuses : p₁.Refuses numberless := by
      obtain ⟨e, he⟩ := hprice
      exact Plugin.refuses_of_bind_error (hconf p₁ (by simp)) (by rw [hk₁]; decide) he
    have hfirst : IsFirst (Plugin.Unbindable numberless onePhoto) t.plugins 1 p₁ := by
      rw [hps]
      exact (IsFirst.head hprice).tail hbound
    have hanswer := ((refused_value_status hl [] (showing t) hget numberless "" .jpeg).2 1 p₁
      hfirst).1 hrefuses
    rw [hanswer, hk₁]
    rfl
  · have hrefuses : p₀.Refuses pictureless := by
      obtain ⟨q, hq, hname⟩ := Option.bind_eq_some_iff.mp hq₀
      rw [Plugin.picture?_eq_some.mp hq]
      exact hname
    obtain ⟨hall, hstatus⟩ := refused_value_status hl [] (showing t) hget pictureless "" .jpeg
    rw [hps] at hall hstatus
    have hfirst : IsFirst (Plugin.Unbindable pictureless onePhoto) [p₀, p₁] 0 p₀ :=
      IsFirst.head (hall p₀ (by simp) hrefuses onePhoto)
    have hanswer := (hstatus 0 p₀ hfirst).1 hrefuses
    rw [hanswer, hk₀]
    rfl

/-- The picture that a request names none for is its own fault, and is answered as one of the
service. -/
theorem missing_picture_answered_as_fault :
    ∃ t, Template.load "card" (card photoEntry) onePhoto = .ok t ∧
      (∃ p, t.plugins.head? = some p ∧ p.Refuses ((showing t).pairValues "card" ⟨[]⟩)) ∧
      ((showing t).answer "GET" "/template/card").status = 500 := by
  have ht : ((Template.load "card" (card photoEntry) onePhoto).toOption.any fun t =>
      decide ((t.plugins.map fun p => p.picture?.bind fun q =>
          q.requested? ((showing t).pairValues "card" ⟨[]⟩)) = [some ""] ∧
        ((showing t).answer "GET" "/template/card").status = 500)) = true := by
    rw [Template.any_load (show card photoEntry = .ofText _ from rfl)]
    simp only [String.toList_append, photoEntry]
    repeat rw [String.toList_ofList]
    decide +kernel
  obtain ⟨t, hl, ht⟩ := any_toOption.mp ht
  obtain ⟨hp, hstatus⟩ := of_decide_eq_true ht
  obtain ⟨p₀, ps, hps, hp₀, -⟩ := List.map_eq_cons_iff.mp hp
  obtain ⟨q, hq, hname⟩ := Option.bind_eq_some_iff.mp hp₀
  refine ⟨t, hl, ⟨p₀, by rw [hps]; rfl, ?_⟩, hstatus⟩
  rw [Plugin.picture?_eq_some.mp hq]
  exact hname

end Service
end Placard
