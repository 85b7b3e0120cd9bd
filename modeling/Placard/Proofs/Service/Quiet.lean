/-
# Answers without an image

A page that shows an image of the service shows nothing in its place if the request fails: the
answer is then a single transparent pixel (`Answer.Quiet`).

| a request that leads to an image | |
| :-- | :-- |
| can be read | is answered with an image, or with the pixel (`Service.answerRoute_quiet`) |
| cannot be read | is answered with a plain text (`Service.answerQuery_of_unreadable`) |

A request can be read if the names in its path are texts once their encoding is undone, and no field
that the route knows is repeated in the query (`Route.Readable`).  That is looked at before the route
is asked for its answer, and so the answer of a request that cannot be read is not a quiet one.
-/
import Mathlib.Data.List.Nodup
import Placard.Service.Answer

namespace Placard

/-- The answer is a success, or a single transparent pixel. -/
def Answer.Quiet (a : Answer) : Prop :=
  a.status ≠ 200 →
    a.contentType = some "image/png" ∧ a.body = .image ⟨.png, .filled 1 1 .transparent⟩

namespace Answer

theorem ofImage_quiet {e : EncodedImage} : (ofImage e).Quiet := fun h => absurd rfl h

theorem failure_quiet {status : Nat} : (failure status).Quiet := fun _ => ⟨rfl, rfl⟩

theorem ofRender_quiet {result : Except RenderError EncodedImage} : (ofRender result).Quiet := by
  cases result with
  | ok e => exact ofImage_quiet
  | error e => exact failure_quiet

theorem unreadable_not_quiet : ¬ unreadable.Quiet := by
  intro h
  obtain ⟨htype, -⟩ := h (by decide)
  exact absurd htype (by decide)

end Answer

/-! ## Requests that can be read -/

namespace Query

variable {names : List String} {fields : List (String × String)}

/-- A query is read where no field that is known is repeated. -/
theorem known?_isSome :
    (known? names fields).isSome = true ↔ ∀ name ∈ names, (fields.map (·.1)).count name ≤ 1 := by
  have hcount : ∀ name ∈ names,
      ((fields.filter (·.1 ∈ names)).map (·.1)).count name = (fields.map (·.1)).count name := by
    intro name hname
    rw [List.count_eq_countP, List.count_eq_countP, List.countP_map, List.countP_map,
      List.countP_filter]
    refine List.countP_congr fun e _ => ?_
    simp only [Function.comp_apply, beq_iff_eq, Bool.and_eq_true, decide_eq_true_eq]
    exact and_iff_left_of_imp fun he => he ▸ hname
  have hnodup : ((fields.filter (·.1 ∈ names)).map (·.1)).Nodup ↔
      ∀ name ∈ names, (fields.map (·.1)).count name ≤ 1 := by
    rw [List.nodup_iff_count_le_one]
    constructor
    · intro h name hname
      rw [← hcount name hname]
      exact h name
    · intro h name
      by_cases hname : name ∈ names
      · rw [hcount name hname]
        exact h name hname
      · rw [List.count_eq_zero_of_not_mem]
        · exact Nat.zero_le 1
        · intro hmem
          obtain ⟨e, he, rfl⟩ := List.mem_map.mp hmem
          exact hname (of_decide_eq_true (List.mem_filter.mp he).2)
  rw [← hnodup]
  unfold known?
  dsimp only
  split
  · exact iff_of_true rfl ‹_›
  · exact iff_of_false Bool.false_ne_true ‹_›

end Query

namespace Route

/-- The route leads to an image. -/
def isImage : Route → Bool
  | ready => false
  | listing => false
  | _ => true

/-- The names in a path, still encoded. -/
def encodedNames : Route → List String
  | ready => []
  | listing => []
  | single template source => [template, source]
  | pair template => [template]
  | code template => [template]
  | frame source => [source]

/-- The names in the path are texts, and no field that the route knows is repeated. -/
def Readable (r : Route) (query : List (String × String)) : Prop :=
  (∀ name ∈ r.encodedNames, (Target.decodePart? name).isSome = true) ∧
    ∀ name ∈ r.queryNames, (query.map (·.1)).count name ≤ 1

variable {r r' : Route} {query : List (String × String)}

theorem decoded?_isSome :
    r.decoded?.isSome = true ↔ ∀ name ∈ r.encodedNames, (Target.decodePart? name).isSome = true := by
  cases r with
  | single template source =>
      simp only [encodedNames, List.forall_mem_cons, List.not_mem_nil, false_imp_iff, implies_true,
        and_true, decoded?]
      cases Target.decodePart? template with
      | none => simp
      | some t =>
          cases Target.decodePart? source with
          | none => simp
          | some s => simp
  | ready => simp [decoded?, encodedNames]
  | listing => simp [decoded?, encodedNames]
  | pair template => simp [decoded?, encodedNames]
  | code template => simp [decoded?, encodedNames]
  | frame source => simp [decoded?, encodedNames]

theorem readable_iff : r.Readable query ↔
    r.decoded?.isSome = true ∧ (Query.known? r.queryNames query).isSome = true := by
  rw [decoded?_isSome, Query.known?_isSome]
  rfl

/-- Undoing the encoding of its names does not change where a route leads. -/
theorem isImage_of_decoded (h : r.decoded? = some r') : r'.isImage = r.isImage := by
  cases r with
  | ready => cases h; rfl
  | listing => cases h; rfl
  | single template source =>
      obtain ⟨t, -, h⟩ := Option.bind_eq_some_iff.mp h
      obtain ⟨s, -, h⟩ := Option.bind_eq_some_iff.mp h
      cases h
      rfl
  | pair template =>
      obtain ⟨t, -, rfl⟩ := Option.map_eq_some_iff.mp h
      rfl
  | code template =>
      obtain ⟨t, -, rfl⟩ := Option.map_eq_some_iff.mp h
      rfl
  | frame source =>
      obtain ⟨s, -, rfl⟩ := Option.map_eq_some_iff.mp h
      rfl

end Route

/-! ## Answers -/

namespace Service

variable {s : Service} {q : Query} {r : Route} {target : String} {query : List (String × String)}

theorem answerTemplate_quiet {registry : Registry Template} {name width : String}
    {values : RequestValues} {format : ImageFormat} :
    (s.answerTemplate registry name values width format).Quiet := by
  unfold answerTemplate
  split
  · exact Answer.failure_quiet
  · exact Answer.ofRender_quiet

theorem answerCode_quiet {template : String} : (s.answerCode template q).Quiet := by
  unfold answerCode
  split
  · exact Answer.failure_quiet
  · exact answerTemplate_quiet

theorem answerFrame_quiet {source : String} : (s.answerFrame source q).Quiet := by
  unfold answerFrame
  split
  · exact Answer.failure_quiet
  · split
    · exact Answer.failure_quiet
    · split
      · exact Answer.ofRender_quiet
      · exact Answer.ofRender_quiet

/-- The routes that lead to an image answer with one, or with the pixel. -/
theorem answerRoute_quiet (h : r.isImage = true) : (s.answerRoute q r).Quiet := by
  cases r with
  | ready => cases h
  | listing => cases h
  | single template source => exact answerTemplate_quiet
  | pair template => exact answerTemplate_quiet
  | code template => exact answerCode_quiet
  | frame source => exact answerFrame_quiet

theorem answerQuery_of_readable (h : r.Readable query) :
    ∃ r' q, r.decoded? = some r' ∧ s.answerQuery r query = s.answerRoute q r' := by
  obtain ⟨hroute, hquery⟩ := Route.readable_iff.mp h
  obtain ⟨r', hr⟩ := Option.isSome_iff_exists.mp hroute
  obtain ⟨q, hq⟩ := Option.isSome_iff_exists.mp hquery
  refine ⟨r', q, hr, ?_⟩
  unfold answerQuery
  rw [hr, hq]

theorem answerQuery_of_unreadable (h : ¬ r.Readable query) : s.answerQuery r query = .unreadable := by
  rw [Route.readable_iff] at h
  unfold answerQuery
  split
  · rename_i hr hq
    rw [hr, hq] at h
    exact absurd ⟨rfl, rfl⟩ h
  · rfl

theorem answer_get (h : Route.ofParts? (Target.ofText target).parts = some r) :
    s.answer "GET" target = s.answerQuery r (Target.ofText target).query := by
  unfold answer
  dsimp only
  rw [h]
  rfl

/-- A request for an image is answered quietly exactly where it can be read.  Where it cannot, the
answer is a plain text with the status 400. -/
theorem image_answer_quiet_iff (s : Service)
    (hr : Route.ofParts? (Target.ofText target).parts = some r) (hi : r.isImage = true) :
    ((s.answer "GET" target).Quiet ↔ r.Readable (Target.ofText target).query) ∧
      (¬ r.Readable (Target.ofText target).query →
        ∃ text, s.answer "GET" target = ⟨400, some "text/plain; charset=utf-8", .text text⟩) := by
  rw [answer_get hr]
  have hunread : ¬ r.Readable (Target.ofText target).query →
      s.answerQuery r (Target.ofText target).query = .unreadable := answerQuery_of_unreadable
  refine ⟨⟨fun hq => ?_, fun hread => ?_⟩, fun hread => ⟨_, hunread hread⟩⟩
  · by_contra hread
    rw [hunread hread] at hq
    exact Answer.unreadable_not_quiet hq
  · obtain ⟨r', q, hdec, ha⟩ := answerQuery_of_readable (s := s) hread
    rw [ha]
    exact answerRoute_quiet ((Route.isImage_of_decoded hdec).trans hi)

/-- A service without templates. -/
def bare : Service := .ofAssets (.default 1) (.ofPictures [])

/-- A template that does not exist is answered with the pixel, whatever the query. -/
theorem image_answer_quiet_iff_of_code :
    Route.ofParts? (Target.ofText "/qr/plain?payload=%FF&x&x").parts = some (.code "plain") ∧
      (bare.answer "GET" "/qr/plain?payload=%FF&x&x").status = 400 ∧
      (bare.answer "GET" "/qr/plain?payload=%FF&x&x").Quiet := by
  have hr : Route.ofParts? (Target.ofText "/qr/plain?payload=%FF&x&x").parts =
      some (.code "plain") := by decide +kernel
  have hread : (Route.code "plain").Readable (Target.ofText "/qr/plain?payload=%FF&x&x").query := by
    unfold Route.Readable
    decide +kernel
  exact ⟨hr, by decide +kernel, (image_answer_quiet_iff bare hr rfl).1.mpr hread⟩

/-- A field that is repeated is answered with a plain text. -/
theorem repeated_field_not_quiet :
    Route.ofParts? (Target.ofText "/qr/plain?payload=a&payload=b").parts = some (.code "plain") ∧
      (bare.answer "GET" "/qr/plain?payload=a&payload=b").status = 400 ∧
      (bare.answer "GET" "/qr/plain?payload=a&payload=b").contentType =
        some "text/plain; charset=utf-8" ∧
      ¬ (bare.answer "GET" "/qr/plain?payload=a&payload=b").Quiet := by
  have htype : (bare.answer "GET" "/qr/plain?payload=a&payload=b").contentType =
      some "text/plain; charset=utf-8" := by decide +kernel
  have hstatus : (bare.answer "GET" "/qr/plain?payload=a&payload=b").status = 400 := by
    decide +kernel
  refine ⟨by decide +kernel, hstatus, htype, fun hq => ?_⟩
  obtain ⟨hpng, -⟩ := hq (by rw [hstatus]; decide)
  rw [htype] at hpng
  exact absurd hpng (by decide)

end Service
end Placard
