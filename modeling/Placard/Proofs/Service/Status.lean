/-
# Statuses of failed renders

A failed download comes up through wrappers: it fails an asset, that fails a plugin, perhaps one
that is read or configured as part of something else, and that fails the render.  The answer tells
what the download failed of, through any number of wrappers (`RenderError.Wraps`).

| the download failed of | the answer |
| :-- | :-- |
| the status 404 | 404 |
| time | 504 |
| anything else | 502 |

A render that failed of something else is answered with 400 or 500, so that each of these three
statuses tells of a failed download.  And a download fails of a status only where the server has
answered with it (`Fetcher.fetch_status_iff`).
-/
import Placard.Proofs.Asset.Download
import Placard.Service.Answer

namespace Placard

/-! ## Failed downloads and their wrappers -/

/-- A plugin cannot be loaded because of a failed download. -/
inductive ConfigError.Wraps (f : FetchError) : ConfigError → Prop
  | asset {uri : String} : Wraps f (.asset uri (.fetch f))
  | pluginEntry {index : Nat} {cause : ConfigError} (h : Wraps f cause) :
      Wraps f (.pluginEntry index cause)
  | plugin {index : Nat} {kind : PluginKind} {cause : ConfigError} (h : Wraps f cause) :
      Wraps f (.plugin index kind cause)

/-- A render fails because of a failed download. -/
inductive RenderError.Wraps (f : FetchError) : RenderError → Prop
  | source : Wraps f (.source (.fetch f))
  | bind {index : Nat} {kind : PluginKind} {cause : ConfigError} (h : cause.Wraps f) :
      Wraps f (.bind index kind (.reconfigure cause))

variable {f : FetchError}

theorem AssetError.fetchError?_eq_some {e : AssetError} : e.fetchError? = some f ↔ e = .fetch f := by
  cases e with
  | fetch cause => simp only [fetchError?, Option.some.injEq, fetch.injEq]
  | notFound name => exact ⟨fun h => (by cases h), fun h => (by cases h)⟩
  | io => exact ⟨fun h => (by cases h), fun h => (by cases h)⟩
  | decode => exact ⟨fun h => (by cases h), fun h => (by cases h)⟩

/-- What is dug out of the wrappers is what they wrap. -/
theorem ConfigError.wraps_iff {e : ConfigError} : e.Wraps f ↔ e.fetchError? = some f := by
  constructor
  · intro h
    induction h with
    | asset => rfl
    | pluginEntry _ ih => exact ih
    | plugin _ ih => exact ih
  · intro h
    induction e with
    | asset uri cause =>
        rw [AssetError.fetchError?_eq_some.mp h]
        exact .asset
    | pluginEntry index cause ih => exact .pluginEntry (ih h)
    | plugin index kind cause ih => exact .plugin (ih h)
    | _ => cases h

theorem RenderError.wraps_iff {e : RenderError} : e.Wraps f ↔ e.fetchError? = some f := by
  constructor
  · intro h
    cases h with
    | source => rfl
    | bind h => exact ConfigError.wraps_iff.mp h
  · intro h
    cases e with
    | bind index kind cause =>
        cases cause with
        | coercion key value => cases h
        | reconfigure cause => exact .bind (ConfigError.wraps_iff.mpr h)
    | draw index kind cause => cases h
    | source cause =>
        rw [AssetError.fetchError?_eq_some.mp h]
        exact .source
    | encode => cases h
    | task => cases h

/-! ## Statuses -/

theorem FetchError.answerStatus_eq : f.answerStatus =
    match f with
    | .status 404 _ => 404
    | .timeout => 504
    | _ => 502 := by
  cases f with
  | status code body =>
      by_cases h : code = 404
      · subst h
        rfl
      · have hn : (FetchError.status code body).isNotFound = false := by
          simpa [isNotFound, status?] using h
        simp only [answerStatus, hn]
        split <;> simp_all
  | timeout => rfl
  | transport => rfl
  | client => rfl
  | closed => rfl

/-- A bad request is not one that failed because of a download. -/
theorem RenderError.Wraps.not_bad {e : RenderError} (h : e.Wraps f) : e.isBadRequest = false := by
  cases h <;> rfl

theorem RenderError.Wraps.answerStatus_eq {e : RenderError} (h : e.Wraps f) :
    e.answerStatus = f.answerStatus := by
  unfold RenderError.answerStatus
  rw [h.not_bad, wraps_iff.mp h]
  rfl

/-- What failed of something else than a download is the fault of the request, or of the service. -/
theorem RenderError.answerStatus_of_none {e : RenderError} (h : e.fetchError? = none) :
    e.answerStatus = if e.isBadRequest then 400 else 500 := by
  unfold answerStatus
  rw [h]

/-- A failed download decides the status of the answer, however deep it is wrapped, and the statuses
for failed downloads are given for nothing else.  A download fails of a status where the last answer
has it, and it is one of 300 or more, whether or not its body can be read. -/
theorem failed_download_status (e : RenderError) :
    (∀ f, e.Wraps f → e.answerStatus =
      match f with
      | .status 404 _ => 404
      | .timeout => 504
      | _ => 502) ∧
    (e.answerStatus ∈ [404, 502, 504] → ∃ f, e.Wraps f) ∧
    ∀ (fetcher : Fetcher) uri status content, fetcher.fetch uri = .error (.status status content) ↔
      ∃ address body, Location.parse? uri = some (.web address) ∧
        fetcher.network address = .answer status body ∧ 300 ≤ status ∧
        content = body.toOption.getD (.octets .empty) := by
  refine ⟨?_, ?_, fun _ _ _ _ => Fetcher.fetch_status_iff⟩
  · intro f hf
    rw [hf.answerStatus_eq, FetchError.answerStatus_eq]
  · intro hs
    cases hf : e.fetchError? with
    | none =>
        rw [RenderError.answerStatus_of_none hf] at hs
        split at hs <;> exact absurd hs (by decide)
    | some f => exact ⟨f, RenderError.wraps_iff.mpr hf⟩

/-- A picture whose photo is missing on the server, wrapped twice more than a render wraps it, and a
server whose answer of 503 breaks off. -/
theorem failed_download_status_of_photo :
    let missing : FetchError := .status 404 (.ofText "gone")
    let deep : RenderError :=
      .bind 2 .image (.reconfigure (.plugin 0 .image (.pluginEntry 1 (.asset "p" (.fetch missing)))))
    let server : Network := fun _ => .answer 503 (.error .late)
    deep.Wraps missing ∧ deep.answerStatus = 404 ∧
      (∃ f, (RenderError.source (.fetch .closed)).Wraps f) ∧
      (Fetcher.mk ⟨1, 0, "", false⟩ server).fetch "http://media/p" =
        .error (.status 503 (.octets .empty)) := by
  intro missing deep server
  have hwraps : deep.Wraps missing := .bind (.plugin (.pluginEntry .asset))
  have hparse : Location.parse? "http://media/p" = some (.web ⟨false, "media", 80, ["p"], none⟩) := by
    decide +kernel
  exact ⟨hwraps, (failed_download_status deep).1 missing hwraps,
    (failed_download_status _).2.1 (by decide),
    ((failed_download_status deep).2.2 _ _ _ _).mpr ⟨_, _, hparse, rfl, by decide, rfl⟩⟩

end Placard
