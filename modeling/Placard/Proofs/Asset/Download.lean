/-
# How a download ends

A download is decided by the reply that its client ends with.

| the reply | the download |
| :-- | :-- |
| an answer below 300 with its body | succeeds with the body |
| an answer below 300 whose body breaks off | fails as what broke it off |
| an answer of 300 or more, with its body or without | fails with that status (`Fetcher.fetch_status_iff`) |
| no answer | fails, without a status |

Which redirections a client follows before that is its own matter, and nothing here depends on it.
-/
import Placard.Asset.Source

namespace Placard
namespace Fetcher

variable {n : Network} {a : WebAddress} {status : Nat} {content : Payload}

theorem conclude_eq_status {code : Nat} {body : Except Breakdown Payload} :
    conclude code body = .error (.status status content) ↔
      code = status ∧ 300 ≤ status ∧ content = body.toOption.getD (.octets .empty) := by
  unfold conclude
  by_cases h : 300 ≤ code
  · rw [if_pos h, Except.error.injEq, FetchError.status.injEq]
    constructor
    · rintro ⟨rfl, rfl⟩
      exact ⟨rfl, h, rfl⟩
    · rintro ⟨rfl, -, rfl⟩
      exact ⟨rfl, rfl⟩
  · rw [if_neg h]
    constructor
    · intro hs
      cases body with
      | ok _ => cases hs
      | error b => cases b <;> cases hs
    · rintro ⟨rfl, h', -⟩
      exact absurd h' h

theorem download_status_iff :
    download n a = .error (.status status content) ↔
      ∃ body, n a = .answer status body ∧ 300 ≤ status ∧
        content = body.toOption.getD (.octets .empty) := by
  unfold download
  cases hr : n a with
  | answer code body =>
      dsimp only
      rw [conclude_eq_status]
      constructor
      · rintro ⟨rfl, h, hc⟩
        exact ⟨body, rfl, h, hc⟩
      · rintro ⟨_, he, h, hc⟩
        cases he
        exact ⟨rfl, h, hc⟩
  | failure b =>
      constructor
      · intro h
        cases b <;> cases h
      · rintro ⟨_, h, -⟩
        cases h

variable {f : Fetcher} {uri : String}

theorem fetch_web (h : Location.parse? uri = some (.web a)) : f.fetch uri = download f.network a := by
  unfold fetch
  rw [h]

theorem fetch_other (h : ∀ a, Location.parse? uri ≠ some (.web a)) :
    f.fetch uri = .error .transport := by
  unfold fetch
  split
  · exact absurd ‹_› (h _)
  · rfl

/-- A download fails with a status exactly where its client ends with an answer of 300 or more, and
the status is that of the answer, even if its body cannot be read. -/
theorem fetch_status_iff :
    f.fetch uri = .error (.status status content) ↔
      ∃ address body, Location.parse? uri = some (.web address) ∧
        f.network address = .answer status body ∧ 300 ≤ status ∧
        content = body.toOption.getD (.octets .empty) := by
  constructor
  · intro h
    by_cases hw : ∃ a, Location.parse? uri = some (.web a)
    · obtain ⟨a, hw⟩ := hw
      rw [fetch_web hw] at h
      obtain ⟨body, hr⟩ := download_status_iff.mp h
      exact ⟨a, body, hw, hr⟩
    · rw [fetch_other fun a ha => hw ⟨a, ha⟩] at h
      cases h
  · rintro ⟨address, body, hw, hr⟩
    rw [fetch_web hw]
    exact download_status_iff.mpr ⟨body, hr⟩

end Fetcher

theorem AssetSource.get_of_web {s : AssetSource} {a : WebAddress} {uri : String}
    (h : Location.parse? uri = some (.web a)) :
    s.get uri = (Fetcher.download s.fetcher.network a).mapError .fetch := by
  unfold get
  rw [h, ← Fetcher.fetch_web h]
  dsimp only
  cases s.fetcher.fetch uri with
  | ok content => rfl
  | error e => rfl

end Placard
