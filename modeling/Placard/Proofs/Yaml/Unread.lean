/-
# What is told of a document that cannot be read

Reading a value fails with the complaint that the document cannot be read, whatever the value is
read as: every reading here does (`Complains`), and a record does if its fields do
(`Reading.record_complains`).
-/
import Placard.Proofs.Failure
import Placard.Yaml.Record

namespace Placard.Yaml

variable {α σ : Type} {v : Value}

/-- Nothing else is told than that the document cannot be read. -/
def Complains (x : Except ConfigError α) : Prop := ∀ e, x = .error e → ∃ detail, e = .parse detail

theorem complains_ok {a : α} : Complains (.ok a : Except ConfigError α) := fun _ h => by cases h

theorem complains_unreadable : Complains (unreadable : Except ConfigError α) := fun _ h =>
  ⟨none, (Except.error.inj h).symm⟩

theorem Complains.map {β : Type} {x : Except ConfigError α} {f : α → β} (hx : Complains x) :
    Complains (x.map f) := fun e h => hx e (map_eq_error.mp h)

theorem Complains.bind {β : Type} {x : Except ConfigError α} {f : α → Except ConfigError β}
    (hx : Complains x) (hf : ∀ a, Complains (f a)) : Complains (x >>= f) := by
  intro e h
  obtain h | ⟨a, -, h⟩ := bind_eq_error.mp h
  · exact hx e h
  · exact hf a e h

theorem complains_foldlM {step : σ → α → Except ConfigError σ} (h : ∀ s a, Complains (step s a))
    {as : List α} {s : σ} : Complains (as.foldlM step s) := by
  induction as generalizing s with
  | nil => exact complains_ok
  | cons a as ih =>
      rw [List.foldlM_cons]
      exact (h s a).bind fun _ => ih

namespace Reading

theorem text_complains : Complains (text v) := by
  unfold text
  split
  · exact complains_ok
  · exact complains_unreadable

theorem flag_complains : Complains (flag v) := by
  unfold flag
  split
  · exact complains_ok
  · exact complains_unreadable

theorem whole_complains {low bound : Int} : Complains (whole low bound v) := by
  unfold whole
  split
  · split
    · exact complains_ok
    · exact complains_unreadable
  · exact complains_unreadable

theorem real_complains : Complains (real v) := by
  unfold real
  split
  · exact complains_ok
  · exact complains_ok
  · exact complains_unreadable

theorem choice_complains {names : List (String × α)} : Complains (choice names v) := by
  unfold choice
  dsimp only
  split
  · exact complains_ok
  · exact complains_unreadable

theorem optional_complains {r : Reading α} (h : ∀ v, Complains (r v)) :
    Complains (optional r v) := by
  unfold optional
  split
  · exact complains_ok
  · exact (h _).map

theorem mapping_complains : Complains (mapping v) := by
  unfold mapping
  split
  · exact complains_ok
  · exact complains_ok
  · exact complains_unreadable

theorem texts_complains : Complains (texts v) :=
  mapping_complains.bind fun _ => complains_foldlM fun _ _ =>
    text_complains.bind fun _ => text_complains.bind fun _ => complains_ok

end Reading

/-! ## Records -/

/-- Putting a value into the field fails with a complaint. -/
def RecordField.Complains (field : RecordField σ) : Prop := ∀ v r, Yaml.Complains (field.put v r)

theorem RecordField.Complains.of {name : String} {r : Reading α} {set : σ → α → σ}
    (h : ∀ v, Yaml.Complains (r v)) : (RecordField.of name r set).Complains := fun v _ => (h v).map

theorem putEntries_complains {fields : List (RecordField σ)}
    (h : ∀ field ∈ fields, field.Complains) {seen : List String} {m : Mapping} {r : σ} :
    Complains (putEntries fields seen m r) := by
  induction m generalizing seen r with
  | nil => exact complains_ok
  | cons entry rest ih =>
      obtain ⟨k, v⟩ := entry
      refine Reading.text_complains.bind fun key => ?_
      split
      · exact ih
      · rename_i field hfield
        split
        · exact complains_unreadable
        · exact (h field (List.mem_of_find?_eq_some hfield) v r).bind fun _ => ih

/-- A record complains if its fields do. -/
theorem Reading.record_complains {fields : List (RecordField σ)} {blank : σ}
    (h : ∀ field ∈ fields, field.Complains) : Complains (Reading.record fields blank v) :=
  Reading.mapping_complains.bind fun _ => putEntries_complains h

end Placard.Yaml
