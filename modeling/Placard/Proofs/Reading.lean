/-
# What is read of a record

The fields of a record are put one after the other into a blank one, so what the blank one has and
every field keeps, the record has (`Reading.record_keeps`).  So the numbers of a document that are
read as sizes are sizes of 32 bits, wherever in a record they stand.

What comes of a given document is computed from its characters (`Template.any_load`,
`PriceFrame.any_load`).
-/
import Placard.Frame
import Placard.Proofs.Failure
import Placard.Template

namespace Placard

theorem Payload.text?_ofText (s : String) : (Payload.ofText s).text? = some s := by
  simp [Payload.ofText, Payload.text?, String.fromUTF8?, s.isValidUTF8, String.fromUTF8]

namespace Yaml

/-- A document is read from the characters of its text. -/
theorem Mapping.read_toOption {content : Payload} {s : String} (h : content = .ofText s) :
    (read content).toOption = ofText? s.toList := by
  rw [h]
  unfold read
  rw [Payload.text?_ofText, Option.bind_some]
  cases ofText? s.toList with
  | none => rfl
  | some document => rfl

variable {σ : Type} {fields : List (RecordField σ)} {blank r : σ} {v : Value} {P : σ → Prop}

/-- What holds of a record still holds when the field has been put into it. -/
def RecordField.Keeps (P : σ → Prop) (field : RecordField σ) : Prop :=
  ∀ v s s', P s → field.put v s = .ok s' → P s'

theorem RecordField.Keeps.of {α : Type} {name : String} {reading : Reading α} {set : σ → α → σ}
    (h : ∀ v a s, reading v = .ok a → P s → P (set s a)) :
    (RecordField.of name reading set).Keeps P := by
  intro v s s' hs hput
  obtain ⟨a, ha, rfl⟩ := map_eq_ok.mp hput
  exact h v a s ha hs

/-- What every field keeps, all entries of a mapping keep. -/
theorem putEntries_keeps (hput : ∀ field ∈ fields, field.Keeps P) {seen : List String}
    {m : Mapping} {s : σ} (hs : P s) (h : putEntries fields seen m s = .ok r) : P r := by
  induction m generalizing seen s with
  | nil =>
      cases h
      exact hs
  | cons entry rest ih =>
      obtain ⟨k, v⟩ := entry
      obtain ⟨key, -, h⟩ := bind_eq_ok.mp h
      cases hf : fields.find? (·.name = key) with
      | none =>
          rw [hf] at h
          exact ih hs h
      | some field =>
          rw [hf] at h
          dsimp only at h
          split at h
          · cases h
          · obtain ⟨s', hs', h⟩ := bind_eq_ok.mp h
            exact ih (hput field (List.mem_of_find?_eq_some hf) v s s' hs hs') h

theorem Reading.record_keeps (hput : ∀ field ∈ fields, field.Keeps P) (hblank : P blank)
    (h : Reading.record fields blank v = .ok r) : P r := by
  obtain ⟨m, -, h⟩ := bind_eq_ok.mp h
  exact putEntries_keeps hput hblank h

theorem Reading.size_lt {n : Nat} (h : Reading.size v = .ok n) : n < UInt32.size := by
  obtain ⟨z, hz, rfl⟩ := map_eq_ok.mp h
  unfold Reading.whole at hz
  split at hz
  · split at hz
    · rename_i hrange
      cases hz
      change 0 ≤ _ ∧ _ < (4294967296 : Int) at hrange
      change _ < 4294967296
      omega
    · cases hz
  · cases hz

theorem Reading.forall_mem_of_list {α : Type} {reading : Reading α} {P : α → Prop}
    (hread : ∀ v a, reading v = .ok a → P a) {as : List α} (h : Reading.list reading v = .ok as) :
    ∀ a ∈ as, P a := by
  unfold Reading.list at h
  split at h
  · exact forall_mem_of_mapM hread h
  · cases h
    exact fun a ha => absurd ha List.not_mem_nil
  · cases h

end Yaml

namespace Template

theorem readFields_widths {document : Yaml.Mapping} {f : TemplateFields}
    (h : readFields document = .ok f) : ∀ w ∈ f.widths, w < UInt32.size := by
  have hkeeps : ∀ field ∈ fields, field.Keeps fun f => ∀ w ∈ f.widths, w < UInt32.size := by
    simp only [fields, List.forall_mem_cons]
    refine ⟨?widths, ?_, ?_, ?_, fun _ hfield => absurd hfield List.not_mem_nil⟩
    case widths =>
      exact .of fun _ _ _ hw _ =>
        Yaml.Reading.forall_mem_of_list (fun _ _ => Yaml.Reading.size_lt) hw
    all_goals exact .of fun _ _ _ _ hs => hs
  exact Yaml.Reading.record_keeps hkeeps (fun w hw => absurd hw List.not_mem_nil) h

/-- A fact about what is loaded from a text is one about the document that its characters make. -/
theorem any_load {name : String} {content : Payload} {s : String} {assets : AssetSource}
    {p : Template → Bool} (h : content = .ofText s) :
    (load name content assets).toOption.any p = (Yaml.Mapping.ofText? s.toList).any fun document =>
      (readFields document >>= fun f => ofFields name f assets).toOption.any p := by
  unfold load
  rw [any_bind, Yaml.Mapping.read_toOption h]

end Template

theorem PriceFrame.any_load {name : String} {content : Payload} {s : String} {assets : AssetSource}
    {p : PriceFrame → Bool} (h : content = .ofText s) :
    (load name content assets).toOption.any p = (Yaml.Mapping.ofText? s.toList).any fun document =>
      (readFields document >>= fun f => ofFields name f assets).toOption.any p := by
  unfold load
  rw [any_bind, Yaml.Mapping.read_toOption h]

end Placard
