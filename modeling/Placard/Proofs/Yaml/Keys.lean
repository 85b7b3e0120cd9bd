/-
# Keys of a mapping

Two mappings are respelled if they are the same entry for entry, but for letter case and
underscores in the names among their keys (`Respelled`).  Where a mapping is read by its normal
form the spelling does not show; where an entry is looked up by its name, the name has to be there
letter for letter.

| | |
| :-- | :-- |
| a record, read from the normal form | the same for both (`record_normalized`) |
| the entry under a name that both have | in one place and with one value (`place_respelled`) |
| what remains without that entry | respelled again (`forall₂_erase`) |

The normal forms themselves may differ, as a final sigma shows in them.  No field is named with a
sigma, so it is enough to follow the entries whose keys have none (`plainEntries`).  A name below a
tag is taken for a name where a record is read, but it has not been brought to its normal form; so
it is asked that such names are kept as they are (`KeepsTagged`).
-/
import Placard.Proofs.Failure
import Placard.Proofs.Text.Spelling

namespace Placard.Yaml
open Text

variable {k k' v : Value} {m m' : Mapping} {key s t : String}

/-! ## Spelling -/

/-- Two keys are the same but for the spelling of a name. -/
inductive KeyRespelled : Value → Value → Prop
  | text {s t : String} (h : SameName s t) : KeyRespelled (.text s) (.text t)
  | tagged (tag : String) {k k' : Value} (h : KeyRespelled k k') :
      KeyRespelled (.tagged tag k) (.tagged tag k')
  | kept (k : Value) : KeyRespelled k k

/-- Two mappings are the same, entry for entry, but for the spelling of their keys. -/
def Respelled (m m' : Mapping) : Prop :=
  List.Forall₂ (fun e e' => KeyRespelled e.1 e'.1 ∧ e.2 = e'.2) m m'

/-- Names that stand below a tag are not respelled. -/
def KeepsTagged (m m' : Mapping) : Prop :=
  List.Forall₂ (fun e e' => ∀ tag k, e.1 = .tagged tag k → e'.1 = e.1) m m'

/-- The normal form of a key that is a name. -/
def Value.normalName? : Value → Option String
  | .text s => some (normalName s)
  | _ => none

/-- No two names among the keys have the same normal form. -/
def NamesApart (m : Mapping) : Prop := (m.filterMap (·.1.normalName?)).Nodup

instance : Decidable (NamesApart m) := List.nodupDecidable _

/-! ## Normal forms -/

/-- The key that stands for a key in the normal form of a mapping. -/
def Value.normalKey : Value → Value
  | .text s => .text (normalName s)
  | k => k

/-- The key is no name with a sigma in it. -/
def Value.isPlain : Value → Bool
  | .text s => decide (HasNoSigma s)
  | _ => true

theorem normalKey_text : (Value.text s).normalKey = .text (normalName s) := rfl

theorem normalName?_text : (Value.text s).normalName? = some (normalName s) := rfl

theorem isPlain_text_eq_false : (Value.text s).isPlain = false ↔ ¬ HasNoSigma s :=
  decide_eq_false_iff_not

theorem normalized_eq :
    m.normalized = m.foldl (fun acc e => Mapping.put acc e.1.normalKey e.2) [] := by
  unfold Mapping.normalized
  congr 1
  funext acc e
  obtain ⟨k, v⟩ := e
  cases k <;> rfl

theorem same_isPlain (h : k.same k' = true) : k.isPlain = k'.isPlain := by
  cases k with
  | text s =>
      cases k' with
      | text t =>
          have hst : s = t := by simpa [Value.same] using h
          rw [hst]
      | _ => simp [Value.same] at h
  | _ =>
      cases k' with
      | text t => simp [Value.same] at h
      | _ => rfl

/-- The entries of a mapping whose keys are no names with a sigma. -/
def plainEntries (m : Mapping) : Mapping := m.filter (·.1.isPlain)

theorem plainEntries_replace :
    plainEntries (m.map fun e => if e.1.same k then (e.1, v) else e) =
      (plainEntries m).map fun e => if e.1.same k then (e.1, v) else e := by
  unfold plainEntries
  rw [List.filter_map]
  refine congrArg _ (List.filter_congr fun e _ => ?_)
  dsimp only [Function.comp]
  split <;> rfl

theorem plainEntries_append_singleton : plainEntries (m ++ [(k, v)]) =
    if k.isPlain then plainEntries m ++ [(k, v)] else plainEntries m := by
  unfold plainEntries
  rw [List.filter_append, List.filter_singleton]
  cases k.isPlain with
  | true => rfl
  | false => exact List.append_nil _

theorem plainEntries_put :
    plainEntries (m.put k v) = if k.isPlain then (plainEntries m).put k v else plainEntries m := by
  unfold Mapping.put
  rw [apply_ite plainEntries, plainEntries_replace, plainEntries_append_singleton]
  cases hk : k.isPlain with
  | true =>
      have hany : (plainEntries m).any (·.1.same k) = m.any (·.1.same k) := by
        unfold plainEntries
        rw [List.any_filter]
        refine List.any_congr rfl fun e => ?_
        cases hs : e.1.same k with
        | true => rw [same_isPlain hs, hk, Bool.and_self]
        | false => rw [Bool.and_false]
      rw [if_pos rfl, if_pos rfl, hany]
  | false =>
      -- an entry with this key would not be plain
      have hid : ∀ e ∈ plainEntries m, (if e.1.same k then (e.1, v) else e) = id e := by
        intro e he
        have hplain : e.1.isPlain = true := (List.mem_filter.mp he).2
        refine if_neg fun hs => ?_
        rw [same_isPlain hs, hk] at hplain
        exact Bool.false_ne_true hplain
      rw [if_neg Bool.false_ne_true, if_neg Bool.false_ne_true, List.map_congr_left hid,
        List.map_id, ite_self]

/-- The two keys come to the same one, or to names that both have a sigma. -/
theorem normalKey_respelled (h : KeyRespelled k k') (ht : ∀ tag w, k = .tagged tag w → k' = k) :
    k.normalKey = k'.normalKey ∨ k.normalKey.isPlain = false ∧ k'.normalKey.isPlain = false := by
  cases h with
  | @text s t h =>
      rw [normalKey_text, normalKey_text, isPlain_text_eq_false, isPlain_text_eq_false]
      by_cases hs : HasNoSigma (normalName s)
      · exact .inl (congrArg Value.text (normalName_eq_of_sameName h hs).symm)
      · exact .inr ⟨hs, fun ht => hs (.of_sameName h.symm ht)⟩
  | tagged tag h =>
      rw [ht tag _ rfl]
      exact .inl rfl
  | kept => exact .inl rfl

/-- Mappings that are the same but for the spelling of their keys have the same plain entries in
their normal forms. -/
theorem plainEntries_normalized (h : Respelled m m') (ht : KeepsTagged m m') :
    plainEntries m.normalized = plainEntries m'.normalized := by
  have hputs : ∀ acc acc', plainEntries acc = plainEntries acc' →
      plainEntries (m.foldl (fun acc e => Mapping.put acc e.1.normalKey e.2) acc) =
        plainEntries (m'.foldl (fun acc e => Mapping.put acc e.1.normalKey e.2) acc') := by
    unfold Respelled at h
    induction h with
    | nil => exact fun _ _ hacc => hacc
    | @cons e e' m m' he _ ih =>
        obtain ⟨hte, htm⟩ := List.forall₂_cons.mp ht
        obtain ⟨hkey, hvalue⟩ := he
        intro acc acc' hacc
        rw [List.foldl_cons, List.foldl_cons]
        refine ih htm _ _ ?_
        rw [plainEntries_put, plainEntries_put, hacc, hvalue]
        obtain hsame | ⟨hk, hk'⟩ := normalKey_respelled hkey hte
        · rw [hsame]
        · rw [hk, hk']
          rfl
  rw [normalized_eq, normalized_eq]
  exact hputs [] [] rfl

/-! ## Reading a record -/

theorem putEntries_of_find?_none {σ : Type} {fields : List (RecordField σ)} {seen : List String}
    {r : σ} (h : fields.find? (·.name = s) = none) :
    putEntries fields seen ((.text s, v) :: m) r = putEntries fields seen m r := by
  have htext : Reading.text (.text s) = pure s := rfl
  rw [putEntries, htext, pure_bind, h]

/-- Names with a sigma are passed over where no field is named with one. -/
theorem putEntries_plainEntries {σ : Type} {fields : List (RecordField σ)}
    (hf : ∀ field ∈ fields, HasNoSigma field.name) {seen : List String} {r : σ} :
    putEntries fields seen (plainEntries m) r = putEntries fields seen m r := by
  induction m generalizing seen r with
  | nil => rfl
  | cons entry m ih =>
      obtain ⟨k, v⟩ := entry
      cases hk : k.isPlain with
      | true =>
          have hcons : plainEntries ((k, v) :: m) = (k, v) :: plainEntries m :=
            List.filter_cons_of_pos hk
          rw [hcons, putEntries, putEntries]
          refine bind_congr fun key => ?_
          split
          · exact ih
          · split
            · rfl
            · exact bind_congr fun r => ih
      | false =>
          have hcons : plainEntries ((k, v) :: m) = plainEntries m :=
            List.filter_cons_of_neg (by simp [hk])
          cases k with
          | text s =>
              have hnone : fields.find? (·.name = s) = none := by
                refine List.find?_eq_none.mpr fun field hfield hname => ?_
                exact isPlain_text_eq_false.mp hk (of_decide_eq_true hname ▸ hf field hfield)
              rw [hcons, ih, putEntries_of_find?_none hnone]
          | _ => cases hk

/-- A record reads the normal form of a mapping the same, whatever the spelling of its keys. -/
theorem record_normalized {σ : Type} {fields : List (RecordField σ)} {blank : σ}
    (hf : ∀ field ∈ fields, HasNoSigma field.name) (h : Respelled m m') (ht : KeepsTagged m m') :
    Reading.record fields blank (.mapping m.normalized) =
      Reading.record fields blank (.mapping m'.normalized) := by
  change putEntries fields [] m.normalized blank = putEntries fields [] m'.normalized blank
  rw [← putEntries_plainEntries hf, plainEntries_normalized h ht, putEntries_plainEntries hf]

/-! ## An entry under a name -/

/-- The key is this name, letter for letter. -/
def Value.isNamed (key : String) : Value → Bool
  | .text s => s = key
  | _ => false

theorem isNamed_iff : k.isNamed key = true ↔ k = .text key := by
  unfold Value.isNamed
  cases k with
  | text s => simp
  | _ => simp

/-- The place of the first entry with this name, behind the last entry if there is none. -/
def Mapping.place (m : Mapping) (key : String) : Nat := m.findIdx (·.1.isNamed key)

theorem get?_eq : m.get? key = (m.find? (·.1.isNamed key)).map (·.2) := rfl

theorem erase_eq : m.erase key = match m.getLast? with
    | none => []
    | some last => if m.place key < m.length then (m.set (m.place key) last).dropLast else m := rfl

theorem any_isNamed_iff : m.any (·.1.isNamed key) = true ↔ .text key ∈ m.map Prod.fst := by
  rw [List.any_eq_true]
  constructor
  · rintro ⟨e, he, hnamed⟩
    exact List.mem_map.mpr ⟨e, he, isNamed_iff.mp hnamed⟩
  · intro h
    obtain ⟨e, he, hkey⟩ := List.mem_map.mp h
    exact ⟨e, he, isNamed_iff.mpr hkey⟩

theorem get?_eq_none_iff : m.get? key = none ↔ .text key ∉ m.map Prod.fst := by
  rw [← any_isNamed_iff, get?_eq, Option.map_eq_none_iff, List.find?_eq_none, List.any_eq_true]
  exact ⟨fun h ⟨e, he, hnamed⟩ => h e he hnamed, fun h e he hnamed => h ⟨e, he, hnamed⟩⟩

theorem isNamed_eq_false (hn : normalName key = key) (h : k.normalName? ≠ some key) :
    k.isNamed key = false := by
  refine Bool.eq_false_iff.mpr fun hnamed => h ?_
  rw [isNamed_iff.mp hnamed]
  exact congrArg some hn

theorem any_isNamed_eq_false (hn : normalName key = key)
    (h : key ∉ m.filterMap (·.1.normalName?)) : m.any (·.1.isNamed key) = false := by
  refine List.any_eq_false.mpr fun e he => ?_
  have hkey : e.1.normalName? ≠ some key := fun hkey => h (List.mem_filterMap.mpr ⟨e, he, hkey⟩)
  rw [isNamed_eq_false hn hkey]
  exact Bool.false_ne_true

theorem normalName?_respelled (hk : HasNoSigma key) (h : KeyRespelled k k') :
    k.normalName? = some key ↔ k'.normalName? = some key := by
  cases h with
  | text h =>
      rw [normalName?_text, normalName?_text, Option.some_inj, Option.some_inj]
      constructor
      · rintro rfl
        exact normalName_eq_of_sameName h hk
      · rintro rfl
        exact normalName_eq_of_sameName h.symm hk
  | tagged tag h => exact Iff.rfl
  | kept => exact Iff.rfl

theorem mem_normalName?_respelled (hk : HasNoSigma key) (h : Respelled m m') :
    key ∈ m.filterMap (·.1.normalName?) ↔ key ∈ m'.filterMap (·.1.normalName?) := by
  unfold Respelled at h
  rw [List.mem_filterMap, List.mem_filterMap]
  induction h with
  | nil => exact Iff.rfl
  | cons he _ ih =>
      simp only [List.mem_cons, exists_eq_or_imp, normalName?_respelled hk he.1, ih]

/-- If both mappings have an entry under the name, it has the same place and value in both. -/
theorem place_respelled (hn : normalName key = key) (hk : HasNoSigma key) (h : Respelled m m')
    (hapart : NamesApart m) (hm : .text key ∈ m.map Prod.fst) (hm' : .text key ∈ m'.map Prod.fst) :
    m.place key = m'.place key ∧ m.get? key = m'.get? key := by
  rw [← any_isNamed_iff] at hm hm'
  rw [get?_eq, get?_eq]
  unfold Mapping.place
  unfold Respelled at h
  induction h with
  | nil => cases hm
  | @cons e e' m m' he hrest ih =>
      rw [List.any_cons] at hm hm'
      rw [List.findIdx_cons, List.findIdx_cons, List.find?_cons, List.find?_cons]
      by_cases hkey : e.1.normalName? = some key
      · -- no other key comes to the name, so these two are the name itself
        have hnone : key ∉ m.filterMap (·.1.normalName?) := by
          simp only [NamesApart, List.filterMap_cons, hkey] at hapart
          exact (List.nodup_cons.mp hapart).1
        rw [any_isNamed_eq_false hn hnone, Bool.or_false] at hm
        have hnone' := mt (mem_normalName?_respelled hk hrest).mpr hnone
        rw [any_isNamed_eq_false hn hnone', Bool.or_false] at hm'
        rw [hm, hm']
        exact ⟨rfl, congrArg some he.2⟩
      · have hkey' : e'.1.normalName? ≠ some key := mt (normalName?_respelled hk he.1).mpr hkey
        have hnot := isNamed_eq_false hn hkey
        have hnot' := isNamed_eq_false hn hkey'
        rw [hnot, Bool.false_or] at hm
        rw [hnot', Bool.false_or] at hm'
        rw [hnot, hnot']
        have hrestApart : NamesApart m :=
          List.Nodup.sublist ((List.sublist_cons_self e m).filterMap _) hapart
        obtain ⟨hplace, hvalue⟩ := ih hrestApart hm hm'
        exact ⟨congrArg (· + 1) hplace, hvalue⟩

/-- Lists that agree entry for entry do so without the entry in one place, which the last one
takes. -/
theorem forall₂_erase {R : Value × Value → Value × Value → Prop} (h : List.Forall₂ R m m')
    (hplace : m.place key = m'.place key) : List.Forall₂ R (m.erase key) (m'.erase key) := by
  rw [erase_eq, erase_eq, hplace, h.length_eq, ← List.head?_reverse, ← List.head?_reverse]
  have hrev := List.forall₂_reverse_iff.mpr h
  generalize m.reverse = r at hrev
  generalize m'.reverse = r' at hrev
  cases hrev with
  | nil => exact .nil
  | @cons last last' _ _ hlast _ =>
      dsimp only [List.head?_cons]
      by_cases hlt : m'.place key < m'.length
      · rw [if_pos hlt, if_pos hlt, List.set_eq_take_append_cons_drop,
          List.set_eq_take_append_cons_drop, h.length_eq, if_pos hlt, if_pos hlt,
          List.dropLast_eq_take, List.dropLast_eq_take]
        have hset := List.rel_append (List.forall₂_take (m'.place key) h)
          (.cons hlast (List.forall₂_drop (m'.place key + 1) h))
        rw [hset.length_eq]
        exact List.forall₂_take _ hset
      · rw [if_neg hlt, if_neg hlt]
        exact h

end Placard.Yaml
