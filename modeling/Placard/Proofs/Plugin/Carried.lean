/-
# Fields that are left to the request

A field that can be bound is either declared or taken from the request under the keys of the entries
that name it.  Leaving those entries out of a binding is the same before it is read and afterwards
(`ofDeclared_without`).  If the request has the declared value under all of those keys, then by the
rule for bindings the plugin comes to hold the same with the entries and without them
(`Follows.without_eq`).
-/
import Placard.Proofs.Plugin.Binding

namespace Placard.Binding

variable {φ : Type} {kind : PluginKind} {field? : String → Option φ} {left : φ → Bool}
  {declared : List (String × String)} {b : Binding φ}

/-- The declared entries without those for the fields that `left` holds of. -/
def without (field? : String → Option φ) (left : φ → Bool) (declared : List (String × String)) :
    List (String × String) :=
  declared.filter fun d => !(field? (Text.lower d.1)).any left

/-- The entries that have been read without those for the fields that `left` holds of. -/
def drop (b : Binding φ) (left : φ → Bool) : Binding φ := ⟨b.entries.filter fun e => !left e.1⟩

theorem drop_all : b.drop (fun _ => true) = .empty := congrArg mk (List.filter_false _)

/-- Some entry names the field, and the request has the value under the key of every such entry. -/
def Carries (field? : String → Option φ) (value : φ → String → Except BindError BoundValue)
    (declared : List (String × String)) (field : φ) (v : BoundValue) : Prop :=
  (∃ d ∈ declared, field? (Text.lower d.1) = some field) ∧
    ∀ d ∈ declared, field? (Text.lower d.1) = some field → value field (Text.lower d.2) = .ok v

/-- Entries for fields that there are may be left out before a binding is read or afterwards. -/
theorem ofDeclared_without :
    ofDeclared kind field? (without field? left declared) =
      (ofDeclared kind field? declared).map (·.drop left) := by
  have h : (without field? left declared).mapM (entry kind field?) =
      (declared.mapM (entry kind field?)).map (List.filter fun e => !left e.1) := by
    refine mapM_filter ?_ ?_
    · intro d _ hd
      cases hf : field? (Text.lower d.1) with
      | none =>
          rw [hf] at hd
          cases hd
      | some field => exact ⟨(field, Text.lower d.2), entry_eq_ok.mpr ⟨hf, rfl⟩⟩
    · intro d e he
      rw [(entry_eq_ok.mp he).1]
      rfl
  unfold ofDeclared
  rw [h]
  cases declared.mapM (entry kind field?) with
  | error e => rfl
  | ok entries => rfl

theorem Carries.entries {value : φ → String → Except BindError BoundValue} {field : φ}
    {v : BoundValue} (h : Carries field? value declared field v)
    (hb : ofDeclared kind field? declared = .ok b) :
    b.entries ≠ [] ∧ ∀ e ∈ b.entries, e.1 = field → value e.1 e.2 = .ok v := by
  obtain ⟨⟨d, hd, hdf⟩, hall⟩ := h
  constructor
  · have hmem : (field, Text.lower d.2) ∈ b.entries := (mem_entries hb).mpr ⟨d, hd, hdf, rfl⟩
    exact List.ne_nil_of_mem hmem
  · intro e he hef
    obtain ⟨d, hd, hdf, hkey⟩ := (mem_entries hb).mp he
    rw [hef] at hdf
    rw [hef, hkey]
    exact hall d hd hdf

variable [DecidableEq φ]

theorem Carries.lastKey? {value : φ → String → Except BindError BoundValue} {field : φ}
    {v : BoundValue} (h : Carries field? value declared field v) :
    ∃ key, lastKey? field? declared field = some key ∧ value field key = .ok v := by
  obtain ⟨⟨d, hd, hdf⟩, hall⟩ := h
  unfold Binding.lastKey?
  cases hl : (declared.filter fun d => field? (Text.lower d.1) = some field).getLast? with
  | none =>
      have hmem : d ∈ declared.filter fun d => field? (Text.lower d.1) = some field :=
        List.mem_filter.mpr ⟨hd, decide_eq_true hdf⟩
      rw [List.getLast?_eq_none_iff.mp hl] at hmem
      cases hmem
  | some last =>
      have hlast := List.mem_filter.mp (List.mem_of_getLast? hl)
      exact ⟨_, rfl, hall last hlast.1 (of_decide_eq_true hlast.2)⟩

theorem lastKey?_without {field : φ} :
    lastKey? field? (without field? left declared) field =
      if left field then none else lastKey? field? declared field := by
  unfold lastKey? without
  rw [List.filter_filter]
  cases hl : left field with
  | true =>
      have hnil : (declared.filter fun d => decide (field? (Text.lower d.1) = some field) &&
          !(field? (Text.lower d.1)).any left) = [] := by
        refine List.filter_eq_nil_iff.mpr fun d _ hd => ?_
        by_cases hf : field? (Text.lower d.1) = some field
        · simp [hf, hl] at hd
        · simp [hf] at hd
      rw [hnil]
      rfl
  | false =>
      rw [if_neg Bool.false_ne_true]
      refine congrArg (fun ds : List (String × String) => ds.getLast?.map _)
        (List.filter_congr fun d _ => ?_)
      by_cases hf : field? (Text.lower d.1) = some field
      · simp [hf, hl]
      · simp [hf]

/-- By the rule, fields come to hold the same whether a value is declared or carried. -/
theorem Follows.without_eq {value : φ → String → Except BindError BoundValue}
    {before before' after after' : φ → BoundValue}
    (hs : Follows field? (without field? left declared) value before after)
    (hb : Follows field? declared value before' after')
    (hsame : ∀ field, left field = false → before field = before' field)
    (hcarry : ∀ field, left field = true → Carries field? value declared field (before field)) :
    after = after' := by
  funext field
  have hsf := hs field
  have hbf := hb field
  rw [lastKey?_without] at hsf
  -- a field that is left out keeps what it declares on one side, and is put by the last of its
  -- entries on the other
  cases hl : left field with
  | true =>
      rw [hl] at hsf
      obtain ⟨key, hkey, hvalue⟩ := (hcarry field hl).lastKey?
      rw [hkey] at hbf
      exact hsf.trans (Except.ok.inj (hvalue.symm.trans hbf))
  | false =>
      rw [hl, if_neg Bool.false_ne_true] at hsf
      cases hk : lastKey? field? declared field with
      | none =>
          rw [hk] at hsf hbf
          exact hsf.trans ((hsame field hl).trans hbf.symm)
      | some key =>
          rw [hk] at hsf hbf
          exact Except.ok.inj (hsf.symm.trans hbf)

end Placard.Binding
