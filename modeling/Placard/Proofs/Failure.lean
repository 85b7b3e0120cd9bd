/-
# Computations that may fail

Loading and binding are chains of steps any of which may fail.  What is known of such a chain is said
here once.

| it has succeeded | |
| :-- | :-- |
| a chain | each step of it has succeeded (`bind_eq_ok`, `map_eq_ok`) |
| a list | it has been taken over entry by entry (`forall₂_of_mapM`) |
| a loop | what each step keeps has been kept (`foldlM_keeps`) |
| a loop some of whose steps put a field | the last of them counts (`foldlM_last`) |

A chain that fails does so at its first step or after it (`bind_eq_error`), and a list that cannot be
taken over has an entry at fault (`mapM_eq_error`).  Two chains fail the same if
their steps do (`foldlM_congr`, `foldlM_fault`), and entries that cannot fail may be left out
(`mapM_filter`).
-/
import Mathlib.Data.List.Forall2
import Mathlib.Data.List.Induction
import Placard.Error

namespace Placard

variable {ε α β σ : Type}

theorem bind_eq_ok {x : Except ε α} {f : α → Except ε β} {b : β} :
    (x >>= f) = .ok b ↔ ∃ a, x = .ok a ∧ f a = .ok b := by
  constructor
  · intro h
    cases x with
    | error e => cases h
    | ok a => exact ⟨a, rfl, h⟩
  · rintro ⟨a, rfl, h⟩
    exact h

/-- A chain fails if its first step does, or if what comes after it does. -/
theorem bind_eq_error {x : Except ε α} {f : α → Except ε β} {e : ε} :
    (x >>= f) = .error e ↔ x = .error e ∨ ∃ a, x = .ok a ∧ f a = .error e := by
  cases x with
  | error e' =>
      constructor
      · intro h
        cases h
        exact .inl rfl
      · rintro (h | ⟨a, ha, -⟩)
        · cases h
          rfl
        · cases ha
  | ok a =>
      constructor
      · exact fun h => .inr ⟨a, rfl, h⟩
      · rintro (h | ⟨a', ha, h⟩)
        · cases h
        · cases ha
          exact h

theorem map_eq_ok {x : Except ε α} {f : α → β} {b : β} :
    x.map f = .ok b ↔ ∃ a, x = .ok a ∧ f a = b := by
  constructor
  · intro h
    cases x with
    | error e => cases h
    | ok a => exact ⟨a, rfl, Except.ok.inj h⟩
  · rintro ⟨a, rfl, rfl⟩
    rfl

theorem map_eq_error {x : Except ε α} {f : α → β} {e : ε} : x.map f = .error e ↔ x = .error e := by
  cases x with
  | error e' => simp [Except.map]
  | ok a => simp [Except.map]

/-- What two steps give, the second one gives of what the first one gives. -/
theorem any_bind {x : Except ε α} {f : α → Except ε β} {p : β → Bool} :
    (x >>= f).toOption.any p = x.toOption.any fun a => (f a).toOption.any p := by
  cases x with
  | error e => rfl
  | ok a => rfl

theorem any_toOption {x : Except ε α} {p : α → Bool} :
    x.toOption.any p = true ↔ ∃ a, x = .ok a ∧ p a = true := by
  constructor
  · intro h
    cases x with
    | error e => cases h
    | ok a => exact ⟨a, rfl, h⟩
  · rintro ⟨a, rfl, h⟩
    exact h

theorem forall₂_of_mapM {f : α → Except ε β} {as : List α} {bs : List β}
    (h : as.mapM f = .ok bs) : List.Forall₂ (fun a b => f a = .ok b) as bs := by
  induction as generalizing bs with
  | nil =>
      cases h
      exact .nil
  | cons a as ih =>
      rw [List.mapM_cons] at h
      obtain ⟨b, hb, h⟩ := bind_eq_ok.mp h
      obtain ⟨bs', hbs, h⟩ := bind_eq_ok.mp h
      cases h
      exact .cons hb (ih hbs)

theorem ok_of_mapM {f : α → Except ε β} {as : List α} {bs : List β} (h : as.mapM f = .ok bs) :
    ∀ a ∈ as, ∃ b, f a = .ok b := by
  have hall := forall₂_of_mapM h
  clear h
  induction hall with
  | nil => simp
  | @cons a b as bs hf _ ih => exact List.forall_mem_cons.mpr ⟨⟨b, hf⟩, ih⟩

theorem mapM_of_ok {f : α → Except ε β} {as : List α} (h : ∀ a ∈ as, ∃ b, f a = .ok b) :
    as.mapM f = .ok (as.filterMap fun a => (f a).toOption) := by
  induction as with
  | nil => rfl
  | cons a as ih =>
      obtain ⟨⟨b, hb⟩, has⟩ := List.forall_mem_cons.mp h
      rw [List.mapM_cons, ih has, List.filterMap_cons, hb]
      rfl

theorem forall_mem_of_mapM {f : α → Except ε β} {P : β → Prop} (hf : ∀ a b, f a = .ok b → P b)
    {as : List α} {bs : List β} (h : as.mapM f = .ok bs) : ∀ b ∈ bs, P b := by
  have hall := forall₂_of_mapM h
  clear h
  induction hall with
  | nil => simp
  | @cons a b as bs hab _ ih => exact List.forall_mem_cons.mpr ⟨hf a b hab, ih⟩

theorem mapM_eq_error {f : α → Except ε β} {as : List α} {e : ε} (h : as.mapM f = .error e) :
    ∃ a ∈ as, f a = .error e := by
  induction as with
  | nil => cases h
  | cons a as ih =>
      rw [List.mapM_cons, bind_eq_error] at h
      obtain h | ⟨b, -, h⟩ := h
      · exact ⟨a, List.mem_cons_self, h⟩
      · obtain h | ⟨bs, -, h⟩ := bind_eq_error.mp h
        · obtain ⟨a', ha, he⟩ := ih h
          exact ⟨a', List.mem_cons_of_mem _ ha, he⟩
        · cases h

/-- What each step of a loop keeps, the loop keeps. -/
theorem foldlM_keeps {step : σ → α → Except ε σ} (P : σ → Prop)
    (hstep : ∀ s a s', P s → step s a = .ok s' → P s') {as : List α} {s s' : σ} (hs : P s)
    (h : as.foldlM step s = .ok s') : P s' := by
  induction as generalizing s with
  | nil =>
      cases h
      exact hs
  | cons a as ih =>
      rw [List.foldlM_cons] at h
      obtain ⟨s₁, h₁, h⟩ := bind_eq_ok.mp h
      exact ih (hstep s a s₁ hs h₁) h

theorem foldlM_congr {step step' : σ → α → Except ε σ} {as : List α} {s : σ}
    (h : ∀ s, ∀ a ∈ as, step s a = step' s a) : as.foldlM step s = as.foldlM step' s := by
  induction as generalizing s with
  | nil => rfl
  | cons a as ih =>
      rw [List.foldlM_cons, List.foldlM_cons, h s a List.mem_cons_self]
      exact bind_congr fun s₁ => ih fun s b hb => h s b (List.mem_cons_of_mem _ hb)

/-- Two computations that fail the same both fail, of one cause, or both succeed. -/
theorem cases_of_fault {x : Except ε α} {y : Except ε β}
    (h : x.map (fun _ => ()) = y.map fun _ => ()) :
    (∃ e, x = .error e ∧ y = .error e) ∨ ∃ a b, x = .ok a ∧ y = .ok b := by
  cases x with
  | error e =>
      cases y with
      | error e' =>
          cases h
          exact Or.inl ⟨e, rfl, rfl⟩
      | ok b => cases h
  | ok a =>
      cases y with
      | error e' => cases h
      | ok b => exact Or.inr ⟨a, b, rfl, rfl⟩

theorem foldlM_fault {step : σ → α → Except ε σ} {f : α → Except ε β}
    (h : ∀ s a, (step s a).map (fun _ => ()) = (f a).map fun _ => ()) {as : List α} {s : σ} :
    (as.foldlM step s).map (fun _ => ()) = (as.mapM f).map fun _ => () := by
  induction as generalizing s with
  | nil => rfl
  | cons a as ih =>
      rw [List.foldlM_cons, List.mapM_cons]
      rcases cases_of_fault (h s a) with ⟨e, hs, hf⟩ | ⟨s₁, b, hs, hf⟩
      · rw [hs, hf]
        rfl
      · rw [hs, hf]
        refine (ih (s := s₁)).trans ?_
        cases as.mapM f with
        | error e => rfl
        | ok bs => rfl

/-- Entries that are in order may be left out of a list before it is taken over. -/
theorem mapM_filter {f : α → Except ε β} {p : α → Bool} {q : β → Bool} {as : List α}
    (hok : ∀ a ∈ as, p a = false → ∃ b, f a = .ok b) (hpq : ∀ a b, f a = .ok b → q b = p a) :
    (as.filter p).mapM f = (as.mapM f).map (List.filter q) := by
  induction as with
  | nil => rfl
  | cons a as ih =>
      have ih' := ih fun a ha => hok a (List.mem_cons_of_mem _ ha)
      rw [List.filter_cons, List.mapM_cons]
      cases hf : f a with
      | error e =>
          cases hp : p a with
          | true =>
              rw [if_pos rfl, List.mapM_cons, hf]
              rfl
          | false =>
              obtain ⟨b, hb⟩ := hok a List.mem_cons_self hp
              cases hf.symm.trans hb
      | ok b =>
          cases hp : p a with
          | true =>
              rw [if_pos rfl, List.mapM_cons, hf, ih']
              cases as.mapM f with
              | error e => rfl
              | ok bs =>
                  have hq : q b = true := (hpq a b hf).trans hp
                  exact congrArg Except.ok (List.filter_cons_of_pos hq).symm
          | false =>
              rw [if_neg Bool.false_ne_true, ih']
              cases as.mapM f with
              | error e => rfl
              | ok bs =>
                  refine congrArg Except.ok (List.filter_cons_of_neg ?_).symm
                  rw [hpq a b hf, hp]
                  exact Bool.false_ne_true

/-- A loop whose steps all do the same, and do nothing the second time, does it once. -/
theorem foldl_idempotent {step : σ → α → σ} {g : σ → σ} {as : List α} (hne : as ≠ [])
    (h : ∀ s, ∀ a ∈ as, step s a = g s) (hg : ∀ s, g (g s) = g s) {s : σ} :
    as.foldl step s = g s := by
  rw [List.foldl_ext step (fun s _ => g s) s h]
  cases as with
  | nil => exact absurd rfl hne
  | cons a as => exact List.foldl_fixed' (fun _ => hg s) as

/-- Some steps of a loop put a field, and the others leave it alone.  At the end it has the value
that the last of those steps has put, or else the one it had at the beginning. -/
theorem foldlM_last {step : σ → α → Except ε σ} (field : σ → β) (puts : α → Bool)
    (value : α → Except ε β)
    (hput : ∀ s a s', puts a = true → step s a = .ok s' → value a = .ok (field s'))
    (hkeep : ∀ s a s', puts a = false → step s a = .ok s' → field s' = field s)
    {as : List α} {s s' : σ} (h : as.foldlM step s = .ok s') :
    match (as.filter puts).getLast? with
    | some a => value a = .ok (field s')
    | none => field s' = field s := by
  -- from the end, where the last step either puts the field or leaves it to those before
  induction as using List.reverseRecOn generalizing s' with
  | nil =>
      cases h
      rfl
  | append_singleton as a ih =>
      rw [List.foldlM_append] at h
      obtain ⟨s₁, h₁, h₂⟩ := bind_eq_ok.mp h
      have ha : step s₁ a = .ok s' := by
        obtain ⟨s₂, hs, h₂⟩ := bind_eq_ok.mp h₂
        cases h₂
        exact hs
      rw [List.filter_append]
      cases hp : puts a with
      | true =>
          rw [List.filter_singleton, hp]
          simpa using hput s₁ a s' hp ha
      | false =>
          rw [List.filter_singleton, hp]
          simpa [hkeep s₁ a s' hp ha] using ih h₁

end Placard
