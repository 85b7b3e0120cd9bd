/-
# What a cache holds

An offer is the only way into a cache.  Everything else about caches follows from what one offer
does to the list of entries: it leaves the list alone, or it puts one entry with a new key at its
end.  So the keys stay distinct (`offer_nodup`), an entry that was there stays
(`offer_extends`), and what holds of all entries goes on to hold if it holds of the image
that is offered (`Holds.offer`).

The last section is about caches of images.  `Holds.get` says that a cache all of whose images are
resized from one original for each variant gives out such images only: asking it is resizing anew.
-/
import Placard.Raster.Cache

namespace Placard.ResizeCache

variable {α : Type} {c : ResizeCache α} {key : CacheKey} {img : α}

/-! ## One offer -/

theorem offer_of_some {kept : α} (h : c.find? key = some kept) : c.offer key img = (kept, c) := by
  simp only [offer, h]

theorem offer_of_none (h : c.find? key = none) :
    c.offer key img = (img, { c with entries := c.entries ++ [(key, img)] }) := by
  simp only [offer, h]

@[simp] theorem offer_mode : (c.offer key img).2.mode = c.mode := by
  cases h : c.find? key with
  | none => rw [offer_of_none h]
  | some kept => rw [offer_of_some h]

/-- Entries are never replaced and never dropped. -/
theorem offer_extends : c.entries <+: (c.offer key img).2.entries := by
  cases h : c.find? key with
  | none => simp only [offer_of_none h, List.prefix_append]
  | some kept => simp only [offer_of_some h, List.prefix_rfl]

/-- The entries after an offer are those before it and the one that was offered. -/
theorem mem_of_mem_offer {e : CacheKey × α} (h : e ∈ (c.offer key img).2.entries) :
    e ∈ c.entries ∨ e = (key, img) := by
  cases hf : c.find? key with
  | none =>
      rw [offer_of_none hf] at h
      exact (List.mem_append.mp h).imp_right List.mem_singleton.mp
  | some kept =>
      rw [offer_of_some hf] at h
      exact Or.inl h

/-- What an offer gives out is the entry that the key has from then on. -/
theorem find?_offer_self : (c.offer key img).2.find? key = some (c.offer key img).1 := by
  cases h : c.find? key with
  | none =>
      have hl : c.entries.lookup key = none := h
      rw [offer_of_none h]
      simp [find?, List.lookup_append, hl]
  | some kept => rw [offer_of_some h]; exact h

theorem mem_of_find? (h : c.find? key = some img) : (key, img) ∈ c.entries := by
  obtain ⟨before, after, hl, -⟩ := List.lookup_eq_some_iff.mp h
  rw [hl]
  exact List.mem_append_right _ List.mem_cons_self

theorem find?_of_extends {c' : ResizeCache α} (h : c.entries <+: c'.entries)
    (hf : c.find? key = some img) : c'.find? key = some img := by
  obtain ⟨more, hm⟩ := h
  have hl : c.entries.lookup key = some img := hf
  rw [find?, ← hm, List.lookup_append, hl, Option.some_or]

theorem notMem_of_find?_none (h : c.find? key = none) : key ∉ c.entries.map Prod.fst := by
  intro hk
  obtain ⟨e, he, rfl⟩ := List.mem_map.mp hk
  have hne := List.lookup_eq_none_iff.mp h e he
  simp at hne

/-- No key comes to have two entries. -/
theorem offer_nodup (h : (c.entries.map Prod.fst).Nodup) :
    ((c.offer key img).2.entries.map Prod.fst).Nodup := by
  cases hf : c.find? key with
  | some kept => rwa [offer_of_some hf]
  | none =>
      rw [offer_of_none hf, List.map_append]
      refine List.nodup_append.mpr ⟨h, by simp, ?_⟩
      intro k hk k' hk' he
      rw [List.map_singleton, List.mem_singleton] at hk'
      rw [he, hk'] at hk
      exact notMem_of_find?_none hf hk

/-! ## What holds of all entries -/

/-- All entries of the cache have a property. -/
def Holds (c : ResizeCache α) (P : CacheKey → α → Prop) : Prop := ∀ e ∈ c.entries, P e.1 e.2

variable {P : CacheKey → α → Prop}

theorem holds_empty {mode : FitMode} : (empty mode : ResizeCache α).Holds P :=
  fun _ h => absurd h List.not_mem_nil

theorem Holds.of_find? (h : c.Holds P) (hf : c.find? key = some img) : P key img :=
  h _ (mem_of_find? hf)

theorem Holds.offer (h : c.Holds P) (hp : P key img) : (c.offer key img).2.Holds P := by
  intro e he
  rcases mem_of_mem_offer he with he | rfl
  · exact h e he
  · exact hp

/-- What an offer gives out has the property too, whether it was kept or had been there. -/
theorem Holds.offer_fst (h : c.Holds P) (hp : P key img) : P key (c.offer key img).1 :=
  (h.offer hp).of_find? find?_offer_self

/-! ## Caches of images -/

/-- Each image is resized from the original of its variant. -/
def Resized (originals : Bool → Image) (mode : FitMode) (key : CacheKey) (img : Image) : Prop :=
  img = (originals key.variant).resize mode key.width key.height

variable {originals : Bool → Image} {c : ResizeCache Image}

@[simp] theorem get_mode {source : Image} : (c.get source key).2.mode = c.mode := by
  unfold get
  cases c.find? key with
  | none => exact offer_mode
  | some img => rfl

/-- A cache of images resized from the originals gives out what resizing them anew gives, and goes
on to be such a cache. -/
theorem Holds.get (h : c.Holds (Resized originals c.mode)) (key : CacheKey) :
    (c.get (originals key.variant) key).1
        = (originals key.variant).resize c.mode key.width key.height ∧
      (c.get (originals key.variant) key).2.Holds (Resized originals c.mode) := by
  unfold ResizeCache.get
  cases hf : c.find? key with
  | some img => exact ⟨h.of_find? hf, h⟩
  | none => exact ⟨h.offer_fst rfl, h.offer rfl⟩

end Placard.ResizeCache
