/-
# Callers of one cache

A cache is shared by all renders of a picture or a frame, and they run side by side.  A call looks
its key up, resizes an image of its own if it has found none, and then offers that image.  The
look-up and the offer are steps that nothing comes between, but the cache is free while the image is
made: by the time of the offer another call may have been faster.

`Traffic` is a cache with the calls that have been made to it so far, any number of them, and an
`Event` is a new call or the next step of one.  `Traffic.run` takes any list of events, so it speaks
of every order of steps.  Two images with the same pixels are told apart here by the call that made
them (`Raster`), since the point is that callers are given *the* entry and not a copy of it.

| | |
| :-- | :-- |
| one step | `Sound.step`: the invariant is kept by every event |
| any order of steps | `run_sound`, by induction on the events |
| a call that nothing comes between | `run_alone`: it is `ResizeCache.get` |

The invariant `Sound` is about the two kinds of calls that matter: one that has made an image and
has yet to offer it, and one that has been served.  The first may hold an image that will never be
kept; it is still the right image for its key.  The second has been given the entry of its key, and
since entries stay it will always be that entry.
-/
import Mathlib.Data.Finset.Card
import Mathlib.Data.List.Perm.Subperm
import Placard.Proofs.Raster.Cache

namespace Placard

/-- An image in memory, known by the call that has made it. -/
structure Raster where
  maker : Nat
  image : Image
  deriving DecidableEq

/-- How far a call has come. -/
inductive Stage where
  | arrived
  /-- It has found no entry, and leaves the cache free. -/
  | missed
  /-- It has an image of its own, which it has not offered yet. -/
  | made (own : Raster)
  | served (given : Raster)
  deriving DecidableEq

/-- The steps that a call still has to take. -/
def Stage.remaining : Stage → Nat
  | .arrived => 3
  | .missed => 2
  | .made _ => 1
  | .served _ => 0

/-- A call for an image of a size and a variant. -/
structure Call where
  source : Image
  key : CacheKey
  stage : Stage
  deriving DecidableEq

/-- The stage that call number `number` reaches by its next step, and the cache after the step. -/
def Call.advance (call : Call) (number : Nat) (cache : ResizeCache Raster) :
    Stage × ResizeCache Raster :=
  match call.stage with
  | .arrived =>
    match cache.find? call.key with
    | some kept => (.served kept, cache)
    | none => (.missed, cache)
  | .missed =>
    (.made ⟨number, call.source.resize cache.mode call.key.width call.key.height⟩, cache)
  | .made own =>
    let (kept, cache) := cache.offer call.key own
    (.served kept, cache)
  | .served given => (.served given, cache)

/-- A cache and the calls that it has had, numbered from zero. -/
structure Traffic where
  cache : ResizeCache Raster
  calls : List Call

/-- What may happen next. -/
inductive Event where
  | arrive (source : Image) (key : CacheKey)
  /-- The call of this number takes its next step. -/
  | proceed (number : Nat)
  deriving DecidableEq

def Event.key? : Event → Option CacheKey
  | .arrive _ key => some key
  | .proceed _ => none

namespace Traffic

def start (mode : FitMode) : Traffic := ⟨.empty mode, []⟩

def step (s : Traffic) : Event → Traffic
  | .arrive source key => { s with calls := s.calls ++ [⟨source, key, .arrived⟩] }
  | .proceed number =>
    match s.calls[number]? with
    | none => s
    | some call =>
      let (stage, cache) := call.advance number s.cache
      ⟨cache, s.calls.set number { call with stage := stage }⟩

def run (s : Traffic) (events : List Event) : Traffic := events.foldl step s

@[simp] theorem run_nil (s : Traffic) : s.run [] = s := rfl

@[simp] theorem run_cons (s : Traffic) (e : Event) (events : List Event) :
    s.run (e :: events) = (s.step e).run events := rfl

/-- The keys that have been asked for, call by call. -/
def keys (s : Traffic) : List CacheKey := s.calls.map Call.key

/-! ## What one step does -/

theorem step_proceed {s : Traffic} {number : Nat} {call : Call}
    (h : s.calls[number]? = some call) :
    s.step (.proceed number) =
      ⟨(call.advance number s.cache).2,
        s.calls.set number { call with stage := (call.advance number s.cache).1 }⟩ := by
  simp only [step, h]

theorem step_proceed_none {s : Traffic} {number : Nat} (h : s.calls[number]? = none) :
    s.step (.proceed number) = s := by
  simp only [step, h]

/-- The steps a call can take, each with what it needs. -/
theorem advance_cases (call : Call) (number : Nat) (cache : ResizeCache Raster) :
    (call.stage = .arrived ∧ ∃ kept, cache.find? call.key = some kept ∧
        call.advance number cache = (.served kept, cache)) ∨
      (call.stage = .arrived ∧ call.advance number cache = (.missed, cache)) ∨
      (call.stage = .missed ∧ call.advance number cache =
        (.made ⟨number, call.source.resize cache.mode call.key.width call.key.height⟩, cache)) ∨
      (∃ own, call.stage = .made own ∧ call.advance number cache =
        (.served (cache.offer call.key own).1, (cache.offer call.key own).2)) ∨
      (∃ given, call.stage = .served given ∧
        call.advance number cache = (.served given, cache)) := by
  cases hs : call.stage with
  | arrived =>
      cases hf : cache.find? call.key with
      | some kept => exact Or.inl ⟨rfl, kept, rfl, by simp only [Call.advance, hs, hf]⟩
      | none => exact Or.inr (Or.inl ⟨rfl, by simp only [Call.advance, hs, hf]⟩)
  | missed => exact Or.inr (Or.inr (Or.inl ⟨rfl, by simp only [Call.advance, hs]⟩))
  | made own =>
      exact Or.inr (Or.inr (Or.inr (Or.inl ⟨own, rfl, by simp only [Call.advance, hs]⟩)))
  | served given =>
      exact Or.inr (Or.inr (Or.inr (Or.inr ⟨given, rfl, by simp only [Call.advance, hs]⟩)))

/-- No step of a call changes or drops an entry. -/
theorem advance_extends {call : Call} {number : Nat} {cache : ResizeCache Raster} :
    cache.entries <+: (call.advance number cache).2.entries := by
  rcases advance_cases call number cache with ⟨-, _, -, h⟩ | ⟨-, h⟩ | ⟨-, h⟩ | ⟨_, -, h⟩ | ⟨_, -, h⟩
  case inr.inr.inr.inl => rw [h]; exact ResizeCache.offer_extends
  all_goals rw [h]

theorem step_extends {s : Traffic} {e : Event} : s.cache.entries <+: (s.step e).cache.entries := by
  cases e with
  | arrive source key => exact List.prefix_rfl
  | proceed number =>
      cases h : s.calls[number]? with
      | none => rw [step_proceed_none h]
      | some call => rw [step_proceed h]; exact advance_extends

theorem run_extends {s : Traffic} {events : List Event} :
    s.cache.entries <+: (s.run events).cache.entries := by
  induction events generalizing s with
  | nil => exact List.prefix_rfl
  | cons e events ih => rw [run_cons]; exact step_extends.trans ih

/-! ## The calls and their keys -/

theorem keys_step {s : Traffic} {e : Event} : (s.step e).keys = s.keys ++ e.key?.toList := by
  cases e with
  | arrive source key => simp [step, keys, Event.key?]
  | proceed number =>
      cases h : s.calls[number]? with
      | none => simp [step_proceed_none h, Event.key?]
      | some call =>
          -- the call keeps its key, so the list with the key put in its place again is the list
          obtain ⟨hn, rfl⟩ := List.getElem?_eq_some_iff.mp h
          have hk : (s.step (.proceed number)).keys =
              (s.calls.set number s.calls[number]).map Call.key := by
            rw [step_proceed h, keys, List.map_set, List.map_set]
          rw [hk, List.set_getElem_self, Event.key?, Option.toList_none, List.append_nil, keys]

theorem keys_run {s : Traffic} {events : List Event} :
    (s.run events).keys = s.keys ++ events.filterMap Event.key? := by
  induction events generalizing s with
  | nil => simp
  | cons e events ih =>
      rw [run_cons, ih, keys_step]
      cases h : e.key? <;> simp [h]

/-! ## The invariant -/

/-- What holds of a call at every stage: it brings the original of its variant, an image of its own
is the right one for its key, and what it has been given is the entry of its key. -/
structure Fits (originals : Bool → Image) (cache : ResizeCache Raster) (number : Nat)
    (call : Call) : Prop where
  source : call.source = originals call.key.variant
  made : ∀ own, call.stage = .made own →
    own.maker = number ∧ ResizeCache.Resized originals cache.mode call.key own.image
  served : ∀ given, call.stage = .served given → cache.find? call.key = some given

/-- The invariant of a cache and its calls. -/
structure Sound (originals : Bool → Image) (mode : FitMode) (s : Traffic) : Prop where
  mode_eq : s.cache.mode = mode
  unique : (s.cache.entries.map Prod.fst).Nodup
  images : s.cache.Holds fun key kept => ResizeCache.Resized originals mode key kept.image
  makers : s.cache.Holds fun key kept => s.keys[kept.maker]? = some key
  calls : ∀ number call, s.calls[number]? = some call → Fits originals s.cache number call

variable {originals : Bool → Image} {mode : FitMode}

theorem sound_start : Sound originals mode (start mode) where
  mode_eq := rfl
  unique := List.nodup_nil
  images := ResizeCache.holds_empty
  makers := ResizeCache.holds_empty
  calls := fun _ _ h => absurd h (by simp [start])

theorem Fits.mono {cache cache' : ResizeCache Raster} {number : Nat} {call : Call}
    (h : Fits originals cache number call) (hm : cache'.mode = cache.mode)
    (hx : cache.entries <+: cache'.entries) : Fits originals cache' number call where
  source := h.source
  made := fun own ho => hm ▸ h.made own ho
  served := fun given hg => ResizeCache.find?_of_extends hx (h.served given hg)

theorem advance_mode {call : Call} {number : Nat} {cache : ResizeCache Raster} :
    (call.advance number cache).2.mode = cache.mode := by
  rcases advance_cases call number cache with ⟨-, _, -, h⟩ | ⟨-, h⟩ | ⟨-, h⟩ | ⟨_, -, h⟩ | ⟨_, -, h⟩
  case inr.inr.inr.inl => rw [h]; exact ResizeCache.offer_mode
  all_goals rw [h]

theorem Fits.advance {cache : ResizeCache Raster} {number : Nat} {call : Call}
    (h : Fits originals cache number call) :
    Fits originals (call.advance number cache).2 number
      { call with stage := (call.advance number cache).1 } := by
  rcases advance_cases call number cache with
    ⟨-, kept, hk, ha⟩ | ⟨-, ha⟩ | ⟨-, ha⟩ | ⟨own, -, ha⟩ | ⟨given, hg, ha⟩
  case inl =>
      rw [ha]
      refine ⟨h.source, fun _ ho => (by cases ho), fun given hg => ?_⟩
      cases hg
      exact hk
  case inr.inl =>
      rw [ha]
      exact ⟨h.source, fun _ ho => (by cases ho), fun _ hg => (by cases hg)⟩
  case inr.inr.inl =>
      rw [ha]
      refine ⟨h.source, fun own ho => ?_, fun _ hg => (by cases hg)⟩
      cases ho
      exact ⟨rfl, by rw [ResizeCache.Resized, h.source]⟩
  case inr.inr.inr.inl =>
      rw [ha]
      refine ⟨h.source, fun _ ho => (by cases ho), fun given hg => ?_⟩
      cases hg
      exact ResizeCache.find?_offer_self
  case inr.inr.inr.inr =>
      rw [ha]
      refine ⟨h.source, fun _ ho => (by cases ho), fun given' hg' => ?_⟩
      cases hg'
      exact h.served given hg

/-- What one step of a call does to the cache: whatever held of all entries goes on to hold, if it
holds of the image that the call may offer. -/
theorem advance_holds {P : CacheKey → Raster → Prop} {call : Call} {number : Nat}
    {cache : ResizeCache Raster} (h : cache.Holds P)
    (hp : ∀ own, call.stage = .made own → P call.key own) :
    (call.advance number cache).2.Holds P := by
  rcases advance_cases call number cache with
    ⟨-, _, -, ha⟩ | ⟨-, ha⟩ | ⟨-, ha⟩ | ⟨own, ho, ha⟩ | ⟨_, -, ha⟩
  case inr.inr.inr.inl => rw [ha]; exact h.offer (hp own ho)
  all_goals rw [ha]; exact h

theorem advance_nodup {call : Call} {number : Nat} {cache : ResizeCache Raster}
    (h : (cache.entries.map Prod.fst).Nodup) :
    ((call.advance number cache).2.entries.map Prod.fst).Nodup := by
  rcases advance_cases call number cache with
    ⟨-, _, -, ha⟩ | ⟨-, ha⟩ | ⟨-, ha⟩ | ⟨_, -, ha⟩ | ⟨_, -, ha⟩
  case inr.inr.inr.inl => rw [ha]; exact ResizeCache.offer_nodup h
  all_goals rw [ha]; exact h

/-- A new call has been given nothing, so only its original matters. -/
theorem Sound.arrive {s : Traffic} {source : Image} {key : CacheKey}
    (h : Sound originals mode s) (hs : source = originals key.variant) :
    Sound originals mode (s.step (.arrive source key)) where
  mode_eq := h.mode_eq
  unique := h.unique
  images := h.images
  makers := by
    intro e he
    have hk := h.makers e he
    rw [keys_step, List.getElem?_append_left (List.getElem?_eq_some_iff.mp hk).1]
    exact hk
  calls := by
    intro number call hc
    simp only [step] at hc ⊢
    rcases Nat.lt_trichotomy number s.calls.length with hn | hn | hn
    · rw [List.getElem?_append_left hn] at hc
      exact h.calls number call hc
    · rw [hn, List.getElem?_concat_length] at hc
      cases hc
      exact ⟨hs, fun _ ho => (by cases ho), fun _ hg => (by cases hg)⟩
    · rw [List.getElem?_eq_none (by simp; omega)] at hc
      exact absurd hc (by simp)

/-- The step of one call keeps all the others fit, since the cache only grows. -/
theorem Sound.proceed {s : Traffic} {number : Nat} (h : Sound originals mode s) :
    Sound originals mode (s.step (.proceed number)) := by
  cases hc : s.calls[number]? with
  | none => rw [step_proceed_none hc]; exact h
  | some call =>
      have hfit : Fits originals s.cache number call := h.calls number call hc
      have hkeys : (s.step (.proceed number)).keys = s.keys := by simp [keys_step, Event.key?]
      rw [step_proceed hc] at hkeys ⊢
      refine ⟨advance_mode.trans h.mode_eq, advance_nodup h.unique,
        advance_holds h.images fun own ho => ?_, ?_, ?_⟩
      · rw [← h.mode_eq]
        exact (hfit.made own ho).2
      · intro e he
        rw [hkeys]
        refine advance_holds h.makers (fun own ho => ?_) e he
        rw [(hfit.made own ho).1, keys, List.getElem?_map, hc, Option.map_some]
      · intro other call' hc'
        rw [List.getElem?_set] at hc'
        split at hc'
        · rename_i hn
          subst hn
          split at hc'
          · cases hc'
            exact hfit.advance
          · exact absurd hc' (by simp)
        · exact (h.calls other call' hc').mono advance_mode advance_extends

/-- Every event keeps the invariant, if a new call brings the original of its variant. -/
theorem Sound.step {s : Traffic} {e : Event} (h : Sound originals mode s)
    (he : ∀ source key, e = .arrive source key → source = originals key.variant) :
    Sound originals mode (s.step e) := by
  cases e with
  | arrive source key => exact h.arrive (he source key rfl)
  | proceed number => exact h.proceed

/-- The invariant holds after any events in any order. -/
theorem Sound.run {s : Traffic} {events : List Event} (h : Sound originals mode s)
    (he : ∀ source key, Event.arrive source key ∈ events → source = originals key.variant) :
    Sound originals mode (s.run events) := by
  induction events generalizing s with
  | nil => exact h
  | cons e events ih =>
      rw [run_cons]
      refine ih (h.step fun source key hk => ?_) fun source key hm => ?_
      · exact he source key (hk ▸ List.mem_cons_self)
      · exact he source key (List.mem_cons_of_mem _ hm)

theorem run_sound {events : List Event}
    (he : ∀ source key, Event.arrive source key ∈ events → source = originals key.variant) :
    Sound originals mode ((start mode).run events) := sound_start.run he

/-- Every entry was asked for, and no key has two of them. -/
theorem Sound.size_le {s : Traffic} (h : Sound originals mode s) :
    s.cache.size ≤ s.keys.toFinset.card := by
  have hsub : (s.cache.entries.map Prod.fst).toFinset ⊆ s.keys.toFinset := by
    intro key hk
    obtain ⟨e, he, rfl⟩ := List.mem_map.mp (List.mem_toFinset.mp hk)
    exact List.mem_toFinset.mpr (List.mem_of_getElem? (h.makers e he))
  calc s.cache.size = (s.cache.entries.map Prod.fst).toFinset.card := by
        rw [List.toFinset_card_of_nodup h.unique, List.length_map, ResizeCache.size]
    _ ≤ s.keys.toFinset.card := Finset.card_le_card hsub

/-! ## Every call is served -/

theorem advance_remaining {call : Call} {number : Nat} {cache : ResizeCache Raster} :
    (call.advance number cache).1.remaining ≤ call.stage.remaining - 1 := by
  rcases advance_cases call number cache with
    ⟨hs, _, -, ha⟩ | ⟨hs, ha⟩ | ⟨hs, ha⟩ | ⟨_, hs, ha⟩ | ⟨_, hs, ha⟩
  all_goals
    rw [ha, hs]
    simp [Stage.remaining]

/-- Only its own steps change a call, and they change nothing but its stage. -/
theorem step_remaining {s : Traffic} {number : Nat} {call : Call} {e : Event}
    (hc : s.calls[number]? = some call) :
    ∃ stage, (s.step e).calls[number]? = some { call with stage := stage } ∧
      stage.remaining ≤ call.stage.remaining - [e].count (.proceed number) := by
  have hn := (List.getElem?_eq_some_iff.mp hc).1
  cases e with
  | arrive source key =>
      exact ⟨call.stage, by rw [step, List.getElem?_append_left hn, hc], by simp⟩
  | proceed other =>
      by_cases ho : other = number
      · subst ho
        rw [step_proceed hc]
        exact ⟨_, List.getElem?_set_self hn, by simpa using advance_remaining⟩
      · refine ⟨call.stage, ?_, by simp [ho]⟩
        cases hc' : s.calls[other]? with
        | none => rw [step_proceed_none hc', hc]
        | some _ => rw [step_proceed hc', List.getElem?_set_ne ho, hc]

theorem run_remaining {s : Traffic} {number : Nat} {call : Call}
    (hc : s.calls[number]? = some call) (events : List Event) :
    ∃ stage, (s.run events).calls[number]? = some { call with stage := stage } ∧
      stage.remaining ≤ call.stage.remaining - events.count (.proceed number) := by
  induction events generalizing s call with
  | nil => exact ⟨call.stage, hc, by simp⟩
  | cons e events ih =>
      obtain ⟨stage, hs, hle⟩ := step_remaining (e := e) hc
      obtain ⟨stage', hs', hle'⟩ := ih hs
      refine ⟨stage', by rw [run_cons, hs'], ?_⟩
      rw [← List.singleton_append, List.count_append]
      simp only at hle'
      omega

/-- A call has been served once it has taken three steps, whatever came between them. -/
theorem run_served {s : Traffic} {number : Nat} {call : Call} {events : List Event}
    (hc : s.calls[number]? = some call) (hn : 3 ≤ events.count (.proceed number)) :
    ∃ given, (s.run events).calls[number]? = some { call with stage := .served given } := by
  obtain ⟨stage, hs, hle⟩ := run_remaining hc events
  have h3 : call.stage.remaining ≤ 3 := by cases call.stage <;> simp [Stage.remaining]
  have h0 : stage.remaining = 0 := by omega
  cases stage with
  | served given => exact ⟨given, hs⟩
  | _ => exact absurd h0 (by simp [Stage.remaining])

end Traffic

/-! ## A call that nothing comes between -/

/-- The cache with the images themselves. -/
def ResizeCache.images (c : ResizeCache Raster) : ResizeCache Image :=
  ⟨c.mode, c.entries.map fun e => (e.1, e.2.image)⟩

namespace ResizeCache

variable {c : ResizeCache Raster} {key : CacheKey} {r : Raster}

theorem images_find? (c : ResizeCache Raster) (key : CacheKey) :
    c.images.find? key = (c.find? key).map Raster.image := by
  unfold find? images
  induction c.entries with
  | nil => rfl
  | cons e entries ih =>
      rw [List.map_cons, List.lookup_cons, List.lookup_cons, ih]
      cases key == e.1 <;> rfl

theorem images_offer : (c.images.offer key r.image) =
    ((c.offer key r).1.image, (c.offer key r).2.images) := by
  have hi := images_find? c key
  cases h : c.find? key with
  | some kept =>
      rw [h] at hi
      rw [offer_of_some h, offer_of_some hi]
  | none =>
      rw [h] at hi
      rw [offer_of_none h, offer_of_none hi]
      simp [images]

end ResizeCache

namespace Traffic

theorem step_last {cache : ResizeCache Raster} {calls : List Call} {call : Call} :
    step ⟨cache, calls ++ [call]⟩ (.proceed calls.length) =
      ⟨(call.advance calls.length cache).2,
        calls ++ [{ call with stage := (call.advance calls.length cache).1 }]⟩ := by
  rw [step_proceed List.getElem?_concat_length, List.set_append_right _ _ (Nat.le_refl _)]
  simp

/-- A call made now whose steps nothing comes between. -/
def alone (s : Traffic) (source : Image) (key : CacheKey) : Traffic :=
  s.run [.arrive source key, .proceed s.calls.length, .proceed s.calls.length,
    .proceed s.calls.length]

/-- Such a call is `ResizeCache.get`. -/
theorem run_alone {s : Traffic} {source : Image} {key : CacheKey} :
    ∃ given, (s.alone source key).calls = s.calls ++ [⟨source, key, .served given⟩] ∧
      s.cache.images.get source key = (given.image, (s.alone source key).cache.images) := by
  have hi := ResizeCache.images_find? s.cache key
  unfold alone
  rw [run_cons, run_cons, run_cons, run_cons, run_nil, step, step_last, step_last, step_last]
  cases hf : s.cache.find? key with
  | some kept =>
      rw [hf] at hi
      refine ⟨kept, by simp only [Call.advance, hf], ?_⟩
      simp only [ResizeCache.get, hi, Call.advance, hf, Option.map_some]
  | none =>
      rw [hf] at hi
      let own : Raster := ⟨s.calls.length, source.resize s.cache.mode key.width key.height⟩
      refine ⟨(s.cache.offer key own).1, by simp only [Call.advance, hf, own], ?_⟩
      simp only [ResizeCache.get, hi, Call.advance, hf, Option.map_none]
      exact ResizeCache.images_offer (r := own)

/-! ## Sharing -/

/-- Callers of one cache share its entries, in whatever order their steps are taken, if all those
that ask for a variant bring the same original.  No key has two entries; each entry is resized from
the original of its variant; entries stay.  A call that has been served was given the entry of its
key, so two calls for one key were given one and the same image, even if both had found none; and a
call is served by its third step.  There are no more entries than keys that have been asked for, and
a call whose steps nothing comes between is `ResizeCache.get`. -/
theorem callers_share_entries {originals : Bool → Image} {mode : FitMode} {events : List Event}
    (h : ∀ source key, Event.arrive source key ∈ events → source = originals key.variant) :
    let s := (start mode).run events
    (s.cache.entries.map Prod.fst).Nodup ∧
    (∀ key kept, (key, kept) ∈ s.cache.entries →
      kept.image = (originals key.variant).resize mode key.width key.height) ∧
    (∀ later, s.cache.entries <+: (s.run later).cache.entries) ∧
    (∀ call given, call ∈ s.calls → call.stage = .served given →
      s.cache.find? call.key = some given) ∧
    (∀ call call' given given', call ∈ s.calls → call' ∈ s.calls → call.key = call'.key →
      call.stage = .served given → call'.stage = .served given' → given = given') ∧
    (∀ number call later, s.calls[number]? = some call → 3 ≤ later.count (.proceed number) →
      ∃ given, (s.run later).calls[number]? = some { call with stage := .served given }) ∧
    s.cache.size ≤ (events.filterMap Event.key?).toFinset.card ∧
    (∀ source key, ∃ given,
      (s.alone source key).calls = s.calls ++ [⟨source, key, .served given⟩] ∧
      s.cache.images.get source key = (given.image, (s.alone source key).cache.images)) := by
  intro s
  have hs : Sound originals mode s := run_sound h
  have hserved : ∀ call given, call ∈ s.calls → call.stage = .served given →
      s.cache.find? call.key = some given := by
    intro call given hc hg
    obtain ⟨number, hn⟩ := List.mem_iff_getElem?.mp hc
    exact (hs.calls number call hn).served given hg
  refine ⟨hs.unique, fun key kept he => hs.images _ he, fun later => run_extends, hserved, ?_,
    fun _ _ _ hc hn => run_served hc hn, ?_, fun _ _ => run_alone⟩
  · intro call call' given given' hc hc' hk hg hg'
    have hf := hserved call given hc hg
    rw [hk, hserved call' given' hc' hg'] at hf
    exact (Option.some.inj hf).symm
  · have hk : s.keys = events.filterMap Event.key? := keys_run
    rw [← hk]
    exact hs.size_le

/-- Two calls miss one key and make an image each; the second is faster, and both are given its. -/
theorem racing_misses_share :
    let source : Image := .filled 3 2 .transparent
    let key : CacheKey := ⟨6, 4, true⟩
    let events : List Event := [.arrive source key, .arrive source key, .proceed 0, .proceed 1,
      .proceed 0, .proceed 1, .proceed 1, .proceed 0]
    let s := (start .clip).run events
    (∀ source' key', Event.arrive source' key' ∈ events → source' = source) ∧
    s.cache.size ≤ 1 ∧
    ∃ given, s.cache.find? key = some given ∧ given.maker = 1 ∧
      s.calls = [⟨source, key, .served given⟩, ⟨source, key, .served given⟩] := by
  intro source key events s
  have h : ∀ source' key', Event.arrive source' key' ∈ events → source' = source := by
    simp [events]
  have hrun : s.calls = [⟨source, key, .served ⟨1, source.resize .clip 6 4⟩⟩,
      ⟨source, key, .served ⟨1, source.resize .clip 6 4⟩⟩] := by
    simp [s, events, key, step, Call.advance, ResizeCache.find?, ResizeCache.offer,
      ResizeCache.empty, start]
  obtain ⟨-, -, -, hserved, -, -, hsize, -⟩ :=
    @callers_share_entries (fun _ => source) .clip events h
  have hfind := hserved ⟨source, key, .served ⟨1, source.resize .clip 6 4⟩⟩ _
    (by rw [hrun]; exact List.mem_cons_self) rfl
  exact ⟨h, hsize, ⟨1, source.resize .clip 6 4⟩, hfind, rfl, hrun⟩

end Traffic
end Placard
