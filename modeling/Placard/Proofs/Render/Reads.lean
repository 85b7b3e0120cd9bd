/-
# What a render reads of a request

A render reads of a request the values under the keys that the bindings of its plugins name, and
nothing else.  What was inserted under other keys, in which order, and in which letter case, shows
neither in the image nor in the failure.

| what is read | of it | |
| :-- | :-- | :-- |
| a list of insertions | the last one under each key, in lower case | `RequestValues.get?_ofList` |
| a set of values | those under the keys of a plugin | `Plugin.bind_reads` |
| a list of plugins | the same, for each of them | `Plugin.bindAll_reads` |

Drawing reads nothing of a request, so all of it rests on binding.  There every entry asks for the
text or the amount under its own key, and a failure names that key and what stands under it.
-/
import Placard.Proofs.Render.History

namespace Placard

/-! ## Insertions -/

namespace RequestValues

variable {values v w : RequestValues} {key k : String} {value : RequestValue}
  {pairs pairs' : List (String × RequestValue)}

theorem lookup_filter_ne (h : k ≠ key) :
    (pairs.filter (·.1 ≠ key)).lookup k = pairs.lookup k := by
  induction pairs with
  | nil => rfl
  | cons e pairs ih =>
      by_cases he : e.1 = key
      · have hk : (k == e.1) = false := beq_false_of_ne fun hk => h (hk.trans he)
        rw [List.filter_cons, if_neg (by simp [he]), ih, List.lookup_cons, hk]
      · rw [List.filter_cons, if_pos (by simp [he]), List.lookup_cons, List.lookup_cons, ih]

/-- A value stands under its key in lower case from then on, and the others stay. -/
theorem get?_insert :
    (values.insert key value).get? k = if k = Text.lower key then some value else values.get? k := by
  unfold insert get?
  rw [List.lookup_cons]
  by_cases h : k = Text.lower key
  · rw [if_pos h, beq_iff_eq.mpr h]
  · rw [if_neg h, beq_false_of_ne h]
    exact lookup_filter_ne h

/-- The last value that was inserted under a key. -/
def last? (pairs : List (String × RequestValue)) (key : String) : Option RequestValue :=
  ((pairs.filter fun e => Text.lower e.1 = key).map Prod.snd).getLast?

theorem last?_append_singleton {e : String × RequestValue} :
    last? (pairs ++ [e]) k = if k = Text.lower e.1 then some e.2 else last? pairs k := by
  unfold last?
  rw [List.filter_append, List.map_append]
  by_cases h : k = Text.lower e.1
  · rw [if_pos h, List.filter_singleton, decide_eq_true h.symm]
    exact List.getLast?_concat
  · rw [if_neg h, List.filter_singleton, decide_eq_false (Ne.symm h)]
    exact congrArg List.getLast? (List.append_nil _)

theorem get?_ofList : (ofList pairs).get? k = last? pairs k := by
  induction pairs using List.reverseRecOn with
  | nil => rfl
  | append_singleton pairs e ih =>
      rw [last?_append_singleton, ← ih, ← get?_insert]
      unfold ofList
      rw [List.foldl_append]
      rfl

/-- Leaving out what is under other keys changes nothing under a key. -/
theorem last?_filter {keys : List String} (h : k ∈ keys) :
    last? (pairs.filter fun e => Text.lower e.1 ∈ keys) k = last? pairs k := by
  unfold last?
  rw [List.filter_filter]
  refine congrArg (fun es => (List.map Prod.snd es).getLast?) (List.filter_congr fun e _ => ?_)
  by_cases he : Text.lower e.1 = k
  · simp [he, h]
  · simp [he]

theorem last?_perm (h : pairs.Perm pairs') (hn : (pairs.map fun e => Text.lower e.1).Nodup) :
    last? pairs k = last? pairs' k := by
  have hp := h.filter fun e => decide (Text.lower e.1 = k)
  have hs : ((pairs.filter fun e => decide (Text.lower e.1 = k)).map
      fun e => Text.lower e.1).Nodup := hn.sublist (List.filter_sublist.map _)
  unfold last?
  cases hf : pairs.filter fun e => decide (Text.lower e.1 = k) with
  | nil =>
      rw [hf] at hp
      rw [List.nil_perm.mp hp]
  | cons a rest =>
      cases rest with
      | nil =>
          rw [hf] at hp
          rw [List.singleton_perm.mp hp]
      | cons b rest =>
          -- two insertions under one key
          have hkey : ∀ e ∈ a :: b :: rest, Text.lower e.1 = k := by
            intro e he
            rw [← hf] at he
            exact of_decide_eq_true (List.mem_filter.mp he).2
          rw [hf, List.map_cons, List.map_cons, hkey a (by simp), hkey b (by simp)] at hs
          simp at hs

theorem last?_respelled
    (h : List.Forall₂ (fun e e' => Text.lower e.1 = Text.lower e'.1 ∧ e.2 = e'.2) pairs pairs') :
    last? pairs k = last? pairs' k := by
  refine congrArg List.getLast? ?_
  induction h with
  | nil => rfl
  | @cons e e' es es' he _ ih =>
      rw [List.filter_cons, List.filter_cons, he.1]
      split
      · rw [List.map_cons, List.map_cons, he.2, ih]
      · exact ih

theorem text_reads (h : v.get? k = w.get? k) : v.text k = w.text k := by
  unfold text
  rw [h]

theorem amount_reads (h : v.get? k = w.get? k) : v.amount k = w.amount k := by
  unfold amount
  rw [h]

end RequestValues

/-! ## Plugins -/

section Reads

variable {values v w : RequestValues} {assets : AssetSource}

theorem Picture.bind_reads {p : Picture}
    (h : ∀ k ∈ p.bindings.entries.map Prod.snd, v.get? k = w.get? k) :
    p.bind v assets = p.bind w assets := by
  have hfold : p.bindings.entries.foldl (bindEntry v) ⟨p, false⟩ =
      p.bindings.entries.foldl (bindEntry w) ⟨p, false⟩ := by
    refine List.foldl_ext _ _ _ fun c e he => ?_
    obtain ⟨field, key⟩ := e
    cases field
    simp only [bindEntry, RequestValues.text_reads (h key (List.mem_map_of_mem he))]
  unfold bind
  rw [hfold]

theorem Code.bind_reads {c : Code}
    (h : ∀ k ∈ c.bindings.entries.map Prod.snd, v.get? k = w.get? k) :
    c.bind v = c.bind w := by
  have hfold : c.bindings.entries.foldl (bindEntry c v) ⟨c, false⟩ =
      c.bindings.entries.foldl (bindEntry c w) ⟨c, false⟩ := by
    refine List.foldl_ext _ _ _ fun s e he => ?_
    obtain ⟨field, key⟩ := e
    cases field
    simp only [bindEntry, RequestValues.text_reads (h key (List.mem_map_of_mem he))]
  unfold bind
  rw [hfold]

theorem Caption.bind_reads {c : Caption}
    (h : ∀ k ∈ c.bindings.entries.map Prod.snd, v.get? k = w.get? k) :
    c.bind v = c.bind w := by
  have hfold : c.bindings.entries.foldlM (bindEntry v) ⟨c, false⟩ =
      c.bindings.entries.foldlM (bindEntry w) ⟨c, false⟩ := by
    refine foldlM_congr fun s e he => ?_
    obtain ⟨field, key⟩ := e
    have hk := h key (List.mem_map_of_mem he)
    cases field
    case text => simp only [bindEntry, RequestValues.text_reads hk]
    all_goals simp only [bindEntry, RequestValues.amount_reads hk]
  unfold bind
  rw [hfold]

namespace Plugin

/-- The binding as it was declared. -/
def binding : Plugin → List (String × String)
  | image p => p.binding
  | text c => c.binding
  | qr c => c.binding

/-- The keys that the plugin takes values from. -/
def keys (p : Plugin) : List String := p.binding.map fun d => Text.lower d.2

variable {p d : Plugin}

/-- A configured plugin takes from a request what is under its keys, and nothing else. -/
theorem bind_reads (hp : d.configure assets = .ok p) (h : ∀ k ∈ p.keys, v.get? k = w.get? k)
    (source : AssetSource) : p.bind v source = p.bind w source := by
  cases d with
  | image d =>
      obtain ⟨p, hd, rfl⟩ := map_eq_ok.mp hp
      refine congrArg (Except.map _) (Picture.bind_reads ?_)
      rw [Binding.keys_of_ofDeclared (Picture.configure_binding hd)]
      exact h
  | text d =>
      obtain ⟨c, hd, rfl⟩ := map_eq_ok.mp hp
      refine congrArg (Except.map _) (Caption.bind_reads ?_)
      rw [Binding.keys_of_ofDeclared (Caption.configure_binding hd)]
      exact h
  | qr d =>
      obtain ⟨c, hd, rfl⟩ := map_eq_ok.mp hp
      refine congrArg (Except.map _) (Code.bind_reads ?_)
      rw [Binding.keys_of_ofDeclared (Code.configure_binding hd)]
      exact h

/-- The plugins of a list take what is under the keys of each of them. -/
theorem bindAll_reads {ps : List Plugin} (hps : ∀ p ∈ ps, Template.Configured assets p)
    (h : ∀ p ∈ ps, ∀ k ∈ p.keys, v.get? k = w.get? k) (source : AssetSource) (index : Nat) :
    bindAll v source index ps = bindAll w source index ps := by
  induction ps generalizing index with
  | nil => rfl
  | cons p ps ih =>
      obtain ⟨entry, declared, -, hp⟩ := hps p List.mem_cons_self
      have hb := bind_reads hp (h p List.mem_cons_self) source
      have hrest := ih (fun q hq => hps q (List.mem_cons_of_mem _ hq))
        (fun q hq => h q (List.mem_cons_of_mem _ hq)) (index + 1)
      rw [bindAll, bindAll, hb, hrest]

end Plugin

end Reads

/-! ## Templates -/

namespace Template

/-- The keys that the plugins of a template take values from. -/
def keys (t : Template) : List String := t.plugins.flatMap Plugin.keys

variable {t : Template} {name : String} {content : Payload} {source : AssetSource}

/-- Two requests that have the same under the keys of a template are rendered the same, whatever has
been rendered before. -/
theorem render_reads {v w : RequestValues} (ht : load name content source = .ok t)
    (h : ∀ k ∈ t.keys, v.get? k = w.get? k) (before before' : List RenderRequest) (requested : Nat)
    (assets : AssetSource) :
    ((t.after before).render v requested assets).1 =
      ((t.after before').render w requested assets).1 := by
  have hkeys : ∀ p ∈ t.plugins, ∀ k ∈ p.keys, v.get? k = w.get? k := fun p hp k hk =>
    h k (List.mem_flatMap.mpr ⟨p, hp, hk⟩)
  have hplain : t.renderPlain v requested assets = t.renderPlain w requested assets := by
    unfold renderPlain
    rw [Plugin.bindAll_reads (load_configured ht) hkeys]
  calc ((t.after before).render v requested assets).1
      = t.renderPlain v requested assets := render_after (load_kept ht) before
    _ = t.renderPlain w requested assets := hplain
    _ = ((t.after before').render w requested assets).1 :=
        (render_after (load_kept ht) before').symm

/-- Of the values that a request inserts, the last one under each key that a binding names decides
what comes of a render, the image or the failure.  Values under other keys, the order of insertions
under different keys and the letter case of keys have no influence. -/
theorem render_reads_named_keys (ht : load name content source = .ok t) (requested : Nat)
    (assets : AssetSource) :
    let result := fun before pairs => ((t.after before).render (.ofList pairs) requested assets).1
    (∀ before before' pairs pairs',
      (∀ k ∈ t.keys, RequestValues.last? pairs k = RequestValues.last? pairs' k) →
      result before pairs = result before' pairs') ∧
    (∀ before pairs, result before (pairs.filter fun e => Text.lower e.1 ∈ t.keys) =
      result before pairs) ∧
    (∀ before pairs pairs', pairs.Perm pairs' → (pairs.map fun e => Text.lower e.1).Nodup →
      result before pairs = result before pairs') ∧
    (∀ before pairs pairs',
      List.Forall₂ (fun e e' => Text.lower e.1 = Text.lower e'.1 ∧ e.2 = e'.2) pairs pairs' →
      result before pairs = result before pairs') := by
  intro result
  have hlast : ∀ before before' pairs pairs',
      (∀ k ∈ t.keys, RequestValues.last? pairs k = RequestValues.last? pairs' k) →
      result before pairs = result before' pairs' := by
    intro before before' pairs pairs' h
    refine render_reads ht (fun k hk => ?_) before before' requested assets
    rw [RequestValues.get?_ofList, RequestValues.get?_ofList, h k hk]
  refine ⟨hlast, ?_, ?_, ?_⟩
  · intro before pairs
    exact hlast before before _ _ fun k hk => RequestValues.last?_filter hk
  · intro before pairs pairs' hp hn
    exact hlast before before _ _ fun k _ => RequestValues.last?_perm hp hn
  · intro before pairs pairs' hf
    exact hlast before before _ _ fun k _ => RequestValues.last?_respelled hf

/-- A card with a picture that takes its image from the request.  What else a request inserts, and an
image that it names before the last one, do not matter; without an image there is a failure. -/
theorem render_reads_named_keys_of_card :
    let source : AssetSource :=
      .ofPictures [("a", .filled 1 1 .white), ("b", .filled 2 1 .black)]
    let card : Payload :=
      .ofText "allWidths: [4]\nplugins:\n- \x7btype: image, binding: \x7bIMAGE: Pic\x7d\x7d\n"
    let busy := [("PIC", .text "b"), ("junk", .whole 7), ("pic", .text "a"), ("image", .text "b")]
    let plain := [("Pic", .text "a")]
    ∃ t, load "card" card source = .ok t ∧ t.keys = ["pic"] ∧
      (t.render (.ofList busy) 4 source).1 = (t.render (.ofList plain) 4 source).1 ∧
      (t.render (.ofList plain) 4 source).1.isOk = true ∧
      (t.render .empty 4 source).1.isOk = false := by
  intro source card busy plain
  have ht : ((load "card" card source).toOption.any fun t => decide (t.keys = ["pic"] ∧
      (t.render (.ofList plain) 4 source).1.isOk = true ∧
      (t.render .empty 4 source).1.isOk = false)) = true := by
    rw [any_load (show card = .ofText _ from rfl), String.toList_ofList]
    decide +kernel
  obtain ⟨t, hl, ht⟩ := any_toOption.mp ht
  obtain ⟨hk, hok, herr⟩ := of_decide_eq_true ht
  refine ⟨t, hl, hk, ?_, hok, herr⟩
  -- the same image is the last one under the only key
  refine (render_reads_named_keys hl 4 source).1 [] [] busy plain fun k h => ?_
  rw [hk, List.mem_singleton] at h
  subst h
  rfl

end Template
end Placard
