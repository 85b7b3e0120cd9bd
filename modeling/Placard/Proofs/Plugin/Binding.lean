/-
# What a binding puts

A plugin declares for some of its fields the keys under which a request has their values.  Names are
compared in lower case, so several entries may name one field, and the rule is that the last of them
counts, in the order of the map (`Binding.Follows`).  The map is read in the order of its names
(`Reading.texts_sorted`).

| | |
| :-- | :-- |
| pictures | follow the rule (`Picture.bind_follows`) |
| captions | follow the rule (`Caption.bind_follows`) |
| codes | pass over an entry whose value is their own text (`Code.bind_text`) |

A picture and a caption compare the value of an entry with the copy that the entries before it have
changed.  A code compares it with the code itself, so an entry that would bring the text of the code
back does nothing.  Hence a code follows the rule unless the last value is its own text and an
earlier one is not (`Code.follows_iff`).
-/
import Placard.Proofs.Plugin.Life
import Placard.Proofs.Sorted

namespace Placard

/-! ## Declared in order -/

theorem Yaml.Reading.texts_sorted {v : Yaml.Value} {entries : List (String × String)}
    (h : Yaml.Reading.texts v = .ok entries) : entries.Pairwise (·.1 < ·.1) := by
  obtain ⟨m, -, h⟩ := bind_eq_ok.mp h
  refine foldlM_keeps (fun entries => entries.Pairwise (·.1 < ·.1)) ?_ List.Pairwise.nil h
  intro entries kv entries' hs he
  obtain ⟨k, -, he⟩ := bind_eq_ok.mp he
  obtain ⟨v, -, he⟩ := bind_eq_ok.mp he
  cases he
  exact Text.SortedByKey.put hs

/-! ## The rule -/

/-- What a field that can be bound holds. -/
inductive BoundValue where
  | text (s : String)
  | amount (n : Int64)
  deriving DecidableEq

namespace Binding

variable {φ : Type} [DecidableEq φ] {kind : PluginKind} {field? : String → Option φ}
  {declared : List (String × String)} {b : Binding φ} {field : φ}

/-- The key of the last declared entry that names a field. -/
def lastKey? (field? : String → Option φ) (declared : List (String × String)) (field : φ) :
    Option String :=
  ((declared.filter fun d => field? (Text.lower d.1) = some field).getLast?).map fun d =>
    Text.lower d.2

/-- The rule: a field that an entry names has the value of the last such entry, and every other one
has the value that it had before. -/
def Follows (field? : String → Option φ) (declared : List (String × String))
    (value : φ → String → Except BindError BoundValue) (before after : φ → BoundValue) : Prop :=
  ∀ field, match lastKey? field? declared field with
    | some key => value field key = .ok (after field)
    | none => after field = before field

theorem lastKey?_of_ofDeclared (h : ofDeclared kind field? declared = .ok b) :
    lastKey? field? declared field =
      ((b.entries.filter fun e => e.1 = field).getLast?).map Prod.snd := by
  have hkeys : (declared.filter fun d => field? (Text.lower d.1) = some field).map
      (fun d => Text.lower d.2) = (b.entries.filter fun e => e.1 = field).map Prod.snd := by
    have hf := forall₂_of_ofDeclared h
    clear h
    generalize b.entries = entries at hf
    induction hf with
    | nil => rfl
    | @cons d e ds es hde _ ih =>
        simp only [List.filter_cons, hde.1, Option.some.injEq]
        by_cases he : e.1 = field
        · simp only [he, decide_true, if_true, List.map_cons, ih, hde.2]
        · simp only [he, decide_false, Bool.false_eq_true, if_false, ih]
  rw [lastKey?, ← List.getLast?_map, hkeys, List.getLast?_map]

/-- A loop over the entries follows the rule if each entry puts the value of its own field and leaves
the other fields alone. -/
theorem follows_of_foldlM {σ : Type} (step : σ → φ × String → Except BindError σ)
    {value : φ → String → Except BindError BoundValue} (bound : σ → φ → BoundValue)
    (hput : ∀ s e s', step s e = .ok s' → value e.1 e.2 = .ok (bound s' e.1))
    (hkeep : ∀ s e s', step s e = .ok s' → ∀ field, field ≠ e.1 → bound s' field = bound s field)
    {s s' : σ} (hb : ofDeclared kind field? declared = .ok b)
    (h : b.entries.foldlM step s = .ok s') :
    Follows field? declared value (bound s) (bound s') := by
  intro field
  have hlast := foldlM_last (fun s => bound s field) (fun e => decide (e.1 = field))
    (fun e => value field e.2)
    (fun s e s' he hs => by rw [← of_decide_eq_true he]; exact hput s e s' hs)
    (fun s e s' he hs => hkeep s e s' hs field fun hf => of_decide_eq_false he hf.symm) h
  rw [lastKey?_of_ofDeclared hb]
  cases hl : (b.entries.filter fun e => decide (e.1 = field)).getLast? with
  | none =>
      rw [hl] at hlast
      exact hlast
  | some e =>
      rw [hl] at hlast
      exact hlast

theorem follows_of_foldl {σ : Type} (step : σ → φ × String → σ)
    {value : φ → String → Except BindError BoundValue} (bound : σ → φ → BoundValue)
    (hput : ∀ s e, value e.1 e.2 = .ok (bound (step s e) e.1))
    (hkeep : ∀ s e field, field ≠ e.1 → bound (step s e) field = bound s field) {s : σ}
    (hb : ofDeclared kind field? declared = .ok b) :
    Follows field? declared value (bound s) (bound (b.entries.foldl step s)) :=
  follows_of_foldlM (fun s e => .ok (step s e)) bound
    (fun s e _ he => Except.ok.inj he ▸ hput s e)
    (fun s e _ he => Except.ok.inj he ▸ hkeep s e) hb List.foldlM_pure

end Binding

theorem foldlM_unchanged {ε ι σ : Type} (step : Change σ → ι → Except ε (Change σ))
    (hstep : ∀ c i c', step c i = .ok c' → c'.changed = false → c' = c) {is : List ι}
    {c c' : Change σ} (h : is.foldlM step c = .ok c') (hc : c'.changed = false) : c' = c := by
  induction is generalizing c with
  | nil =>
      cases h
      rfl
  | cons i is ih =>
      rw [List.foldlM_cons] at h
      obtain ⟨c₁, h₁, h⟩ := bind_eq_ok.mp h
      have he : c' = c₁ := ih h
      rw [he] at hc ⊢
      exact hstep c i c₁ h₁ hc

/-- Where nothing has changed, the plugin itself stands for what the loop has come to. -/
theorem Change.getD_result? {σ : Type} {c : Change σ} {s : σ}
    (h : c.changed = false → c.state = s) : c.result?.getD s = c.state := by
  unfold Change.result?
  split
  · rfl
  · rename_i hc
    exact (h (by simpa using hc)).symm

theorem Change.put_unchanged {α σ : Type} [BEq α] {c : Change σ} {old : σ → α} {set : σ → α → σ}
    {value : α} (h : (c.put old set value).changed = false) : c.put old set value = c := by
  unfold Change.put at h ⊢
  split
  · rfl
  · rename_i hne
    rw [if_neg hne] at h
    cases h

/-! ## Captions -/

namespace Caption

variable {c d : Caption} {values : RequestValues} {assets : AssetSource}

/-- What a caption holds in a field that can be bound. -/
def bound (c : Caption) : CaptionField → BoundValue
  | .text => .text c.text
  | .price => .amount c.price
  | .promotionPrice => .amount c.promotionPrice
  | .decimalPrice => .amount c.decimalPrice
  | .intPrice => .amount c.intPrice

/-- What a request has for a field under a key: a price may be asked for whole, or its last three
digits and its thousands apart. -/
def boundValue (values : RequestValues) : CaptionField → String → Except BindError BoundValue
  | .text, key => .ok (.text (values.text key))
  | .price, key => (values.amount key).map .amount
  | .promotionPrice, key => (values.amount key).map .amount
  | .decimalPrice, key => (values.amount key).map fun n => .amount (n % 1000)
  | .intPrice, key => (values.amount key).map fun n => .amount (n / 1000)

theorem bindEntry_puts {s s' : Change Caption} {e : CaptionField × String}
    (h : bindEntry values s e = .ok s') :
    boundValue values e.1 e.2 = .ok (s'.state.bound e.1) ∧
      ∀ field, field ≠ e.1 → s'.state.bound field = s.state.bound field := by
  have he := bindEntry_ok h
  obtain ⟨named, key⟩ := e
  cases named
  case text =>
      rw [show s'.state = _ from he]
      exact ⟨rfl, fun field hf => by cases field <;> first | rfl | exact absurd rfl hf⟩
  all_goals
    obtain ⟨n, hn, he⟩ := he
    rw [he]
    exact ⟨by simp only [boundValue, hn, Except.map, bound],
      fun field hf => by cases field <;> first | rfl | exact absurd rfl hf⟩

theorem bindEntry_unchanged {s s' : Change Caption} {e : CaptionField × String}
    (h : bindEntry values s e = .ok s') (hc : s'.changed = false) : s' = s := by
  obtain ⟨named, key⟩ := e
  cases named
  case text =>
      cases h
      exact Change.put_unchanged hc
  all_goals
    obtain ⟨n, -, h⟩ := bind_eq_ok.mp h
    cases h
    exact Change.put_unchanged hc

/-- A caption takes for each field the value of the last entry that names it, and keeps everything
else. -/
theorem bind_follows {copy : Option Caption} (hc : d.configure assets = .ok c)
    (h : c.bind values = .ok copy) :
    Binding.Follows CaptionField.ofName? c.binding (boundValue values) c.bound
        (copy.getD c).bound ∧
      ∃ text price promo decimal int,
        copy.getD c = c.withBindable text price promo decimal int := by
  obtain ⟨bindings, ink, face, hb, -, -, rfl⟩ := configure_ok hc
  obtain ⟨s, hs, rfl⟩ := map_eq_ok.mp h
  rw [Change.getD_result? fun hn => by rw [foldlM_unchanged _ (fun _ _ _ => bindEntry_unchanged) hs hn]]
  exact ⟨Binding.follows_of_foldlM _ (fun s => s.state.bound)
    (fun _ _ _ he => (bindEntry_puts he).1) (fun _ _ _ he => (bindEntry_puts he).2) hb hs,
    foldlM_bindEntry hs⟩

end Caption

/-! ## Pictures -/

namespace Picture

variable {p d : Picture} {values : RequestValues} {assets source : AssetSource}

/-- What a picture holds in the field that can be bound. -/
def bound (p : Picture) : PictureField → BoundValue
  | .image => .text p.image

/-- What a request has for a field under a key. -/
def boundValue (values : RequestValues) : PictureField → String → Except BindError BoundValue
  | .image, key => .ok (.text (values.text key))

theorem bindEntry_image {s : Change Picture} {e : PictureField × String} :
    (bindEntry values s e).state.image = values.text e.2 := by
  by_cases h : values.text e.2 ≠ s.state.image ∨ s.state.raster.isNone = true
  · rw [bindEntry_of_new h]
  · rw [bindEntry_of_same h]
    by_contra hne
    exact h (Or.inl fun he => hne he.symm)

theorem bindEntry_unchanged {s : Change Picture} {e : PictureField × String}
    (hc : (bindEntry values s e).changed = false) : bindEntry values s e = s := by
  by_cases h : values.text e.2 ≠ s.state.image ∨ s.state.raster.isNone = true
  · rw [bindEntry_of_new h] at hc
    cases hc
  · exact bindEntry_of_same h

theorem foldl_bindEntry_unchanged {entries : List (PictureField × String)} {s : Change Picture}
    (hc : (entries.foldl (bindEntry values) s).changed = false) :
    entries.foldl (bindEntry values) s = s :=
  foldlM_unchanged (fun s e => (.ok (bindEntry values s e) : Except BindError _))
    (fun _ _ _ he hn => by cases he; exact bindEntry_unchanged hn) List.foldlM_pure hc

theorem bind_fields {copy : Option Picture} (h : p.bind values assets = .ok copy) :
    (copy.getD p).toPictureFields =
      (p.bindings.entries.foldl (bindEntry values) ⟨p, false⟩).state.toPictureFields := by
  unfold bind at h
  cases hc : (p.bindings.entries.foldl (bindEntry values) ⟨p, false⟩).changed with
  | false =>
      simp only [Change.result?, hc, Bool.false_eq_true, if_false] at h
      cases h
      rw [foldl_bindEntry_unchanged hc]
      rfl
  | true =>
      simp only [Change.result?, hc, if_true] at h
      split at h
      · rename_i loaded hl
        cases h
        obtain ⟨-, raster, -, rfl⟩ := load_eq_ok.mp hl
        rfl
      · cases h

/-- A picture takes the image that the last entry names, and keeps everything else. -/
theorem bind_follows {copy : Option Picture} (hc : d.configure source = .ok p)
    (h : p.bind values assets = .ok copy) :
    Binding.Follows PictureField.ofName? p.binding (boundValue values) p.bound
        (copy.getD p).bound ∧
      ∃ uri, (copy.getD p).toPictureFields = { p.toPictureFields with image := uri } := by
  obtain ⟨bindings, hb, hcases⟩ := configure_ok hc
  have hdecl : p.binding = d.binding ∧ p.bindings = bindings := by
    obtain ⟨-, hl⟩ | ⟨-, rfl⟩ := hcases
    · obtain ⟨-, raster, -, rfl⟩ := load_eq_ok.mp hl
      exact ⟨rfl, rfl⟩
    · exact ⟨rfl, rfl⟩
  have hfields := bind_fields h
  obtain ⟨uri, hu⟩ := foldl_bindEntry values p.bindings.entries ⟨p, false⟩
  refine ⟨?_, uri, hfields.trans (by rw [hu])⟩
  have hbound : (copy.getD p).bound =
      (p.bindings.entries.foldl (bindEntry values) ⟨p, false⟩).state.bound := by
    funext field
    cases field
    exact congrArg (fun f : PictureFields => BoundValue.text f.image) hfields
  rw [hbound, hdecl.1, hdecl.2]
  exact Binding.follows_of_foldl _ (fun s : Change Picture => s.state.bound)
    (s := ⟨p, false⟩) (fun s e => by rw [boundValue, bound, bindEntry_image])
    (fun s e field hf => by cases field; exact absurd rfl hf) hb

end Picture

/-! ## Codes -/

namespace Code

variable {c d : Code} {values : RequestValues}

/-- What a code holds in the field that can be bound. -/
def bound (c : Code) : CodeField → BoundValue
  | .text => .text c.text

/-- What a request has for a field under a key. -/
def boundValue (values : RequestValues) : CodeField → String → Except BindError BoundValue
  | .text, key => .ok (.text (values.text key))

/-- What a request has for the entries of a declared binding. -/
def texts (values : RequestValues) (declared : List (String × String)) : List String :=
  declared.map fun d => values.text (Text.lower d.2)

/-- The last of the values that differ from the text of the code is what the entries come to. -/
theorem foldl_bindEntry_text {base : Code} {entries : List (CodeField × String)}
    {s : Change Code} :
    (entries.foldl (bindEntry base values) s).state.text =
      (((entries.map fun e => values.text e.2).filter (· ≠ base.text)).getLast?).getD
        s.state.text := by
  induction entries generalizing s with
  | nil => rfl
  | cons e entries ih =>
      rw [List.foldl_cons, ih, List.map_cons, List.filter_cons]
      by_cases he : values.text e.2 = base.text
      · simp [bindEntry, he]
      · simp [bindEntry, he, List.getLast?_cons]

theorem bindEntry_unchanged {base : Code} {s : Change Code} {e : CodeField × String}
    (hc : (bindEntry base values s e).changed = false) : bindEntry base values s e = s := by
  by_cases he : values.text e.2 = base.text
  · exact if_pos he
  · rw [show bindEntry base values s e = _ from if_neg he] at hc
    cases hc

theorem foldl_bindEntry_unchanged {base : Code} {entries : List (CodeField × String)}
    {s : Change Code} (hc : (entries.foldl (bindEntry base values) s).changed = false) :
    entries.foldl (bindEntry base values) s = s :=
  foldlM_unchanged (fun s e => (.ok (bindEntry base values s e) : Except BindError _))
    (fun _ _ _ he hn => by cases he; exact bindEntry_unchanged hn) List.foldlM_pure hc

theorem bind_fields {copy : Option Code} (h : c.bind values = .ok copy) :
    (copy.getD c).toCodeFields =
      (c.bindings.entries.foldl (bindEntry c values) ⟨c, false⟩).state.toCodeFields := by
  unfold bind at h
  cases hc : (c.bindings.entries.foldl (bindEntry c values) ⟨c, false⟩).changed with
  | false =>
      simp only [Change.result?, hc, Bool.false_eq_true, if_false] at h
      cases h
      rw [foldl_bindEntry_unchanged hc]
      rfl
  | true =>
      simp only [Change.result?, hc, if_true] at h
      split at h
      · rename_i built hb
        cases h
        obtain ⟨matrix, -, rfl⟩ := build_eq_ok.mp hb
        rfl
      · cases h

theorem texts_of_ofDeclared {declared : List (String × String)} {b : Binding CodeField}
    (h : Binding.ofDeclared .qr CodeField.ofName? declared = .ok b) :
    texts values declared = b.entries.map fun e => values.text e.2 := by
  have hkeys := congrArg (List.map values.text) (Binding.keys_of_ofDeclared h)
  rw [List.map_map, List.map_map] at hkeys
  exact hkeys.symm

theorem lastKey?_text (values : RequestValues) {declared : List (String × String)}
    {b : Binding CodeField} (h : Binding.ofDeclared .qr CodeField.ofName? declared = .ok b) :
    (Binding.lastKey? CodeField.ofName? declared .text).map values.text =
      (texts values declared).getLast? := by
  have hall : (b.entries.filter fun e => decide (e.1 = .text)) = b.entries :=
    List.filter_eq_self.mpr fun e _ => by cases e.1; rfl
  rw [Binding.lastKey?_of_ofDeclared h, hall, texts_of_ofDeclared h, List.getLast?_map,
    Option.map_map]
  rfl

/-- A code takes the last of the values that differ from its own text, and keeps everything else. -/
theorem bind_text {copy : Option Code} (hc : d.configure = .ok c) (h : c.bind values = .ok copy) :
    (copy.getD c).text =
        (((texts values c.binding).filter (· ≠ c.text)).getLast?).getD c.text ∧
      ∃ text, (copy.getD c).toCodeFields = { c.toCodeFields with text := text } := by
  obtain ⟨bindings, ink, matrix, hb, -, hq⟩ := configure_ok hc
  have hbinding : c.binding = d.binding := by rw [hq]
  have hbindings : c.bindings = bindings := by rw [hq]
  have hfields := bind_fields h
  obtain ⟨text, ht⟩ := foldl_bindEntry c values c.bindings.entries ⟨c, false⟩
  refine ⟨?_, text, hfields.trans (by rw [ht])⟩
  calc (copy.getD c).text
      = (c.bindings.entries.foldl (bindEntry c values) ⟨c, false⟩).state.text :=
        congrArg CodeFields.text hfields
    _ = (((c.bindings.entries.map fun e => values.text e.2).filter (· ≠ c.text)).getLast?).getD
          c.text := foldl_bindEntry_text
    _ = (((texts values c.binding).filter (· ≠ c.text)).getLast?).getD c.text := by
        rw [hbinding, texts_of_ofDeclared hb, hbindings]

/-- Where a value is passed over, nothing is left of it only if there is no other. -/
theorem getLast?_filter_ne {s : String} {ss : List String} :
    ((ss.filter (· ≠ s)).getLast?).getD s = s ↔ ∀ s' ∈ ss, s' = s := by
  cases hl : (ss.filter (· ≠ s)).getLast? with
  | none =>
      have hnil := List.filter_eq_nil_iff.mp (List.getLast?_eq_none_iff.mp hl)
      refine ⟨fun _ s' hs' => ?_, fun _ => rfl⟩
      by_contra hne
      exact hnil s' hs' (decide_eq_true hne)
  | some x =>
      have hx := List.mem_filter.mp (List.mem_of_getLast? hl)
      exact ⟨fun h => absurd h (of_decide_eq_true hx.2), fun h => h x hx.1⟩

/-- Passing over a value changes the last one, unless it is another one or there is no other. -/
theorem getLast?_filter_ne_iff {s : String} {ss : List String} :
    ((ss.filter (· ≠ s)).getLast?).getD s = ss.getLast?.getD s ↔
      ¬ (ss.getLast? = some s ∧ ∃ s' ∈ ss, s' ≠ s) := by
  cases hl : ss.getLast? with
  | none =>
      rw [List.getLast?_eq_none_iff.mp hl]
      exact ⟨fun _ h => (by cases h.1), fun _ => rfl⟩
  | some last =>
      by_cases he : last = s
      · rw [he, Option.getD_some, getLast?_filter_ne]
        exact ⟨fun h ⟨_, s', hs', hne⟩ => hne (h s' hs'),
          fun h s' hs' => by_contra fun hne => h ⟨rfl, s', hs', hne⟩⟩
      · obtain ⟨front, rfl⟩ := List.getLast?_eq_some_iff.mp hl
        rw [List.filter_append, List.filter_singleton, decide_eq_true he]
        simp [he]

/-- A code follows the rule unless the last value is its own text and another one is not. -/
theorem follows_iff {copy : Option Code} (hc : d.configure = .ok c)
    (h : c.bind values = .ok copy) :
    Binding.Follows CodeField.ofName? c.binding (boundValue values) c.bound
        (copy.getD c).bound ↔
      ¬ ((texts values c.binding).getLast? = some c.text ∧
        ∃ s ∈ texts values c.binding, s ≠ c.text) := by
  obtain ⟨bindings, ink, matrix, hb, -, hq⟩ := configure_ok hc
  have hbinding : c.binding = d.binding := by rw [hq]
  rw [← getLast?_filter_ne_iff, ← (bind_text hc h).1]
  rw [← hbinding] at hb
  have hlast := lastKey?_text values hb
  constructor
  · intro hf
    have hft := hf .text
    cases hk : Binding.lastKey? CodeField.ofName? c.binding .text with
    | none =>
        rw [hk] at hft hlast
        rw [← hlast]
        cases copy <;> exact BoundValue.text.inj hft
    | some key =>
        rw [hk] at hft hlast
        rw [← hlast]
        exact (BoundValue.text.inj (Except.ok.inj hft)).symm
  · intro ht field
    cases field
    cases hk : Binding.lastKey? CodeField.ofName? c.binding .text with
    | none =>
        rw [hk] at hlast
        rw [← hlast] at ht
        exact congrArg BoundValue.text ht
    | some key =>
        rw [hk] at hlast
        rw [← hlast] at ht
        exact congrArg (fun s => Except.ok (BoundValue.text s)) ht.symm

end Code

/-! ## The three kinds -/

/-- What a binding puts, for every request and plugins of each kind that have been configured and
that it binds.  Names stand in order, so that there is a last one.  A picture and a caption follow
the rule.  A code takes the last of the values that differ from its own text, and follows the rule
unless the last value is its own text and another one is not.  Whatever cannot be bound stays as
declared. -/
theorem bind_puts_last_entry (values : RequestValues) :
    (∀ v entries, Yaml.Reading.texts v = .ok entries → entries.Pairwise (·.1 < ·.1)) ∧
    (∀ (d p : Picture) source assets copy, d.configure source = .ok p →
      p.bind values assets = .ok copy →
      Binding.Follows PictureField.ofName? p.binding (Picture.boundValue values) p.bound
          (copy.getD p).bound ∧
        ∃ uri, (copy.getD p).toPictureFields = { p.toPictureFields with image := uri }) ∧
    (∀ (d c : Caption) source copy, d.configure source = .ok c →
      c.bind values = .ok copy →
      Binding.Follows CaptionField.ofName? c.binding (Caption.boundValue values) c.bound
          (copy.getD c).bound ∧
        ∃ text price promo decimal int,
          copy.getD c = c.withBindable text price promo decimal int) ∧
    (∀ (d c : Code) copy, d.configure = .ok c → c.bind values = .ok copy →
      let texts := Code.texts values c.binding
      (Binding.Follows CodeField.ofName? c.binding (Code.boundValue values) c.bound
          (copy.getD c).bound ↔
        ¬ (texts.getLast? = some c.text ∧ ∃ s ∈ texts, s ≠ c.text)) ∧
      (copy.getD c).text = ((texts.filter (· ≠ c.text)).getLast?).getD c.text ∧
      ∃ text, (copy.getD c).toCodeFields = { c.toCodeFields with text := text }) :=
  ⟨fun _ _ h => Yaml.Reading.texts_sorted h,
    fun _ _ _ _ _ hc h => Picture.bind_follows hc h,
    fun _ _ _ _ hc h => Caption.bind_follows hc h,
    fun _ _ _ hc h => ⟨Code.follows_iff hc h, Code.bind_text hc h⟩⟩

/-- A code whose text two entries name. -/
def twiceNamed : Code :=
  { binding := [("TEXT", "a"), ("text", "b")], text := "dummy", size := 0.5 }

/-- The last value is the text of the code, and the code takes the one before it. -/
theorem code_passes_over_last_entry :
    let values := RequestValues.ofList [("a", .text "other"), ("b", .text "dummy")]
    ∃ c copy, twiceNamed.configure = .ok c ∧ c.bind values = .ok copy ∧
      Binding.lastKey? CodeField.ofName? c.binding .text = some "b" ∧
      values.text "b" = "dummy" ∧ (copy.getD c).text = "other" ∧
      ¬ Binding.Follows CodeField.ofName? c.binding (Code.boundValue values) c.bound
        (copy.getD c).bound := by
  intro values
  have hc : (twiceNamed.configure.toOption.any fun c => (c.bind values).toOption.any fun copy =>
      decide (Binding.lastKey? CodeField.ofName? c.binding .text = some "b" ∧
        (copy.getD c).text = "other")) = true := by
    decide +kernel
  obtain ⟨c, hcode, hc⟩ := any_toOption.mp hc
  obtain ⟨copy, hcopy, hc⟩ := any_toOption.mp hc
  obtain ⟨hk, ht⟩ := of_decide_eq_true hc
  have hb : values.text "b" = "dummy" := by decide +kernel
  refine ⟨c, copy, hcode, hcopy, hk, hb, ht, ?_⟩
  intro hf
  have hft := hf .text
  rw [hk] at hft
  have heq : values.text "b" = (copy.getD c).text := BoundValue.text.inj (Except.ok.inj hft)
  rw [hb, ht] at heq
  exact absurd heq (by decide)

/-- With the values the other way round the code takes the last one. -/
theorem bind_puts_last_entry_of_code :
    let values := RequestValues.ofList [("a", .text "dummy"), ("b", .text "other")]
    ∃ c copy, twiceNamed.configure = .ok c ∧ c.bind values = .ok copy ∧
      Binding.Follows CodeField.ofName? c.binding (Code.boundValue values) c.bound
        (copy.getD c).bound ∧ (copy.getD c).text = "other" := by
  intro values
  have hc : (twiceNamed.configure.toOption.any fun c => (c.bind values).toOption.any fun _ =>
      decide (c.text = "dummy" ∧ Code.texts values c.binding = ["dummy", "other"])) = true := by
    decide +kernel
  obtain ⟨c, hcode, hc⟩ := any_toOption.mp hc
  obtain ⟨copy, hcopy, hc⟩ := any_toOption.mp hc
  obtain ⟨ht, hts⟩ := of_decide_eq_true hc
  obtain ⟨hiff, htext, -⟩ := (bind_puts_last_entry values).2.2.2 _ _ _ hcode hcopy
  refine ⟨c, copy, hcode, hcopy, hiff.mpr ?_, ?_⟩
  · rw [ht, hts]
    decide
  · rw [htext, ht, hts]
    decide

end Placard
