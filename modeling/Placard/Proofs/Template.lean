/-
# What comes of loading a template

A document that can be read says of a template its widths, a background and a list of entries.  Either
all of it is in order and the template has one configured plugin for each entry, or there is no
template and one fault is told.

| the fault | told where |
| :-- | :-- |
| no width | always |
| a width of zero | there is a width |
| a background that is neither blank nor a color | the widths are in order |
| an entry that cannot be read, or whose plugin cannot be configured | all of the above is in order |

The last row is the one that takes an argument.  An entry is read and its plugin is configured before
the next entry is looked at, so what counts is the first entry with a fault of either kind
(`loadPlugins_eq_error`), and not the first that cannot be read.  `Fault` is the table as a relation:
loading tells the faults in it and no others (`ofFields_eq_error`).
-/
import Placard.Proofs.Render.Outcome
import Placard.Proofs.Text.Trimmed

namespace Placard

namespace Plugin

variable {entry : Yaml.Mapping} {p q : Plugin} {assets : AssetSource}

theorem ofEntry_kind (h : ofEntry entry = .ok p) :
    ∃ tag, entry.get? "type" = some (.text tag) ∧ Text.lower tag = p.kind.name := by
  unfold ofEntry at h
  split at h
  · cases h
  · rename_i tag ht
    refine ⟨tag, ht, ?_⟩
    unfold ofTag at h
    dsimp only at h
    split at h
    · rename_i hl
      obtain ⟨_, -, rfl⟩ := map_eq_ok.mp h
      exact hl
    · rename_i hl
      obtain ⟨_, -, rfl⟩ := map_eq_ok.mp h
      exact hl
    · rename_i hl
      obtain ⟨_, -, rfl⟩ := map_eq_ok.mp h
      exact hl
    · cases h
  · cases h

theorem configure_kind (h : p.configure assets = .ok q) : q.kind = p.kind := by
  cases p with
  | image d =>
      obtain ⟨_, -, rfl⟩ := map_eq_ok.mp h
      rfl
  | text d =>
      obtain ⟨_, -, rfl⟩ := map_eq_ok.mp h
      rfl
  | qr d =>
      obtain ⟨_, -, rfl⟩ := map_eq_ok.mp h
      rfl

end Plugin

namespace Template

variable {assets : AssetSource} {index : Nat} {entry : Yaml.Mapping} {entries : List Yaml.Mapping}
  {p q : Plugin} {ps : List Plugin} {e : ConfigError} {f : TemplateFields} {t : Template}
  {name s : String}

/-! ## Entries -/

/-- The entry is read as a plugin, and `q` is that plugin configured. -/
def Loads (assets : AssetSource) (entry : Yaml.Mapping) (q : Plugin) : Prop :=
  ∃ p, Plugin.ofEntry entry = .ok p ∧ p.configure assets = .ok q

/-- The entry is read as a plugin that can be configured. -/
def Loadable (assets : AssetSource) (entry : Yaml.Mapping) : Prop := ∃ q, Loads assets entry q

/-- What is told of an entry that is at fault. -/
inductive EntryFault (assets : AssetSource) (index : Nat) (entry : Yaml.Mapping) : ConfigError → Prop
  /-- It cannot be read. -/
  | unread {e : ConfigError} (h : Plugin.ofEntry entry = .error e) :
      EntryFault assets index entry (.pluginEntry index e)
  /-- It is read, but its plugin cannot be configured. -/
  | unconfigured {p : Plugin} {e : ConfigError} (h : Plugin.ofEntry entry = .ok p)
      (hc : p.configure assets = .error e) : EntryFault assets index entry (.plugin index p.kind e)

theorem loadPlugin_eq_ok : loadPlugin assets index entry = .ok q ↔ Loads assets entry q := by
  unfold loadPlugin Loads
  cases hp : Plugin.ofEntry entry with
  | error e => simp
  | ok p =>
      cases hq : p.configure assets with
      | error e => simp [hq]
      | ok q' => simp [hq]

theorem loadPlugin_eq_error :
    loadPlugin assets index entry = .error e ↔ EntryFault assets index entry e := by
  unfold loadPlugin
  constructor
  · intro h
    split at h
    · rename_i hp
      cases h
      exact .unread hp
    · rename_i hp
      split at h
      · rename_i hc
        cases h
        exact .unconfigured hp hc
      · cases h
  · intro h
    cases h with
    | unread hp => simp only [hp]
    | unconfigured hp hc => simp only [hp, hc]

/-- An entry is loaded, or something can be told of it, and never both. -/
theorem not_loadable_iff : ¬ Loadable assets entry ↔ ∃ e, EntryFault assets index entry e := by
  have hloads : Loadable assets entry ↔ ∃ q, loadPlugin assets index entry = .ok q :=
    exists_congr fun _ => loadPlugin_eq_ok.symm
  simp only [hloads, ← loadPlugin_eq_error]
  cases loadPlugin assets index entry with
  | error e => simp
  | ok q => simp

theorem loadPlugins_eq_ok :
    loadPlugins assets index entries = .ok ps ↔ List.Forall₂ (Loads assets) entries ps := by
  induction entries generalizing index ps with
  | nil => simp [loadPlugins, eq_comm]
  | cons entry rest ih =>
      rw [loadPlugins, bind_eq_ok, List.forall₂_cons_left_iff]
      refine exists_congr fun q => ?_
      rw [loadPlugin_eq_ok, bind_eq_ok]
      constructor
      · rintro ⟨hq, qs, hqs, h⟩
        cases h
        exact ⟨qs, hq, ih.mp hqs, rfl⟩
      · rintro ⟨qs, hq, hqs, rfl⟩
        exact ⟨hq, qs, ih.mpr hqs, rfl⟩

theorem forall_loadable :
    (∀ entry ∈ entries, Loadable assets entry) ↔ ∃ ps, List.Forall₂ (Loads assets) entries ps := by
  induction entries with
  | nil => exact iff_of_true (fun _ h => absurd h List.not_mem_nil) ⟨[], .nil⟩
  | cons entry rest ih =>
      rw [List.forall_mem_cons, ih]
      constructor
      · rintro ⟨⟨q, hq⟩, ps, hps⟩
        exact ⟨q :: ps, .cons hq hps⟩
      · rintro ⟨ps, h⟩
        cases h with
        | cons hq hps => exact ⟨⟨_, hq⟩, _, hps⟩

/-- What stops the entries from being loaded is the fault of the first entry that has one. -/
theorem loadPlugins_eq_error : loadPlugins assets index entries = .error e ↔
    ∃ i entry, IsFirst (fun entry => ¬ Loadable assets entry) entries i entry ∧
      EntryFault assets (index + i) entry e := by
  induction entries generalizing index with
  | nil =>
      constructor
      · intro h
        cases h
      · rintro ⟨i, entry, ⟨hi, -⟩, -⟩
        cases hi
  | cons entry rest ih =>
      rw [loadPlugins, bind_eq_error]
      constructor
      · rintro (h | ⟨q, hq, h⟩)
        · have hfault := loadPlugin_eq_error.mp h
          exact ⟨0, entry, IsFirst.head (not_loadable_iff.mpr ⟨e, hfault⟩), hfault⟩
        · have hloads : Loadable assets entry := ⟨q, loadPlugin_eq_ok.mp hq⟩
          obtain h | ⟨ps, -, h⟩ := bind_eq_error.mp h
          · obtain ⟨i, entry', hfirst, he⟩ := ih.mp h
            exact ⟨i + 1, entry', hfirst.tail (not_not_intro hloads),
              by rwa [Nat.add_assoc, Nat.add_comm 1 i] at he⟩
          · cases h
      · rintro ⟨i, entry', ⟨hi, hn, hbefore⟩, he⟩
        cases i with
        | zero =>
            cases hi
            exact .inl (loadPlugin_eq_error.mpr he)
        | succ i =>
            obtain ⟨q, hq⟩ := not_not.mp (hbefore 0 entry (Nat.succ_pos i) rfl)
            have hfirst : IsFirst (fun entry => ¬ Loadable assets entry) rest i entry' :=
              ⟨hi, hn, fun j b hj hb => hbefore (j + 1) b (Nat.succ_lt_succ hj) hb⟩
            have hrest : loadPlugins assets (index + 1) rest = .error e :=
              ih.mpr ⟨i, entry', hfirst, by rwa [Nat.add_assoc, Nat.add_comm 1 i]⟩
            exact .inr ⟨q, loadPlugin_eq_ok.mpr hq, bind_eq_error.mpr (.inl hrest)⟩

/-! ## Backgrounds -/

/-- The text is blank or writes a color. -/
def IsBackground (s : String) : Prop :=
  (∀ c ∈ s.toList, Text.isBlank c = true) ∨ ∃ color, Rgba.parse? (Text.trim s) = some color

theorem backgroundOf_eq_ok : (∃ background, backgroundOf s = .ok background) ↔ IsBackground s := by
  unfold backgroundOf IsBackground Rgba.parse
  rw [← Text.trim_isEmpty]
  by_cases hs : (Text.trim s).isEmpty = true
  · exact iff_of_true ⟨none, if_pos hs⟩ (Or.inl hs)
  · rw [or_iff_right hs, if_neg hs]
    cases Rgba.parse? (Text.trim s) with
    | none => exact iff_of_false (fun ⟨_, h⟩ => by cases h) fun ⟨_, h⟩ => by cases h
    | some color => exact iff_of_true ⟨some color, rfl⟩ ⟨color, rfl⟩

theorem backgroundOf_eq_error :
    backgroundOf s = .error e ↔ ¬ IsBackground s ∧ e = .invalidColor (Text.trim s) := by
  rw [← backgroundOf_eq_ok]
  unfold backgroundOf Rgba.parse
  by_cases hs : (Text.trim s).isEmpty = true
  · simp only [if_pos hs]
    exact iff_of_false (fun h => by cases h) fun h => h.1 ⟨none, rfl⟩
  · simp only [if_neg hs]
    cases Rgba.parse? (Text.trim s) with
    | none =>
        refine ⟨fun h => ?_, fun ⟨_, h⟩ => by rw [h]; rfl⟩
        cases h
        refine ⟨?_, rfl⟩
        rintro ⟨background, hb⟩
        cases hb
    | some color =>
        exact iff_of_false (fun h => by cases h) fun h => h.1 ⟨some color, rfl⟩

/-! ## The whole document -/

/-- Everything that a document says of a template is in order. -/
structure InOrder (assets : AssetSource) (f : TemplateFields) : Prop where
  widths : f.widths ≠ []
  positive : 0 ∉ f.widths
  background : IsBackground f.background
  plugins : ∀ entry ∈ f.plugins, Loadable assets entry

/-- What is told of a document in which something is not in order; what comes before is. -/
inductive Fault (assets : AssetSource) (f : TemplateFields) : ConfigError → Prop
  | noWidths (h : f.widths = []) : Fault assets f (.missingField "allWidths")
  | zeroWidth (h : 0 ∈ f.widths) :
      Fault assets f (.invalidField "allWidths" "widths must be positive")
  | color (hw : f.widths ≠ []) (h₀ : 0 ∉ f.widths) (h : ¬ IsBackground f.background) :
      Fault assets f (.invalidColor (Text.trim f.background))
  /-- Entry number `i` is the first one at fault. -/
  | entry (hw : f.widths ≠ []) (h₀ : 0 ∉ f.widths) (hb : IsBackground f.background) {i : Nat}
      {entry : Yaml.Mapping} {e : ConfigError}
      (hfirst : IsFirst (fun entry => ¬ Loadable assets entry) f.plugins i entry)
      (h : EntryFault assets i entry e) : Fault assets f e

/-- A template comes of a document if its parts do. -/
theorem ofFields_eq_ok : ofFields name f assets = .ok t ↔
    ∃ first others background plugins, f.widths = first :: others ∧ 0 ∉ f.widths ∧
      backgroundOf f.background = .ok background ∧
      List.Forall₂ (Loads assets) f.plugins plugins ∧
      t = { name := name, defaultWidth := first, otherWidths := others
            ratio := if 0 < f.ratio then f.ratio else 1
            background := background, plugins := plugins } := by
  unfold ofFields
  split
  · rename_i hw
    simp [hw]
  · rename_i first others hw
    by_cases h₀ : 0 ∈ f.widths
    · simp only [if_pos h₀]
      constructor
      · intro h
        cases h
      · rintro ⟨_, _, _, _, -, hn, -⟩
        exact absurd h₀ hn
    · simp only [if_neg h₀]
      constructor
      · intro h
        obtain ⟨background, hb, h⟩ := bind_eq_ok.mp h
        obtain ⟨plugins, hp, h⟩ := bind_eq_ok.mp h
        cases h
        exact ⟨first, others, background, plugins, hw, h₀, hb, loadPlugins_eq_ok.mp hp, rfl⟩
      · rintro ⟨first', others', background, plugins, he, -, hb, hp, rfl⟩
        cases hw.symm.trans he
        exact bind_eq_ok.mpr ⟨background, hb, bind_eq_ok.mpr ⟨plugins, loadPlugins_eq_ok.mpr hp, rfl⟩⟩

theorem ofFields_eq_error : ofFields name f assets = .error e ↔ Fault assets f e := by
  unfold ofFields
  split
  · rename_i hw
    constructor
    · intro h
      cases h
      exact .noWidths hw
    · intro h
      cases h with
      | noWidths => rfl
      | zeroWidth h₀ => rw [hw] at h₀; cases h₀
      | color hw' => exact absurd hw hw'
      | entry hw' => exact absurd hw hw'
  · rename_i first others hw
    have hne : f.widths ≠ [] := by rw [hw]; exact List.cons_ne_nil _ _
    by_cases h₀ : 0 ∈ f.widths
    · simp only [if_pos h₀]
      constructor
      · intro h
        cases h
        exact .zeroWidth h₀
      · intro h
        cases h with
        | noWidths h => exact absurd h hne
        | zeroWidth => rfl
        | color _ hn => exact absurd h₀ hn
        | entry _ hn => exact absurd h₀ hn
    · simp only [if_neg h₀]
      rw [bind_eq_error]
      constructor
      · rintro (hb | ⟨background, hb, h⟩)
        · obtain ⟨hcolor, rfl⟩ := backgroundOf_eq_error.mp hb
          exact .color hne h₀ hcolor
        · obtain hp | ⟨plugins, -, h⟩ := bind_eq_error.mp h
          · obtain ⟨i, entry, hfirst, he⟩ := loadPlugins_eq_error.mp hp
            rw [Nat.zero_add] at he
            exact .entry hne h₀ (backgroundOf_eq_ok.mp ⟨background, hb⟩) hfirst he
          · cases h
      · intro h
        cases h with
        | noWidths h => exact absurd h hne
        | zeroWidth h => exact absurd h h₀
        | color _ _ hcolor => exact .inl (backgroundOf_eq_error.mpr ⟨hcolor, rfl⟩)
        | @entry _ _ hcolor i entry e hfirst he =>
            obtain ⟨background, hb⟩ := backgroundOf_eq_ok.mpr hcolor
            have hp : loadPlugins assets 0 f.plugins = .error e :=
              loadPlugins_eq_error.mpr ⟨i, entry, hfirst, by rwa [Nat.zero_add]⟩
            exact .inr ⟨background, hb, bind_eq_error.mpr (.inl hp)⟩

/-- There is a template just if everything in the document is in order. -/
theorem exists_ofFields_iff : (∃ t, ofFields name f assets = .ok t) ↔ InOrder assets f := by
  constructor
  · rintro ⟨t, h⟩
    obtain ⟨first, others, background, plugins, hw, h₀, hb, hp, -⟩ := ofFields_eq_ok.mp h
    exact {
      widths := by
        rw [hw]
        exact List.cons_ne_nil _ _
      positive := h₀
      background := backgroundOf_eq_ok.mp ⟨background, hb⟩
      plugins := forall_loadable.mpr ⟨plugins, hp⟩ }
  · intro h
    obtain ⟨first, others, hw⟩ := List.exists_cons_of_ne_nil h.widths
    obtain ⟨background, hb⟩ := backgroundOf_eq_ok.mpr h.background
    obtain ⟨plugins, hp⟩ := forall_loadable.mp h.plugins
    exact ⟨_, ofFields_eq_ok.mpr ⟨first, others, background, plugins, hw, h.positive, hb, hp, rfl⟩⟩

theorem Loads.kind (h : Loads assets entry q) :
    ∃ tag, entry.get? "type" = some (.text tag) ∧ Text.lower tag = q.kind.name := by
  obtain ⟨p, hp, hq⟩ := h
  rw [Plugin.configure_kind hq]
  exact Plugin.ofEntry_kind hp

theorem load_of_fields {content : Payload} {document : Yaml.Mapping}
    (hd : Yaml.Mapping.read content = .ok document) (hf : readFields document = .ok f) :
    load name content assets = ofFields name f assets := by
  unfold load
  rw [hd]
  change (readFields document >>= fun f => ofFields name f assets) = _
  rw [hf]
  rfl

/-- All of a template is loaded or none of it, and the first fault is told.  Let `f` be what a
document says.  It makes a template just if there are widths, none of them zero, the background is
blank or a color, and every entry can be read and its plugin be configured.  The template then has
these widths and one plugin for each entry, in their order: the one read from the entry, configured,
and of the kind that the entry names.  Otherwise what is told is the first of: that there are no
widths, that there is a width of zero, that the background is no color, and the fault of the first
entry that has one, whichever of the two it is. -/
theorem load_reports_first_fault {content : Payload} {document : Yaml.Mapping}
    (hd : Yaml.Mapping.read content = .ok document) (hf : readFields document = .ok f) :
    ((∃ t, load name content assets = .ok t) ↔ InOrder assets f) ∧
    (∀ t, load name content assets = .ok t →
      t.widths = f.widths ∧
      List.Forall₂ (fun entry q => Loads assets entry q ∧
        ∃ tag, entry.get? "type" = some (.text tag) ∧ Text.lower tag = q.kind.name)
        f.plugins t.plugins) ∧
    ∀ e, load name content assets = .error e ↔ Fault assets f e := by
  rw [load_of_fields hd hf]
  refine ⟨exists_ofFields_iff, fun t h => ?_, fun e => ofFields_eq_error⟩
  obtain ⟨first, others, background, plugins, hw, -, -, hp, rfl⟩ := ofFields_eq_ok.mp h
  exact ⟨hw.symm, hp.imp fun _ _ hq => ⟨hq, hq.kind⟩⟩

/-- A card whose second entry is a code wider than the canvas and whose third entry is of no kind:
told is that the code cannot be configured, and not that the third entry cannot be read. -/
theorem load_reports_first_fault_of_card :
    let source : AssetSource := .ofPictures [("a", .filled 2 1 .white)]
    let card : Payload := .ofText <|
      "allWidths: [8]\nplugins:\n- \x7btype: image, image: a\x7d\n" ++
      "- \x7btype: qr, size: 2\x7d\n- \x7btype: film\x7d\n"
    ∃ document f e, Yaml.Mapping.read card = .ok document ∧ readFields document = .ok f ∧
      load "card" card source = .error (.plugin 1 .qr e) ∧
      Fault source f (.plugin 1 .qr e) ∧ ¬ InOrder source f ∧
      ∃ last, f.plugins[2]? = some last ∧ (Plugin.ofEntry last).isOk = false := by
  intro source card
  have hread : ((Yaml.Mapping.read card).toOption.any fun document =>
      (readFields document).toOption.any fun f =>
        (f.plugins[2]?.any fun last => !(Plugin.ofEntry last).isOk) &&
          match ofFields "card" f source with
          | .error (.plugin 1 .qr _) => true
          | _ => false) = true := by
    rw [Yaml.Mapping.read_toOption (show card = .ofText _ from rfl)]
    simp only [String.toList_append]
    repeat rw [String.toList_ofList]
    decide +kernel
  obtain ⟨document, hd, hread⟩ := any_toOption.mp hread
  obtain ⟨f, hf, hread⟩ := any_toOption.mp hread
  obtain ⟨hlast, hload⟩ := (Bool.and_eq_true _ _).mp hread
  obtain ⟨last, hlast, hunread⟩ := (Option.any_eq_true _ _).mp hlast
  rw [← load_of_fields hd hf] at hload
  split at hload
  · rename_i e he
    obtain ⟨hloads, -, hfault⟩ := @load_reports_first_fault source f "card" card document hd hf
    refine ⟨document, f, e, hd, hf, he, (hfault _).mp he, fun hin => ?_, last, hlast, ?_⟩
    · obtain ⟨t, ht⟩ := hloads.mpr hin
      cases he.symm.trans ht
    · simpa using hunread
  · cases hload

end Template
end Placard
