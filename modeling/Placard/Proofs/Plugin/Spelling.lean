/-
# The spelling of a plugin

An entry of a document is read in two steps.  Its kind is taken from the key `type`, and the plugin
from what remains, brought to its normal form.  So letter case and underscores do not matter in the
names of the fields, but they do in the one name that is looked up before there is a normal form.

| two entries that are the same but for the spelling of their keys | |
| :-- | :-- |
| both have the key `type`, or neither has | they have one outcome, be it a plugin or an error |
| one has it, and the other a spelling of it | the other is told that the field `type` is missing |

Nothing else is told in these words (`ofEntry_eq_missing_iff`), so the outcomes of the second row are
never one (`ofEntry_respelled`).
-/
import Placard.Plugin.Basic
import Placard.Proofs.Yaml.Keys
import Placard.Proofs.Yaml.Unread

namespace Placard
open Yaml

/-! ## Fields -/

theorem Picture.fields_hasNoSigma : ∀ field ∈ Picture.fields, HasNoSigma field.name := by decide

theorem Caption.fields_hasNoSigma : ∀ field ∈ Caption.fields, HasNoSigma field.name := by decide

theorem Code.fields_hasNoSigma : ∀ field ∈ Code.fields, HasNoSigma field.name := by decide

theorem Picture.rectFields_complain : ∀ field ∈ rectFields, field.Complains := by
  simp only [rectFields, List.forall_mem_cons]
  refine ⟨?_, ?_, ?_, ?_, List.forall_mem_nil _⟩
  all_goals exact .of fun _ => Reading.real_complains

theorem Picture.fields_complain : ∀ field ∈ fields, field.Complains := by
  simp only [fields, List.forall_mem_cons]
  refine ⟨?binding, ?image, ?imgtype, ?width, ?height, ?x, ?y, ?rect, ?mode, ?halign, ?valign,
    List.forall_mem_nil _⟩
  case binding => exact .of fun _ => Reading.texts_complains
  case rect => exact .of fun _ => Reading.record_complains rectFields_complain
  case image | imgtype => exact .of fun _ => Reading.text_complains
  case width | height | x | y => exact .of fun _ => Reading.whole_complains.map
  case mode | halign | valign => exact .of fun _ => Reading.choice_complains

theorem Caption.fields_complain : ∀ field ∈ fields, field.Complains := by
  simp only [fields, List.forall_mem_cons]
  refine ⟨?binding, ?text, ?price, ?promotionprice, ?decimalprice, ?intprice, ?x, ?y, ?color,
    ?fonturi, ?fontsize, ?strikefull, ?drawwrapped, ?isdec, ?isint, ?linespacing, ?textwidth,
    ?maxcharacter, ?locale, ?currency, List.forall_mem_nil _⟩
  case binding => exact .of fun _ => Reading.texts_complains
  case text | color | fonturi => exact .of fun _ => Reading.text_complains
  case price | promotionprice | decimalprice | intprice | maxcharacter =>
    exact .of fun _ => Reading.whole_complains.map
  case x | y | fontsize | linespacing | textwidth => exact .of fun _ => Reading.real_complains
  case strikefull | drawwrapped | isdec | isint => exact .of fun _ => Reading.flag_complains
  case locale => exact .of fun _ => Reading.choice_complains
  case currency =>
    exact .of fun _ => Reading.optional_complains fun _ => Reading.text_complains

theorem Code.level_complains {v : Value} : Complains (level v) := by
  have hdetail {x : Except String Recovery} :
      Complains (x.mapError fun detail => .parse (some detail)) := by
    intro e h
    cases x with
    | error detail => exact ⟨some detail, (Except.error.inj h).symm⟩
    | ok recovery => cases h
  unfold level
  split
  · exact hdetail
  · split
    · exact hdetail
    · exact complains_unreadable
  · exact complains_unreadable

theorem Code.pointFields_complain : ∀ field ∈ pointFields, field.Complains := by
  simp only [pointFields, List.forall_mem_cons]
  refine ⟨?_, ?_, List.forall_mem_nil _⟩
  all_goals exact .of fun _ => Reading.real_complains

theorem Code.fields_complain : ∀ field ∈ fields, field.Complains := by
  simp only [fields, List.forall_mem_cons]
  refine ⟨?binding, ?text, ?color, ?recovery, ?anchor, ?size, List.forall_mem_nil _⟩
  case binding => exact .of fun _ => Reading.texts_complains
  case text | color => exact .of fun _ => Reading.text_complains
  case recovery => exact .of fun _ => level_complains
  case anchor => exact .of fun _ => Reading.record_complains pointFields_complain
  case size => exact .of fun _ => Reading.real_complains

/-! ## Entries -/

namespace Plugin

variable {m m' : Mapping} {tag : String}

/-- Of a plugin that cannot be read, it is told that its kind is unknown or that its fields cannot
be read. -/
theorem ofTag_eq_error {e : ConfigError} (h : ofTag tag m = .error e) :
    e = .unknownPluginType tag ∨ ∃ detail, e = .parse detail := by
  unfold ofTag at h
  dsimp only at h
  split at h
  · exact .inr ((Reading.record_complains Picture.fields_complain).map.map e h)
  · exact .inr ((Reading.record_complains Caption.fields_complain).map.map e h)
  · exact .inr ((Reading.record_complains Code.fields_complain).map.map e h)
  · exact .inl (Except.error.inj h).symm

theorem ofTag_respelled (h : Respelled m m') (ht : KeepsTagged m m') :
    ofTag tag m = ofTag tag m' := by
  unfold ofTag Picture.reading Caption.reading Code.reading
  dsimp only
  rw [record_normalized Picture.fields_hasNoSigma h ht,
    record_normalized Caption.fields_hasNoSigma h ht, record_normalized Code.fields_hasNoSigma h ht]

/-- The entry names its kind under the key `type`, letter for letter. -/
def NamesKind (entry : Mapping) : Prop := .text "type" ∈ entry.map Prod.fst

/-- An entry is told that it lacks its kind just if it does not name it letter for letter. -/
theorem ofEntry_eq_missing_iff :
    ofEntry m = .error (.missingField "type") ↔ ¬ NamesKind m := by
  unfold NamesKind
  rw [← get?_eq_none_iff]
  unfold ofEntry
  constructor
  · intro h
    split at h
    · assumption
    · obtain h | ⟨detail, h⟩ := ofTag_eq_error h
      · cases h
      · cases h
    · cases h
  · intro h
    rw [h]

theorem ofEntry_eq_of_namesKind (h : Respelled m m') (hapart : NamesApart m)
    (ht : KeepsTagged m m') (hm : NamesKind m) (hm' : NamesKind m') : ofEntry m = ofEntry m' := by
  obtain ⟨hplace, hvalue⟩ := place_respelled (by decide) (by decide) h hapart hm hm'
  unfold ofEntry
  rw [hvalue]
  split
  · rfl
  · exact ofTag_respelled (forall₂_erase h hplace) (forall₂_erase ht hplace)
  · rfl

/-- Entries that are the same but for the spelling of their keys have one outcome just if both name
their kind letter for letter or neither does; the one that does not is told so. -/
theorem ofEntry_respelled (h : Respelled m m') (hapart : NamesApart m) (ht : KeepsTagged m m') :
    (ofEntry m = ofEntry m' ↔ (NamesKind m ↔ NamesKind m')) ∧
      (¬ NamesKind m → ofEntry m = .error (.missingField "type")) ∧
      (¬ NamesKind m' → ofEntry m' = .error (.missingField "type")) := by
  refine ⟨⟨?same, ?eq⟩, ofEntry_eq_missing_iff.mpr, ofEntry_eq_missing_iff.mpr⟩
  case same =>
    intro heq
    rw [← not_iff_not, ← ofEntry_eq_missing_iff, ← ofEntry_eq_missing_iff, heq]
  case eq =>
    intro hsame
    by_cases hm : NamesKind m
    · exact ofEntry_eq_of_namesKind h hapart ht hm (hsame.mp hm)
    · rw [ofEntry_eq_missing_iff.mpr hm, ofEntry_eq_missing_iff.mpr (mt hsame.mpr hm)]

theorem ofEntry_respelled_font :
    let m : Mapping := [(.text "type", .text "Text"), (.text "fontUri", .text "a"),
      (.text "font_size", .number (.whole 12))]
    let m' : Mapping := [(.text "type", .text "Text"), (.text "FONT_URI", .text "a"),
      (.text "fontSize", .number (.whole 12))]
    (Respelled m m' ∧ NamesApart m ∧ KeepsTagged m m') ∧ (ofEntry m).isOk = true ∧
      ofEntry m = ofEntry m' := by
  intro m m'
  have h : Respelled m m' :=
    .cons ⟨.kept _, rfl⟩ (.cons ⟨.text (by decide), rfl⟩ (.cons ⟨.text (by decide), rfl⟩ .nil))
  have hapart : NamesApart m := by decide
  have ht : KeepsTagged m m' := by simp [m, m', KeepsTagged]
  have hkind : NamesKind m ↔ NamesKind m' := ⟨fun _ => .head _, fun _ => .head _⟩
  exact ⟨⟨h, hapart, ht⟩, rfl, (ofEntry_respelled h hapart ht).1.mpr hkind⟩

/-- The key `type` in another spelling is no longer found, and a name below a tag no longer names its
field. -/
theorem ofEntry_respelled_kind :
    let plain (key : String) : Mapping := [(.text key, .text "qr"), (.text "text", .text "hello")]
    let tagged (key : String) : Mapping :=
      [(.text "type", .text "text"), (.tagged "x" (.text key), .text "red")]
    (Respelled (plain "type") (plain "Type") ∧ NamesApart (plain "type") ∧
      NamesApart (plain "Type") ∧ (ofEntry (plain "type")).isOk = true ∧
      ofEntry (plain "Type") = .error (.missingField "type")) ∧
    (Respelled (tagged "color") (tagged "Color") ∧ NamesApart (tagged "color") ∧
      NamesApart (tagged "Color") ∧ ofEntry (tagged "color") ≠ ofEntry (tagged "Color")) := by
  intro plain tagged
  have hplain : Respelled (plain "type") (plain "Type") :=
    .cons ⟨.text (by decide), rfl⟩ (.cons ⟨.kept _, rfl⟩ .nil)
  have htagged : Respelled (tagged "color") (tagged "Color") :=
    .cons ⟨.kept _, rfl⟩ (.cons ⟨.tagged "x" (.text (by decide)), rfl⟩ .nil)
  have hcolor : ofEntry (tagged "color") ≠ ofEntry (tagged "Color") := by
    intro heq
    have hred := congrArg (fun outcome => outcome.toOption.any fun p => match p with
      | .text c => c.color = "red"
      | _ => false) heq
    cases hred
  exact ⟨⟨hplain, by decide, by decide, rfl, rfl⟩, htagged, by decide, by decide, hcolor⟩

end Plugin
end Placard
