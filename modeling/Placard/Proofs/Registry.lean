/-
# Documents do not get in each other's way

A folder is loaded document by document, and one that cannot be loaded is passed over.  So what is
registered under a name afterwards depends on the document of that name alone, if no two documents
have the same name.

| a name | afterwards it has |
| :-- | :-- |
| of a document that can be loaded | what is loaded from it |
| of a document that cannot | what it had before |
| of no document | what it had before |

The second row is the one that matters while a service runs: a document that has been broken since
does not take away what was registered under its name.
-/
import Mathlib.Data.List.Nodup
import Placard.Proofs.Render.History
import Placard.Proofs.Sorted
import Placard.Registry

namespace Placard

/-- A kind of things that are loaded from documents, each with the name of its document. -/
structure Family (α : Type) where
  load : Registry.Loader α
  name : α → String
  name_of_load : ∀ {n content assets thing}, load n content assets = .ok thing → name thing = n

def Template.family : Family Template := ⟨load, name, fun h => (load_ok h).1⟩

def PriceFrame.family : Family PriceFrame := ⟨load, name, fun h => (load_ok h).1⟩

namespace Registry

variable {α : Type} {r : Registry α} {load : Loader α} {assets : AssetSource}
  {documents : List (String × Payload)} {things : List (String × α)} {name : String} {thing : α}

/-! ## Inserting -/

theorem get?_insert {key : String} :
    (r.insert key thing).get? name = if name = key then some thing else r.get? name :=
  Text.lookup_putSorted

theorem mem_names_insert {key : String} :
    name ∈ (r.insert key thing).names ↔ name = key ∨ name ∈ r.names :=
  Text.mem_keys_putSorted

theorem names_sorted (r : Registry α) : r.names.Pairwise (· < ·) := List.pairwise_map.mpr r.sorted

/-- Registers some things, in the order of the list. -/
def insertAll (r : Registry α) (things : List (String × α)) : Registry α :=
  things.foldl (fun r e => r.insert e.1 e.2) r

theorem insertAll_cons {e : String × α} :
    r.insertAll (e :: things) = (r.insert e.1 e.2).insertAll things := rfl

theorem get?_insertAll_of_notMem (h : name ∉ things.map Prod.fst) :
    (r.insertAll things).get? name = r.get? name := by
  induction things generalizing r with
  | nil => rfl
  | cons e things ih =>
      rw [List.map_cons, List.mem_cons, not_or] at h
      rw [insertAll_cons, ih h.2, get?_insert, if_neg h.1]

theorem get?_insertAll (hn : (things.map Prod.fst).Nodup) (h : (name, thing) ∈ things) :
    (r.insertAll things).get? name = some thing := by
  induction things generalizing r with
  | nil => exact absurd h List.not_mem_nil
  | cons e things ih =>
      rw [List.map_cons, List.nodup_cons] at hn
      rw [insertAll_cons]
      rcases List.mem_cons.mp h with rfl | h
      · rw [get?_insertAll_of_notMem hn.1, get?_insert, if_pos rfl]
      · exact ih hn.2 h

theorem mem_names_insertAll :
    name ∈ (r.insertAll things).names ↔ name ∈ r.names ∨ name ∈ things.map Prod.fst := by
  induction things generalizing r with
  | nil => exact (or_iff_left List.not_mem_nil).symm
  | cons e things ih =>
      rw [insertAll_cons, ih, mem_names_insert, List.map_cons, List.mem_cons, or_assoc,
        or_left_comm]

/-! ## Loading -/

/-- What is loaded from a document, with its name. -/
def loaded? (load : Loader α) (assets : AssetSource) (document : String × Payload) :
    Option (String × α) :=
  (load document.1 document.2 assets).toOption.map fun thing => (document.1, thing)

theorem loaded?_eq_some {document : String × Payload} :
    loaded? load assets document = some (name, thing) ↔
      document.1 = name ∧ load name document.2 assets = .ok thing := by
  obtain ⟨n, content⟩ := document
  unfold loaded?
  dsimp only
  constructor
  · intro h
    obtain ⟨t, ht, he⟩ := Option.map_eq_some_iff.mp h
    cases he
    cases hl : load name content assets with
    | ok t' =>
        rw [hl] at ht
        cases ht
        exact ⟨rfl, rfl⟩
    | error e =>
        rw [hl] at ht
        cases ht
  · rintro ⟨rfl, hl⟩
    rw [hl]
    rfl

/-- Loading documents is inserting what can be loaded of them, and counting it. -/
theorem loadAll_eq : loadAll load assets documents r =
    ((documents.filterMap (loaded? load assets)).length,
      r.insertAll (documents.filterMap (loaded? load assets))) := by
  induction documents generalizing r with
  | nil => rfl
  | cons document rest ih =>
      obtain ⟨n, content⟩ := document
      cases hl : load n content assets with
      | ok thing =>
          have he : loaded? load assets (n, content) = some (n, thing) :=
            loaded?_eq_some.mpr ⟨rfl, hl⟩
          rw [loadAll, hl, List.filterMap_cons_some he, insertAll_cons]
          dsimp only
          rw [ih]
          rfl
      | error e =>
          have he : loaded? load assets (n, content) = none := by
            unfold loaded?
            rw [hl]
            rfl
          rw [loadAll, hl, List.filterMap_cons_none he]
          exact ih

/-- The names of what is loaded are names of documents, and so are met once each. -/
theorem entries_nodup (h : (documents.map Prod.fst).Nodup) :
    ((documents.filterMap (loaded? load assets)).map Prod.fst).Nodup := by
  refine List.pairwise_map.mpr ((List.pairwise_map.mp h).filterMap _ ?_)
  rintro a b hne ⟨n, t⟩ ha ⟨n', t'⟩ hb heq
  cases heq
  exact hne ((loaded?_eq_some.mp ha).1.trans (loaded?_eq_some.mp hb).1.symm)

theorem mem_entries : (name, thing) ∈ documents.filterMap (loaded? load assets) ↔
    ∃ content, (name, content) ∈ documents ∧ load name content assets = .ok thing := by
  rw [List.mem_filterMap]
  constructor
  · rintro ⟨⟨n, content⟩, hm, he⟩
    obtain ⟨rfl, hl⟩ := loaded?_eq_some.mp he
    exact ⟨content, hm, hl⟩
  · rintro ⟨content, hm, hl⟩
    exact ⟨_, hm, loaded?_eq_some.mpr ⟨rfl, hl⟩⟩

theorem mem_entries_names : name ∈ (documents.filterMap (loaded? load assets)).map Prod.fst ↔
    ∃ content thing, (name, content) ∈ documents ∧ load name content assets = .ok thing := by
  rw [List.mem_map]
  constructor
  · rintro ⟨⟨n, thing⟩, hm, rfl⟩
    obtain ⟨content, h⟩ := mem_entries.mp hm
    exact ⟨content, thing, h⟩
  · rintro ⟨content, thing, h⟩
    exact ⟨(name, thing), mem_entries.mpr ⟨content, h⟩, rfl⟩

theorem loadAll_count : (loadAll load assets documents r).1 =
    documents.countP fun d => (load d.1 d.2 assets).isOk := by
  rw [loadAll_eq, List.length_filterMap_eq_countP]
  refine List.countP_congr fun d _ => ?_
  unfold loaded?
  cases load d.1 d.2 assets <;> simp [Except.toOption, Except.isOk, Except.toBool]

/-- A name of no document that can be loaded has what it had before. -/
theorem get?_loadAll_of_passed
    (h : ∀ content thing, (name, content) ∈ documents → load name content assets ≠ .ok thing) :
    (loadAll load assets documents r).2.get? name = r.get? name := by
  rw [loadAll_eq]
  refine get?_insertAll_of_notMem fun hm => ?_
  obtain ⟨content, thing, hd, hl⟩ := mem_entries_names.mp hm
  exact h content thing hd hl

/-- The name of a document has what is loaded from it, or else what it had before. -/
theorem get?_loadAll {content : Payload} (hn : (documents.map Prod.fst).Nodup)
    (hd : (name, content) ∈ documents) :
    (loadAll load assets documents r).2.get? name =
      (load name content assets).toOption.or (r.get? name) := by
  cases hl : load name content assets with
  | ok thing =>
      rw [loadAll_eq]
      exact get?_insertAll (entries_nodup hn) (mem_entries.mpr ⟨content, hd, hl⟩)
  | error e =>
      refine get?_loadAll_of_passed fun content' thing hd' hl' => ?_
      cases List.inj_on_of_nodup_map hn hd hd' rfl
      cases hl.symm.trans hl'

/-- Loading a folder whose documents have different names, into any registry and of either family.

It counts the documents that can be loaded.  A name of such a document has afterwards what is loaded
from it, and every other name has what it had before, also that of a document which cannot be loaded.
The names are those from before and those of the documents that can be loaded, in order.  So what a
document comes to is the same beside any other documents and in any order of them. -/
theorem loadFolder_isolated (F : Family α) {folder : String}
    (hl : assets.listYaml folder = .ok documents) (hn : (documents.map Prod.fst).Nodup)
    (r : Registry α) :
    ∃ r', r.loadFolder F.load assets folder =
        .ok (documents.countP fun d => (F.load d.1 d.2 assets).isOk, r') ∧
      (∀ name content thing, (name, content) ∈ documents →
        F.load name content assets = .ok thing →
        r'.get? name = some thing ∧ F.name thing = name) ∧
      (∀ name, (∀ content thing, (name, content) ∈ documents →
          F.load name content assets ≠ .ok thing) → r'.get? name = r.get? name) ∧
      (∀ name, name ∈ r'.names ↔ name ∈ r.names ∨
        ∃ content thing, (name, content) ∈ documents ∧ F.load name content assets = .ok thing) ∧
      r'.names.Pairwise (· < ·) ∧
      (∀ others name content, (others.map Prod.fst).Nodup → (name, content) ∈ documents →
        (name, content) ∈ others →
        (loadAll F.load assets others r).2.get? name = r'.get? name) := by
  refine ⟨(loadAll F.load assets documents r).2, ?_, fun name content thing hd ht => ⟨?_, ?_⟩,
    fun name h => get?_loadAll_of_passed h, fun name => ?_, names_sorted _, ?_⟩
  · rw [loadFolder, hl, ← loadAll_count (r := r)]
  · rw [get?_loadAll hn hd, ht]
    rfl
  · exact F.name_of_load ht
  · rw [loadAll_eq]
    exact mem_names_insertAll.trans (or_congr_right mem_entries_names)
  · intro others name content ho hd hd'
    rw [get?_loadAll ho hd', get?_loadAll hn hd]

/-- A folder with a document that is no text and one that is a template.  The names of both are
taken: the first one's keeps what it had, and the second one's is replaced. -/
theorem loadFolder_isolated_of_broken :
    let good : Payload := .ofText "allWidths: [8]\n"
    let broken : Payload := .picture ⟨.png, .filled 1 1 .white⟩
    let source : AssetSource := { AssetSource.ofPictures [] with
      bundle := ⟨[(["docs", "broken.yaml"], broken), (["docs", "good.yaml"], good)], []⟩ }
    let old : Template := ⟨"old", 1, [], 1, none, []⟩
    let r : Registry Template := ⟨[("broken", old), ("good", old)], by decide⟩
    ∃ t r', Template.load "good" good source = .ok t ∧
      r.loadFolder Template.load source "docs" = .ok (1, r') ∧
      r'.get? "broken" = some old ∧ r'.get? "good" = some t ∧ r'.names.Pairwise (· < ·) := by
  intro good broken source old r
  have hl : source.listYaml "docs" = .ok [("broken", broken), ("good", good)] := by
    have hb : source.listBundled "docs" = .ok [("broken", broken), ("good", good)] := by
      unfold AssetSource.listBundled
      rw [show Path.plain? _ = some ["docs"] by decide +kernel]
      rfl
    unfold AssetSource.listYaml
    rw [show source.folderOnDisk? "docs" = none by decide +kernel]
    show source.listBundled "docs" >>= _ = _
    rw [hb]
    exact congrArg Except.ok (List.mergeSort_of_pairwise (by decide))
  have ht : ((Template.load "good" good source).toOption.any fun _ => true) = true := by
    rw [Template.any_load (show good = .ofText _ from rfl), String.toList_ofList]
    decide +kernel
  obtain ⟨t, ht, -⟩ := any_toOption.mp ht
  have hbroken : Template.load "broken" broken source = Yaml.unreadable := rfl
  obtain ⟨r', hload, hgot, hpassed, -, hsorted, -⟩ :=
    loadFolder_isolated Template.family hl (by decide) r
  have hcount : [("broken", broken), ("good", good)].countP (fun d =>
      (Template.load d.1 d.2 source).isOk) = 1 := by
    rw [List.countP_cons, List.countP_cons, List.countP_nil, hbroken, ht]
    rfl
  refine ⟨t, r', ht, ?_, ?_, (hgot "good" good t (by simp) ht).1, hsorted⟩
  · rw [← hcount]
    exact hload
  · refine hpassed "broken" fun content thing hd hc => ?_
    rcases List.mem_cons.mp hd with heq | hd
    · cases heq
      cases hbroken.symm.trans hc
    · have hname : "broken" = "good" := congrArg Prod.fst (List.mem_singleton.mp hd)
      exact absurd hname (by decide)

end Registry
end Placard
