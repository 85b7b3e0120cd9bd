/-
# What a folder of documents is listed as

The documents of a folder are the files directly in it whose names end in `.yaml`, and they are listed
by what stands before that, in order (`Lists`).  A folder of the bundle is always listed so.  A folder
on the disk is too, unless there is a folder in it with the name of a document: it is taken for one, it
has no content, and nothing is listed at all (`AssetSource.listYaml_documents`).

| in the folder | on the disk | in the bundle |
| :-- | :-- | :-- |
| a file `a.yaml` | is listed as `a` | is listed as `a` |
| any other file | is passed over | is passed over |
| a folder `a.yaml` | is an error | is passed over |
| any other folder | is passed over | is passed over |

Each name is there once, and names of documents differ by their stems.  So the listing is determined by
what is in the folder, wherever that is (`Lists.eq`).  A folder on the disk is named by its path, or by
its local address if that is written (`namesFolder_of_path`, `namesFolder_of_address`).
-/
import Mathlib.Data.List.Sort
import Mathlib.Data.String.Basic
import Placard.Proofs.Asset.Lookup
import Placard.Proofs.Failure

namespace Placard

/-! ## Names -/

namespace FileTree

variable {t : FileTree} {folder : Path} {name stem : String} {content : Payload}

theorem nodup_eraseDups (names : List String) : names.eraseDups.Nodup := by
  match names with
  | [] => exact List.nodup_nil
  | name :: names =>
      rw [List.eraseDups_cons, List.nodup_cons, List.mem_eraseDups, List.mem_filter]
      exact ⟨fun h => by simp at h, nodup_eraseDups _⟩
termination_by names.length
decreasing_by exact Nat.lt_succ_of_le (List.length_filter_le _ _)

/-- What is in a folder is a part of the way to something that is known. -/
theorem entry_ne_missing :
    t.entry (folder ++ [name]) ≠ .missing ↔ ∃ p ∈ t.known, folder ++ [name] <+: p := by
  have hany : t.known.any ((folder ++ [name]).isPrefixOf ·) = true ↔
      ∃ p ∈ t.known, folder ++ [name] <+: p := by
    simp only [List.any_eq_true, List.isPrefixOf_iff_prefix]
  have hne : (folder ++ [name]).isEmpty = false := by simp
  rw [← hany, entry, hne, Bool.false_or]
  split
  · rename_i content hlookup
    obtain ⟨before, after, hfiles, -⟩ := List.lookup_eq_some_iff.mp hlookup
    refine iff_of_true (fun h => by cases h) (hany.mpr ⟨folder ++ [name], ?_, List.prefix_rfl⟩)
    rw [known, hfiles, List.map_append, List.map_cons]
    exact List.mem_append_left _ (List.mem_append_right _ List.mem_cons_self)
  · split
    · rename_i h
      exact iff_of_true (fun he => by cases he) h
    · rename_i h
      exact iff_of_false (fun he => he rfl) h

theorem mem_names : name ∈ t.names folder ↔ t.entry (folder ++ [name]) ≠ .missing := by
  rw [entry_ne_missing, names, List.mem_eraseDups, List.mem_filterMap]
  refine exists_congr fun p => and_congr_right fun _ => ?_
  by_cases hbelow : folder <+: p
  · obtain ⟨rest, rfl⟩ := hbelow
    rw [if_pos (List.isPrefixOf_iff_prefix.mpr (List.prefix_append _ _)), List.drop_left,
      List.prefix_append_right_inj, List.singleton_prefix_iff_head?_eq_some]
  · rw [if_neg (List.isPrefixOf_iff_prefix.not.mpr hbelow)]
    exact iff_of_false (fun h => by cases h) fun h =>
      hbelow ((List.prefix_append _ _).trans h)

theorem yamlStem?_eq_some : yamlStem? name = some stem ↔ stem ≠ "" ∧ name = stem ++ ".yaml" := by
  unfold yamlStem?
  dsimp only
  constructor
  · intro h
    split at h
    · rename_i hname
      obtain rfl := Option.some.inj h
      obtain ⟨hend, hlong⟩ := hname
      have hsplit := List.take_append_drop 5 name.toList.reverse
      rw [hend] at hsplit
      have hdrop : (name.toList.reverse.drop 5).length ≠ 0 := by
        rw [List.length_drop]
        omega
      constructor
      · intro hempty
        rw [← String.toList_eq_nil_iff, String.toList_ofList, List.reverse_eq_nil_iff] at hempty
        exact hdrop (List.length_eq_zero_iff.mpr hempty)
      · have hback := congrArg List.reverse hsplit
        rw [List.reverse_append, List.reverse_reverse, List.reverse_reverse] at hback
        rw [← String.toList_inj, String.toList_append, String.toList_ofList, hback]
    · cases h
  · rintro ⟨hne, rfl⟩
    have hlong : 0 < stem.toList.length :=
      List.length_pos_iff.mpr (String.toList_eq_nil_iff.not.mpr hne)
    rw [String.toList_append, List.reverse_append, List.take_left' (by rfl),
      List.drop_left' (by rfl), List.reverse_reverse, String.ofList_toList, if_pos]
    refine ⟨rfl, ?_⟩
    rw [List.length_append, List.length_reverse, List.length_reverse]
    exact Nat.lt_add_of_pos_right hlong

theorem mem_yamlEntries {entry : Entry} : (stem, entry) ∈ t.yamlEntries folder ↔
    stem ≠ "" ∧ t.entry (folder ++ [stem ++ ".yaml"]) = entry ∧ entry ≠ .missing := by
  unfold yamlEntries
  rw [List.mem_filterMap]
  constructor
  · rintro ⟨name, hname, h⟩
    obtain ⟨stem', hstem, h⟩ := Option.map_eq_some_iff.mp h
    obtain ⟨rfl, rfl⟩ := Prod.mk.inj h
    obtain ⟨hne, rfl⟩ := yamlStem?_eq_some.mp hstem
    exact ⟨hne, rfl, mem_names.mp hname⟩
  · rintro ⟨hne, rfl, hthere⟩
    exact ⟨stem ++ ".yaml", mem_names.mpr hthere,
      Option.map_eq_some_iff.mpr ⟨stem, yamlStem?_eq_some.mpr ⟨hne, rfl⟩, rfl⟩⟩

theorem yamlEntries_distinct : (t.yamlEntries folder).Pairwise (·.1 ≠ ·.1) := by
  refine List.Pairwise.filterMap _ (fun name name' hne a ha b hb hstem => ?_) (nodup_eraseDups _)
  obtain ⟨_, hstem₁, rfl⟩ := Option.map_eq_some_iff.mp ha
  obtain ⟨_, hstem₂, rfl⟩ := Option.map_eq_some_iff.mp hb
  obtain ⟨-, rfl⟩ := yamlStem?_eq_some.mp hstem₁
  obtain ⟨-, rfl⟩ := yamlStem?_eq_some.mp hstem₂
  exact hne (congrArg (· ++ ".yaml") hstem)

end FileTree

/-! ## Documents -/

/-- What is read of an entry that has the name of a document. -/
def Entry.document : String × Entry → Except AssetError (String × Payload)
  | (stem, .file content) => .ok (stem, content)
  | _ => .error .io

namespace FileTree

variable {t : FileTree} {folder : Path} {stem : String} {content : Payload}

def documents (t : FileTree) (folder : Path) : List (String × Payload) :=
  (t.yamlEntries folder).filterMap fun entry => (Entry.document entry).toOption

theorem document_eq_some {entry : String × Entry} :
    (Entry.document entry).toOption = some (stem, content) ↔ entry = (stem, .file content) := by
  obtain ⟨stem', entry⟩ := entry
  cases entry with
  | file content' => simp [Entry.document, Except.toOption]
  | folder => simp [Entry.document, Except.toOption]
  | missing => simp [Entry.document, Except.toOption]
  | blocked => simp [Entry.document, Except.toOption]

theorem mem_documents : (stem, content) ∈ t.documents folder ↔
    stem ≠ "" ∧ t.entry (folder ++ [stem ++ ".yaml"]) = .file content := by
  unfold documents
  rw [List.mem_filterMap]
  constructor
  · rintro ⟨entry, hmem, h⟩
    rw [document_eq_some.mp h, mem_yamlEntries] at hmem
    exact ⟨hmem.1, hmem.2.1⟩
  · rintro ⟨hne, h⟩
    exact ⟨(stem, .file content), mem_yamlEntries.mpr ⟨hne, h, fun he => by cases he⟩,
      document_eq_some.mpr rfl⟩

theorem documents_distinct : (t.documents folder).Pairwise (·.1 ≠ ·.1) := by
  refine List.Pairwise.filterMap _ (fun entry entry' hne a ha b hb hstem => ?_) yamlEntries_distinct
  rw [document_eq_some.mp ha, document_eq_some.mp hb] at hne
  exact hne hstem

end FileTree

/-- The list holds the documents of a folder, and nothing else, in the order of their stems. -/
structure Lists (t : FileTree) (folder : Path) (found : List (String × Payload)) : Prop where
  sorted : found.Pairwise (·.1 < ·.1)
  mem : ∀ stem content, (stem, content) ∈ found ↔
    stem ≠ "" ∧ t.entry (folder ++ [stem ++ ".yaml"]) = .file content

namespace Lists

variable {t t' : FileTree} {folder folder' : Path} {found found' : List (String × Payload)}

theorem mergeSort : Lists t folder ((t.documents folder).mergeSort fun a b => a.1 ≤ b.1) where
  sorted := by
    have hle : ((t.documents folder).mergeSort fun a b => a.1 ≤ b.1).Pairwise
        fun a b => decide (a.1 ≤ b.1) = true :=
      List.pairwise_mergeSort (fun a b c hab hbc =>
          decide_eq_true ((of_decide_eq_true hab).trans (of_decide_eq_true hbc)))
        (fun a b => by simpa using le_total a.1 b.1) _
    have hne := (List.mergeSort_perm (t.documents folder) fun a b => a.1 ≤ b.1).symm.pairwise
      FileTree.documents_distinct fun h => h.symm
    exact hle.imp₂ (fun a b hab hne => lt_of_le_of_ne (of_decide_eq_true hab) hne) hne
  mem stem content := by
    rw [(List.mergeSort_perm _ _).mem_iff, FileTree.mem_documents]

/-- The listing is determined by the documents that there are. -/
theorem eq (h : Lists t folder found) (h' : Lists t' folder' found')
    (hsame : ∀ name content, t.entry (folder ++ [name]) = .file content ↔
      t'.entry (folder' ++ [name]) = .file content) : found = found' := by
  have : Std.Irrefl fun a b : String × Payload => a.1 < b.1 := ⟨fun a => lt_irrefl a.1⟩
  have : Std.Antisymm fun a b : String × Payload => a.1 < b.1 :=
    ⟨fun a b hab hba => absurd hba hab.asymm⟩
  refine h.sorted.eq_of_mem_iff h'.sorted fun ⟨stem, content⟩ => ?_
  rw [h.mem, h'.mem, hsame]

end Lists

/-! ## Reading what has the name of a document -/

namespace FileTree

variable {t : FileTree} {folder : Path}

theorem document_eq_error {entry : String × Entry} {e : AssetError}
    (h : Entry.document entry = .error e) : e = .io := by
  obtain ⟨stem, entry⟩ := entry
  cases entry with
  | file content => cases h
  | folder => exact (Except.error.inj h).symm
  | missing => exact (Except.error.inj h).symm
  | blocked => exact (Except.error.inj h).symm

theorem entry_ne_blocked {p : Path} : t.entry p ≠ .blocked := by
  unfold entry
  split
  · exact fun h => by cases h
  · split
    · exact fun h => by cases h
    · exact fun h => by cases h

/-- What has the name of a document is one, or it is a folder. -/
theorem document_of_mem {entry : String × Entry} (hmem : entry ∈ t.yamlEntries folder) :
    (∃ document, Entry.document entry = .ok document) ∨ entry.2 = .folder := by
  obtain ⟨stem, entry⟩ := entry
  obtain ⟨-, hentry, hthere⟩ := mem_yamlEntries.mp hmem
  cases entry with
  | file content => exact .inl ⟨(stem, content), rfl⟩
  | folder => exact .inr rfl
  | missing => exact absurd rfl hthere
  | blocked => exact absurd hentry entry_ne_blocked

/-- All that has the name of a document can be read: no folder has such a name. -/
def Readable (t : FileTree) (folder : Path) : Prop :=
  ∀ stem ≠ "", t.entry (folder ++ [stem ++ ".yaml"]) ≠ .folder

theorem readable_iff : t.Readable folder ↔
    ∀ entry ∈ t.yamlEntries folder, ∃ document, Entry.document entry = .ok document := by
  constructor
  · intro h entry hmem
    refine (document_of_mem hmem).resolve_right fun hfolder => ?_
    obtain ⟨hne, hentry, -⟩ := mem_yamlEntries.mp hmem
    exact h _ hne (hentry.trans hfolder)
  · intro h stem hne hfolder
    obtain ⟨document, hdocument⟩ := h (stem, .folder)
      (mem_yamlEntries.mpr ⟨hne, hfolder, fun he => by cases he⟩)
    cases hdocument

theorem mapM_document_of_readable (h : t.Readable folder) :
    (t.yamlEntries folder).mapM Entry.document = .ok (t.documents folder) :=
  mapM_of_ok (readable_iff.mp h)

theorem mapM_document_of_not_readable (h : ¬ t.Readable folder) :
    (t.yamlEntries folder).mapM Entry.document = .error .io := by
  cases hread : (t.yamlEntries folder).mapM Entry.document with
  | error e =>
      obtain ⟨entry, -, hentry⟩ := mapM_eq_error hread
      rw [document_eq_error hentry]
  | ok found => exact absurd (readable_iff.mpr (ok_of_mapM hread)) h

end FileTree

/-! ## Listings -/

namespace AssetSource
open Location

variable {s b : AssetSource} {root place bundled : Path} {parts : List String} {dir : String}

/-- The text names a folder on the disk. -/
def NamesFolder (s : AssetSource) (dir : String) (place : Path) : Prop :=
  ∃ path, s.folderOnDisk? dir = some path ∧ s.disk.find path = (place, .folder)

/-- The text names a folder of the bundle, and none on the disk. -/
structure NamesBundled (b : AssetSource) (dir : String) (place : Path) : Prop where
  not_on_disk : b.folderOnDisk? dir = none
  plain : Path.plain? (Text.trimEnd '/' (Text.trimStart '/' dir)) = some place
  folder : b.bundle.entry place = .folder

theorem namesFolder_of_path (hdir : ∀ path, parse? dir ≠ some (.file path))
    (hfind : s.disk.find dir = (place, .folder)) : s.NamesFolder dir place := by
  refine ⟨dir, ?_, hfind⟩
  unfold folderOnDisk?
  split
  · rename_i path hparse
    exact absurd hparse (hdir path)
  · rw [Disk.isFolder, Disk.entry, hfind]
    rfl

theorem namesFolder_of_address (hroot : s.disk.place s.staticRoot = (root, .folder))
    (hnul : s.staticRoot.toList.any (· == '\x00') = false) (hne : parts ≠ [])
    (hparts : ∀ part ∈ parts, IsPart part) (hwritten : ∀ part ∈ parts, Written part)
    (hfolder : Disk.walk s.disk.tree root parts = (place, .folder)) :
    s.NamesFolder (address parts) place := by
  obtain ⟨below, hbelow, hfind⟩ := find_written hroot hnul hne hparts hwritten
  refine ⟨below, ?_, hfind.trans hfolder⟩
  unfold folderOnDisk?
  rw [parse?_written hne hparts hwritten, (confined?_eq_some hbelow).1]

theorem listYaml_of_disk (h : s.NamesFolder dir place) :
    s.listYaml dir = ((s.disk.tree.yamlEntries place).mapM Entry.document).map
      (List.mergeSort · fun a b => a.1 ≤ b.1) := by
  obtain ⟨path, hpath, hfind⟩ := h
  have hlist : s.listDisk path = (s.disk.tree.yamlEntries place).mapM Entry.document := by
    unfold listDisk
    rw [hfind]
    refine congrArg (List.mapM · _) (funext fun ⟨stem, entry⟩ => ?_)
    cases entry <;> rfl
  unfold listYaml
  rw [hpath]
  show s.listDisk path >>= _ = _
  rw [hlist]
  cases (s.disk.tree.yamlEntries place).mapM Entry.document <;> rfl

theorem listYaml_of_bundle (h : b.NamesBundled dir bundled) :
    b.listYaml dir = .ok ((b.bundle.documents bundled).mergeSort fun a b => a.1 ≤ b.1) := by
  have hlist : b.listBundled dir = .ok (b.bundle.documents bundled) := by
    unfold listBundled
    rw [h.plain]
    dsimp only
    rw [h.folder]
    refine congrArg (fun f => Except.ok (List.filterMap f _)) (funext fun ⟨stem, entry⟩ => ?_)
    cases entry <;> rfl
  unfold listYaml
  rw [h.not_on_disk]
  show b.listBundled dir >>= _ = _
  rw [hlist]
  rfl

/-- What a folder on the disk is listed as, and how a folder of the bundle with the same files in it is
listed.  The one fails if a folder in it has the name of a document, which makes no difference to the
other.  If there is no such folder then the two are the same. -/
theorem listYaml_documents (h : s.NamesFolder dir place) :
    (s.disk.tree.Readable place →
      ∃ found, s.listYaml dir = .ok found ∧ Lists s.disk.tree place found) ∧
    (¬ s.disk.tree.Readable place → s.listYaml dir = .error .io) ∧
    ∀ (b : AssetSource) (other : String) (bundled : Path), b.NamesBundled other bundled →
      ∃ listed, b.listYaml other = .ok listed ∧ Lists b.bundle bundled listed ∧
        ((∀ name content, s.disk.tree.entry (place ++ [name]) = .file content ↔
            b.bundle.entry (bundled ++ [name]) = .file content) →
          s.disk.tree.Readable place → s.listYaml dir = .ok listed) := by
  have hread (hr : s.disk.tree.Readable place) : s.listYaml dir =
      .ok ((s.disk.tree.documents place).mergeSort fun a b => a.1 ≤ b.1) := by
    rw [listYaml_of_disk h, FileTree.mapM_document_of_readable hr]
    rfl
  refine ⟨fun hr => ⟨_, hread hr, .mergeSort⟩, fun hr => ?_, fun b other bundled hb => ?_⟩
  · rw [listYaml_of_disk h, FileTree.mapM_document_of_not_readable hr]
    rfl
  · refine ⟨_, listYaml_of_bundle hb, .mergeSort, fun hsame hr => ?_⟩
    rw [hread hr, Lists.mergeSort.eq .mergeSort hsame]

/-- Two documents in a folder, a file and a folder that are none, and perhaps a folder that has the
name of one. -/
def shelf (folder : String) (mixed : Bool) : FileTree where
  files := [([folder, "b.yaml"], .ofText "b: 2"), ([folder, "a.yaml"], .ofText "a: 1"),
    ([folder, "notes.txt"], .ofText "c: 3"), ([folder, "sub", "d.yaml"], .ofText "d: 4")]
  folders := if mixed then [[folder, "x.yaml"]] else []

/-- The same on the disk and in the bundle. -/
def shelves (mixed : Bool) : AssetSource :=
  { ofPictures [] with disk := ⟨shelf "docs" mixed, []⟩, bundle := shelf "kept" mixed }

variable {mixed : Bool}

theorem shelves_path : (shelves mixed).NamesFolder "docs" ["docs"] := by
  have hparse : parse? "docs" = none := by decide +kernel
  refine namesFolder_of_path (fun path h => by cases hparse.symm.trans h) ?_
  rw [Disk.find_eq, if_neg (by decide), if_neg (by decide), Disk.place, Disk.start,
    Text.startsWith_slash]
  cases mixed with
  | false => rfl
  | true => rfl

theorem shelves_address : (shelves mixed).NamesFolder "local:/docs" ["docs"] := by
  have hroot : (shelves mixed).disk.place (shelves mixed).staticRoot = ([], .folder) := by
    unfold Disk.place Disk.start
    rw [Text.startsWith_slash]
    cases mixed with
    | false => rfl
    | true => rfl
  have hfolder : Disk.walk (shelves mixed).disk.tree [] ["docs"] = (["docs"], .folder) := by
    cases mixed with
    | false => rfl
    | true => rfl
  have hnul : (shelves mixed).staticRoot.toList.any (· == '\x00') = false :=
    show "/".toList.any (· == '\x00') = false by decide
  have hwritten : ∀ part ∈ ["docs"], Written part := by decide +kernel
  have haddress : address ["docs"] = "local:/docs" := by decide +kernel
  rw [← haddress]
  exact namesFolder_of_address hroot hnul (by decide) (by decide) hwritten hfolder

theorem shelves_bundled : (shelves mixed).NamesBundled "kept" ["kept"] where
  not_on_disk := by
    have hparse : parse? "kept" = none := by decide +kernel
    have hfind : (shelves mixed).disk.find "kept" = (["kept"], .missing) := by
      rw [Disk.find_eq, if_neg (by decide), if_neg (by decide), Disk.place, Disk.start,
        Text.startsWith_slash]
      cases mixed with
      | false => rfl
      | true => rfl
    unfold folderOnDisk?
    rw [hparse, Disk.isFolder, Disk.entry, hfind]
    rfl
  plain := by decide +kernel
  folder := by
    cases mixed with
    | false => rfl
    | true => rfl

theorem shelves_listed : (shelves mixed).listYaml "kept" =
    .ok [("a", .ofText "a: 1"), ("b", .ofText "b: 2")] := by
  have hdocuments : (shelves mixed).bundle.documents ["kept"] =
      [("b", .ofText "b: 2"), ("a", .ofText "a: 1")] := by
    cases mixed with
    | false => rfl
    | true => rfl
  rw [listYaml_of_bundle shelves_bundled, hdocuments]
  simp [List.mergeSort]

theorem shelf_lookup {folder name : String} :
    (shelf folder mixed).files.lookup ([folder] ++ [name]) =
      [("b.yaml", Payload.ofText "b: 2"), ("a.yaml", .ofText "a: 1"),
        ("notes.txt", .ofText "c: 3")].lookup name := by
  simp [shelf, List.lookup_cons]

theorem shelves_same {name : String} {content : Payload} :
    (shelves mixed).disk.tree.entry (["docs"] ++ [name]) = .file content ↔
      (shelves mixed).bundle.entry (["kept"] ++ [name]) = .file content := by
  have hdisk := @shelf_lookup mixed "docs" name
  have hbundle := @shelf_lookup mixed "kept" name
  rw [FileTree.entry_eq_file, FileTree.entry_eq_file]
  exact iff_of_eq (congrArg (· = some content) (hdisk.trans hbundle.symm))

theorem listYaml_documents_of_shelves :
    let found := [("a", Payload.ofText "a: 1"), ("b", Payload.ofText "b: 2")]
    (shelves false).NamesFolder "docs" ["docs"] ∧
    (shelves false).NamesFolder "local:/docs" ["docs"] ∧
    (shelves false).NamesBundled "kept" ["kept"] ∧
    (shelves false).disk.tree.Readable ["docs"] ∧
    (shelves false).listYaml "docs" = .ok found ∧
    (shelves false).listYaml "local:/docs" = .ok found ∧
    (shelves false).listYaml "kept" = .ok found := by
  intro found
  have hreadable : (shelves false).disk.tree.Readable ["docs"] := by
    refine FileTree.readable_iff.mpr (List.forall_mem_cons.mpr ⟨⟨_, rfl⟩, ?_⟩)
    exact List.forall_mem_cons.mpr ⟨⟨_, rfl⟩, fun entry hmem => absurd hmem List.not_mem_nil⟩
  have hlisted : (shelves false).listYaml "kept" = .ok found := shelves_listed
  obtain ⟨-, -, hpath⟩ := listYaml_documents (@shelves_path false)
  obtain ⟨-, -, haddress⟩ := listYaml_documents (@shelves_address false)
  obtain ⟨listed, hkept, -, hpath⟩ := hpath _ _ _ shelves_bundled
  obtain ⟨listed', hkept', -, haddress⟩ := haddress _ _ _ shelves_bundled
  obtain rfl : found = listed := Except.ok.inj (hlisted.symm.trans hkept)
  obtain rfl : found = listed' := Except.ok.inj (hlisted.symm.trans hkept')
  exact ⟨shelves_path, shelves_address, shelves_bundled, hreadable,
    hpath (fun _ _ => shelves_same) hreadable, haddress (fun _ _ => shelves_same) hreadable,
    hlisted⟩

/-- A folder in a folder has the name of a document, and the document beside it is not listed from the
disk. -/
theorem listYaml_stopped_by_folder :
    (shelves true).NamesFolder "docs" ["docs"] ∧ (shelves true).NamesFolder "local:/docs" ["docs"] ∧
    (shelves true).disk.tree.entry ["docs", "a.yaml"] = .file (.ofText "a: 1") ∧
    (shelves true).disk.tree.entry ["docs", "x.yaml"] = .folder ∧
    (shelves true).listYaml "docs" = .error .io ∧
    (shelves true).listYaml "local:/docs" = .error .io ∧
    (shelves true).bundle.entry ["kept", "x.yaml"] = .folder ∧
    (shelves true).listYaml "kept" = .ok [("a", .ofText "a: 1"), ("b", .ofText "b: 2")] := by
  have hfolder : (shelves true).disk.tree.entry ["docs", "x.yaml"] = .folder := by rfl
  have hmixed : ¬ (shelves true).disk.tree.Readable ["docs"] := fun h =>
    h "x" (by decide) hfolder
  have hstopped {dir : String} (h : (shelves true).NamesFolder dir ["docs"]) :
      (shelves true).listYaml dir = .error .io := by
    rw [listYaml_of_disk h, FileTree.mapM_document_of_not_readable hmixed]
    rfl
  exact ⟨shelves_path, shelves_address, by rfl, hfolder, hstopped shelves_path,
    hstopped shelves_address, by rfl, shelves_listed⟩

end AssetSource
end Placard
