/-
# What local addresses reach

A local address is looked up below the static root.  A single file is read only if no part of its path
leads upwards.  A folder of documents is listed without that check.

| | reaches above the root |
| :-- | :-- |
| reading a file | never (`AssetSource.get_confined`) |
| listing a folder whose path has no part `..` | never (`AssetSource.listYaml_confined`) |
| listing a folder whose path has one | it may (`AssetSource.listYaml_leaves_root`) |

An address whose path begins with a slash has its dot segments resolved when it is read, and so has
no part `..` (`Location.not_up_of_slash`).  What is left is a path without a leading slash, which is
taken as it stands.
-/
import Mathlib.Data.UInt
import Placard.Proofs.Asset.Walk

namespace Placard

/-! ## Paths of addresses -/

namespace Location

variable {cs part : List Char} {p : Char → Bool} {path uri : String}

/-- A part that stands for a place in the folder that it is in. -/
def StaysInside (part : String) : Prop := '/' ∉ part.toList ∧ part ≠ ".."

theorem toList_eq_data (b : ByteArray) : b.toList = b.data.toList := by
  suffices hloop : ∀ i r, ByteArray.toList.loop b i r = r.reverse ++ b.data.toList.drop i from
    hloop 0 []
  intro i r
  induction i, r using ByteArray.toList.loop.induct b with
  | case1 i r hi ih =>
      have hlt : i < b.data.toList.length := hi
      have hget : b.get! i = b.data.toList[i] := getElem!_pos b.data i hi
      rw [ByteArray.toList.loop, if_pos hi, ih, List.reverse_cons, List.append_assoc,
        List.drop_eq_getElem_cons hlt, hget, List.singleton_append]
  | case2 i r hi =>
      rw [ByteArray.toList.loop, if_neg hi, List.drop_eq_nil_of_le (Nat.not_lt.mp hi),
        List.append_nil]

theorem octets_singleton (c : Char) :
    (String.singleton c).toUTF8.toList = String.utf8EncodeChar c := by
  rw [toList_eq_data, String.toUTF8_eq_toByteArray, String.toByteArray_singleton, List.utf8Encode,
    List.data_toByteArray, List.flatMap_singleton]

/-- There is a first octet, and it is that of a point only for a point. -/
theorem octets_cons (c : Char) :
    ∃ b bs, (String.singleton c).toUTF8.toList = b :: bs ∧ (b = 0x2E → c = '.') := by
  have hbyte {n : Nat} (hlo : 0x2E < n) (hhi : n < 256) : UInt8.ofNat n ≠ 0x2E := fun h => by
    have hnat := congrArg UInt8.toNat h
    rw [UInt8.toNat_ofNat', Nat.mod_eq_of_lt hhi] at hnat
    exact absurd hnat hlo.ne'
  rw [octets_singleton]
  unfold String.utf8EncodeChar
  dsimp only
  split
  · refine ⟨_, _, rfl, fun h => ?_⟩
    have hnat := congrArg UInt8.toNat h
    rw [UInt8.toNat_ofNat', Nat.mod_eq_of_lt (by omega)] at hnat
    exact Char.ext (UInt32.toNat_inj.mp hnat)
  · -- the other octets begin above those of the first kind
    split
    · exact ⟨_, _, rfl, fun h => absurd h (hbyte (by omega) (by omega))⟩
    · split
      · exact ⟨_, _, rfl, fun h => absurd h (hbyte (by omega) (by omega))⟩
      · exact ⟨_, _, rfl, fun h => absurd h (hbyte (by omega) (by omega))⟩

theorem slash_not_mem_percent (b : UInt8) : '/' ∉ percent b := by
  have h : ∀ n < 256, '/' ∉ '%' :: (Text.hexFixed 2 n).map Char.toUpper := by decide +kernel
  exact h b.toNat b.toNat_lt

theorem slash_not_mem_percentEncode (h : '/' ∉ cs) : '/' ∉ percentEncode p cs := by
  unfold percentEncode
  rw [List.mem_flatMap]
  rintro ⟨c, hc, hmem⟩
  split at hmem
  · obtain ⟨b, -, hb⟩ := List.mem_flatMap.mp hmem
    exact slash_not_mem_percent b hb
  · rw [List.mem_singleton] at hmem
    exact h (hmem ▸ hc)

theorem encoded_eq_cons (c : Char) :
    ∃ cs, (String.singleton c).toUTF8.toList.flatMap percent = '%' :: cs := by
  obtain ⟨b, bs, hb, -⟩ := octets_cons c
  rw [hb, List.flatMap_cons]
  exact ⟨_, rfl⟩

/-- Percent-encoding that makes no `%` leaves everything as it is. -/
theorem percentEncode_eq_self (h : '%' ∉ percentEncode p cs) : percentEncode p cs = cs := by
  induction cs with
  | nil => rfl
  | cons c cs ih =>
      unfold percentEncode at h ⊢
      rw [List.flatMap_cons, List.mem_append, not_or] at h
      rw [List.flatMap_cons]
      split at h
      · obtain ⟨ds, hds⟩ := encoded_eq_cons c
        rw [hds] at h
        exact absurd List.mem_cons_self h.1
      · rename_i hc
        rw [if_neg hc]
        exact congrArg (c :: ·) (ih h.2)

theorem encoded_staysInside (hslash : '/' ∉ part) (hup : ¬ isDoubleDot part = true) :
    StaysInside (resolveParts.encoded part) := by
  unfold resolveParts.encoded
  constructor
  · rw [String.toList_ofList]
    exact slash_not_mem_percentEncode hslash
  · -- what encoding changes begins with `%`, so only `..` itself comes out as `..`
    intro h
    have hdots : percentEncode isOutsidePath part = ['.', '.'] := by
      rw [← String.toList_ofList (l := percentEncode isOutsidePath part), h]
      rfl
    have hself : percentEncode isOutsidePath part = part := by
      refine percentEncode_eq_self ?_
      rw [hdots]
      decide
    rw [hself] at hdots
    rw [hdots] at hup
    exact hup (by decide)

/-- A path whose dot segments have been resolved has parts that were above, parts that are none, and
an empty one for a dot segment at the end. -/
theorem resolveParts_forall {P : String → Prop} {above : List String} {parts : List (List Char)}
    (hempty : P "") (habove : ∀ a ∈ above, P a)
    (hparts : ∀ part ∈ parts, ¬ isDoubleDot part = true → ¬ isSingleDot part = true →
      P (resolveParts.encoded part)) :
    ∀ a ∈ resolveParts above parts, P a := by
  fun_induction resolveParts above parts with
  | case1 above => exact fun a ha => habove a (List.mem_reverse.mp ha)
  | case2 above part hup =>
      have hdrop : ∀ a ∈ above.drop 1, P a := fun a ha => habove a (List.mem_of_mem_drop ha)
      exact fun a ha => List.forall_mem_cons.mpr ⟨hempty, hdrop⟩ a (List.mem_reverse.mp ha)
  | case3 above part hup hdot =>
      exact fun a ha => List.forall_mem_cons.mpr ⟨hempty, habove⟩ a (List.mem_reverse.mp ha)
  | case4 above part hup hdot =>
      have hpart := hparts part List.mem_cons_self hup hdot
      exact fun a ha => List.forall_mem_cons.mpr ⟨hpart, habove⟩ a (List.mem_reverse.mp ha)
  | case5 above part rest hne hup ih =>
      exact ih (fun a ha => habove a (List.mem_of_mem_drop ha)) (List.forall_mem_cons.mp hparts).2
  | case6 above part rest hne hup hdot ih => exact ih habove (List.forall_mem_cons.mp hparts).2
  | case7 above part rest hne hup hdot ih =>
      have hpart := hparts part List.mem_cons_self hup hdot
      exact ih (List.forall_mem_cons.mpr ⟨hpart, habove⟩) (List.forall_mem_cons.mp hparts).2

theorem pathParts_staysInside (ds : List Char) :
    ∀ part ∈ pathParts (· == '/') ds, StaysInside part := by
  refine resolveParts_forall ⟨List.not_mem_nil, by decide⟩ (fun a ha => absurd ha List.not_mem_nil)
    fun part hpart hup _ => encoded_staysInside (fun hmem => ?_) hup
  have hno : ('/' == '/') = false := Text.splitList_none hpart '/' hmem
  cases hno

theorem splitList_joinParts {parts : List String} (h : ∀ part ∈ parts, '/' ∉ part.toList)
    (hcs : '/' ∉ cs) :
    Text.splitList (· == '/') (cs ++ parts.flatMap fun part => '/' :: part.toList) =
      cs :: parts.map String.toList := by
  have hnone : ∀ ds : List Char, '/' ∉ ds → ∀ c ∈ ds, (c == '/') = false :=
    fun ds hds c hc => beq_false_of_ne fun he => hds (he ▸ hc)
  induction parts generalizing cs with
  | nil =>
      rw [List.flatMap_nil, List.append_nil]
      exact Text.splitList_of_none (hnone cs hcs)
  | cons part parts ih =>
      obtain ⟨hpart, hparts⟩ := List.forall_mem_cons.mp h
      rw [List.flatMap_cons, List.cons_append, Text.splitList_append (by rfl),
        Text.splitList_of_none (hnone cs hcs), ih hparts hpart]
      rfl

theorem toList_joinParts {parts : List String} :
    (joinParts parts).toList = parts.flatMap fun part => '/' :: part.toList := by
  rw [joinParts, String.toList_join, List.flatMap_map]
  refine congrArg (List.flatMap · parts) (funext fun part => ?_)
  rw [String.toList_append]
  rfl

theorem splitAt_joinParts {parts : List String} (h : ∀ part ∈ parts, '/' ∉ part.toList) :
    Text.splitAt '/' (joinParts parts) = "" :: parts := by
  rw [Text.splitAt, toList_joinParts, ← List.nil_append (parts.flatMap _),
    splitList_joinParts h List.not_mem_nil, List.map_cons, List.map_map]
  refine congrArg ("" :: ·) ?_
  rw [show String.ofList ∘ String.toList = id from funext fun s => String.ofList_toList]
  exact List.map_id _

/-- A local place is given by no path, by one whose dot segments have been resolved, or by one
without a leading slash. -/
theorem file?_cases (h : file? cs = some (.file path)) :
    path = "" ∨ (∃ ds, path = joinParts (pathParts (· == '/') ds)) ∨
      (cutQuery cs).1.head? ≠ some '/' ∧
        path = String.ofList (percentEncode isControl (cutQuery cs).1) := by
  unfold file? at h
  dsimp only at h
  split at h
  · split at h
    · split at h
      · split at h
        · cases h
          exact Or.inl rfl
        · cases h
          exact Or.inr (Or.inl ⟨_, rfl⟩)
      · cases h
    · cases h
  · cases h
    exact Or.inr (Or.inl ⟨_, rfl⟩)
  · rename_i hslash
    cases h
    refine Or.inr (Or.inr ⟨fun hhead => ?_, rfl⟩)
    obtain ⟨ds, hds⟩ := List.head?_eq_some_iff.mp hhead
    exact hslash ds hds

theorem parse?_file (h : parse? uri = some (.file path)) : ∃ cs, file? cs = some (.file path) := by
  unfold parse? at h
  dsimp only at h
  split at h
  · cases h
  · split at h
    · obtain ⟨_, -, hw⟩ := Option.map_eq_some_iff.mp h
      cases hw
    · obtain ⟨_, -, hw⟩ := Option.map_eq_some_iff.mp h
      cases hw
    · exact ⟨_, h⟩
    · cases h

/-- A path that begins with a slash has had its dot segments resolved. -/
theorem not_up_of_slash (h : parse? uri = some (.file path)) (hslash : path.startsWith "/" = true) :
    ".." ∉ Text.splitAt '/' path := by
  obtain ⟨cs, hcs⟩ := parse?_file h
  rcases file?_cases hcs with rfl | ⟨ds, rfl⟩ | ⟨hhead, rfl⟩
  · decide
  · have hinside := pathParts_staysInside ds
    rw [splitAt_joinParts fun part hpart => (hinside part hpart).1, List.mem_cons]
    rintro (he | hmem)
    · exact absurd he (by decide)
    · exact (hinside _ hmem).2 rfl
  · -- a path that is taken as it stands begins with no slash, and encoding makes none
    rw [Text.startsWith_slash, String.toList_ofList, beq_iff_eq] at hslash
    generalize (cutQuery cs).1 = ds at hhead hslash
    cases ds with
    | nil => cases hslash
    | cons d ds =>
        unfold percentEncode at hslash
        rw [List.flatMap_cons] at hslash
        split at hslash
        · obtain ⟨es, hes⟩ := encoded_eq_cons d
          rw [hes, List.cons_append, List.head?_cons] at hslash
          cases hslash
        · exact absurd hslash hhead

end Location

/-! ## Below the static root -/

namespace AssetSource

variable {s : AssetSource} {d : Disk} {path place rel uri : String}

/-- Nothing is looked up at the path, or it leads to the static root or below it. -/
def StaysBelow (s : AssetSource) (path : String) : Prop :=
  path.isEmpty = true ∨ path.toList.any (· == '\x00') = true ∨
    (s.disk.place s.staticRoot).1 <+: (s.disk.find path).1

theorem StaysBelow.of_folder {folder : Path} (h : s.StaysBelow path)
    (hf : s.disk.find path = (folder, .folder)) : (s.disk.place s.staticRoot).1 <+: folder := by
  have hfind := hf
  rw [Disk.find_eq] at hfind
  rcases h with hempty | hnul | hbelow
  · rw [if_pos hempty] at hfind
    cases hfind
  · by_cases hempty : path.isEmpty = true
    · rw [if_pos hempty] at hfind
      cases hfind
    · rw [if_neg hempty, if_pos hnul] at hfind
      cases hfind
  · rw [hf] at hbelow
    exact hbelow

/-- Another disk has the static root in the same place, and has the same there and below. -/
structure SameBelow (s : AssetSource) (d : Disk) : Prop where
  place_eq : d.place s.staticRoot = s.disk.place s.staticRoot
  entry_eq : ∀ p, (s.disk.place s.staticRoot).1 <+: p → d.tree.entry p = s.disk.tree.entry p
  names_eq : ∀ p, (s.disk.place s.staticRoot).1 <+: p → d.tree.names p = s.disk.tree.names p

/-- The source with another disk. -/
def onDisk (s : AssetSource) (d : Disk) : AssetSource := { s with disk := d }

/-- A path below the static root none of whose parts leads upwards stays below it, and is found the
same on every disk that has the same there. -/
theorem find_below (hrel : rel.toList.head? ≠ some '/') (hup : ".." ∉ Text.splitAt '/' rel) :
    s.StaysBelow (Path.join s.staticRoot rel) ∧
      (s.SameBelow d →
        d.find (Path.join s.staticRoot rel) = s.disk.find (Path.join s.staticRoot rel)) := by
  have hplace := s.disk.place_join s.staticRoot hrel
  unfold StaysBelow
  rw [Disk.find_eq, Disk.find_eq]
  by_cases hempty : (Path.join s.staticRoot rel).isEmpty = true
  · rw [if_pos hempty, if_pos hempty]
    exact ⟨Or.inl hempty, fun _ => rfl⟩
  rw [if_neg hempty, if_neg hempty]
  by_cases hnul : (Path.join s.staticRoot rel).toList.any (· == '\x00') = true
  · rw [if_pos hnul, if_pos hnul]
    exact ⟨Or.inr (Or.inl hnul), fun _ => rfl⟩
  rw [if_neg hnul, if_neg hnul, hplace]
  constructor
  · exact Or.inr (Or.inr (Disk.onward_below (fun _ _ => rfl) hup).1)
  · intro h
    rw [Disk.place_join d s.staticRoot hrel, h.place_eq]
    exact (Disk.onward_below h.entry_eq hup).2

theorem yamlEntries_below (h : s.SameBelow d) {folder : Path}
    (hfolder : (s.disk.place s.staticRoot).1 <+: folder) :
    d.tree.yamlEntries folder = s.disk.tree.yamlEntries folder := by
  unfold FileTree.yamlEntries
  rw [h.names_eq folder hfolder]
  refine List.filterMap_congr fun name _ => ?_
  rw [h.entry_eq _ (hfolder.trans (List.prefix_append _ _))]

theorem listDisk_below (hrel : rel.toList.head? ≠ some '/') (hup : ".." ∉ Text.splitAt '/' rel)
    (h : s.SameBelow d) :
    (s.onDisk d).listDisk (Path.join s.staticRoot rel) =
      s.listDisk (Path.join s.staticRoot rel) := by
  obtain ⟨hbelow, hsame⟩ := find_below (s := s) (d := d) hrel hup
  have hfind : (s.onDisk d).disk.find (Path.join s.staticRoot rel) =
      s.disk.find (Path.join s.staticRoot rel) := hsame h
  unfold listDisk
  rw [hfind]
  cases hf : s.disk.find (Path.join s.staticRoot rel) with
  | mk folder entry =>
      cases entry with
      | folder =>
          have hentries := yamlEntries_below h (hbelow.of_folder hf)
          dsimp only
          rw [show (s.onDisk d).disk = d from rfl, hentries]
      | file content => rfl
      | missing => rfl
      | blocked => rfl

/-- What may be read is a path below the static root none of whose parts leads upwards. -/
theorem confined?_eq_some (h : s.confined? path = some place) :
    place = Path.join s.staticRoot (Text.trimStart '/' path) ∧
      ".." ∉ Text.splitAt '/' (Text.trimStart '/' path) := by
  obtain ⟨parts, hp, rfl⟩ := Option.map_eq_some_iff.mp h
  refine ⟨rfl, fun hup => ?_⟩
  unfold Path.plain? at hp
  dsimp only at hp
  rw [if_pos (Or.inr (List.mem_filter.mpr ⟨hup, by decide⟩))] at hp
  cases hp

theorem confined?_of_up (h : ".." ∈ Text.splitAt '/' path) : s.confined? path = none := by
  cases hc : s.confined? path with
  | none => rfl
  | some place =>
      exact absurd ((Text.mem_splitAt_trimStart (by decide)).mpr h) (confined?_eq_some hc).2

theorem get_of_file (h : Location.parse? uri = some (.file path)) :
    s.get uri = s.readLocal path := by
  unfold get
  rw [h]

/-- A local address reads a file at the static root or below it, or none. -/
theorem get_confined (h : Location.parse? uri = some (.file path)) :
    (∀ place, s.confined? path = some place → s.StaysBelow place) ∧
      ∀ d, s.SameBelow d → (s.onDisk d).get uri = s.get uri := by
  constructor
  · intro place hc
    obtain ⟨rfl, hup⟩ := confined?_eq_some hc
    exact (find_below (d := s.disk) Text.trimStart_head hup).1
  · intro d hd
    rw [get_of_file h, get_of_file h]
    unfold readLocal
    rw [show (s.onDisk d).confined? path = s.confined? path from rfl]
    cases hc : s.confined? path with
    | none => rfl
    | some place =>
        obtain ⟨rfl, hup⟩ := confined?_eq_some hc
        have hfind := (find_below Text.trimStart_head hup).2 hd
        dsimp only
        rw [show (s.onDisk d).disk = d from rfl, Disk.entry, Disk.entry, hfind]

/-- A local address none of whose parts leads upwards lists a folder at the static root or below
it, or none. -/
theorem listYaml_confined (h : Location.parse? uri = some (.file path))
    (hup : ".." ∉ Text.splitAt '/' path) :
    (∀ place, s.folderOnDisk? uri = some place → s.StaysBelow place) ∧
      ∀ d, s.SameBelow d → (s.onDisk d).listYaml uri = s.listYaml uri := by
  have htrim : ".." ∉ Text.splitAt '/' (Text.trimStart '/' path) :=
    fun hmem => hup ((Text.mem_splitAt_trimStart (by decide)).mp hmem)
  have hfolder : ∀ s : AssetSource, s.folderOnDisk? uri =
      some (Path.join s.staticRoot (Text.trimStart '/' path)) := by
    intro s
    unfold folderOnDisk?
    rw [h]
  constructor
  · intro place hp
    rw [hfolder] at hp
    cases hp
    exact (find_below (d := s.disk) Text.trimStart_head htrim).1
  · intro d hd
    have hlist := listDisk_below Text.trimStart_head htrim hd
    unfold listYaml
    rw [hfolder, hfolder]
    dsimp only
    rw [show (s.onDisk d).staticRoot = s.staticRoot from rfl, hlist]

/-- A path of two dots leads from the static root to the folder that it is in. -/
theorem find_above {folder : Path} {name : String}
    (hplace : s.disk.place s.staticRoot = (folder ++ [name], .folder))
    (hnul : s.staticRoot.toList.any (· == '\x00') = false) :
    s.disk.find (Path.join s.staticRoot "..") = (folder, .folder) := by
  obtain ⟨before, hjoin, hbefore⟩ := Path.join_eq_append s.staticRoot ".."
    (p := (· == '\x00')) (by decide)
  have hempty : ¬ (Path.join s.staticRoot "..").isEmpty = true := by
    rw [hjoin]
    simp
  have hplain : ¬ (Path.join s.staticRoot "..").toList.any (· == '\x00') = true := by
    rw [hjoin, String.toList_append, List.any_append, hbefore, hnul]
    decide
  rw [Disk.find_eq, if_neg hempty, if_neg hplain, Disk.place_join _ _ (by decide), hplace]
  show Disk.walk s.disk.tree (folder ++ [name]) [".."] = (folder, .folder)
  rw [Disk.walk, if_neg (by decide), if_pos rfl, List.dropLast_concat]
  rfl

/-- So it does not stay below the static root, wherever that is. -/
theorem not_staysBelow_above {folder : Path} {name : String}
    (hplace : s.disk.place s.staticRoot = (folder ++ [name], .folder))
    (hnul : s.staticRoot.toList.any (· == '\x00') = false) :
    ¬ s.StaysBelow (Path.join s.staticRoot "..") := by
  intro h
  have hprefix := h.of_folder (find_above hplace hnul)
  rw [hplace] at hprefix
  have hlength := hprefix.length_le
  rw [List.length_append, List.length_singleton] at hlength
  omega

/-! ## What is reached -/

/-- A static root with a folder of documents, and a document beside the root. -/
def shared : AssetSource :=
  { ofPictures [] with
    disk := ⟨⟨[(["notes.yaml"], .ofText "a: 1"), (["static", "docs", "b.yaml"], .ofText "b: 2")],
      []⟩, []⟩
    staticRoot := "/static" }

/-- The same disk without the document beside the root. -/
def cleared : Disk := ⟨⟨[(["static", "docs", "b.yaml"], .ofText "b: 2")], []⟩, []⟩

theorem shared_place : shared.disk.place shared.staticRoot = (["static"], .folder) := by
  unfold Disk.place Disk.start
  rw [Text.startsWith_slash]
  rfl

theorem cleared_place : cleared.place shared.staticRoot = (["static"], .folder) := by
  unfold Disk.place Disk.start
  rw [Text.startsWith_slash]
  rfl

theorem shared_sameBelow : shared.SameBelow cleared := by
  constructor
  · rw [shared_place, cleared_place]
  · rw [shared_place]
    rintro p ⟨q, rfl⟩
    rfl
  · rw [shared_place]
    rintro p ⟨q, rfl⟩
    rfl

/-- What a local address reaches, whatever the static root and the disk are.  Reading a file never
leaves the root: a part that leads upwards is refused, and what is read is at the root or below it,
and all that the answer depends on.  Listing a folder does not leave the root either, unless a part
of its path leads upwards, and no part does if the path begins with a slash. -/
theorem local_address_confined (s : AssetSource) (h : Location.parse? uri = some (.file path)) :
    (".." ∈ Text.splitAt '/' path → s.get uri = .error (.notFound path)) ∧
    (∀ place, s.confined? path = some place → s.StaysBelow place) ∧
    (∀ d, s.SameBelow d → (s.onDisk d).get uri = s.get uri) ∧
    (path.startsWith "/" = true → ".." ∉ Text.splitAt '/' path) ∧
    (".." ∉ Text.splitAt '/' path →
      (∀ place, s.folderOnDisk? uri = some place → s.StaysBelow place) ∧
      ∀ d, s.SameBelow d → (s.onDisk d).listYaml uri = s.listYaml uri) := by
  obtain ⟨hbelow, hsame⟩ := get_confined (s := s) h
  refine ⟨?_, hbelow, hsame, Location.not_up_of_slash h, listYaml_confined h⟩
  intro hup
  rw [get_of_file h, readLocal, confined?_of_up hup]

/-- A document and a folder below the root are the same whatever stands beside it. -/
theorem local_address_confined_of_shared :
    Location.parse? "LOCAL:/a/../docs/b.yaml" = some (.file "/docs/b.yaml") ∧
    (shared.onDisk cleared).get "LOCAL:/a/../docs/b.yaml" = shared.get "LOCAL:/a/../docs/b.yaml" ∧
    (shared.get "LOCAL:/a/../docs/b.yaml").isOk = true ∧
    shared.get "local:a/../docs/b.yaml" = .error (.notFound "a/../docs/b.yaml") ∧
    (shared.onDisk cleared).listYaml "local:docs" = shared.listYaml "local:docs" := by
  have hslash : Location.parse? "LOCAL:/a/../docs/b.yaml" = some (.file "/docs/b.yaml") := by
    decide +kernel
  have hopaque : Location.parse? "local:a/../docs/b.yaml" = some (.file "a/../docs/b.yaml") := by
    decide +kernel
  have hfolder : Location.parse? "local:docs" = some (.file "docs") := by decide +kernel
  obtain ⟨-, -, hread, -, -⟩ := local_address_confined shared hslash
  obtain ⟨hrefused, -, -, -, -⟩ := local_address_confined shared hopaque
  obtain ⟨-, -, -, -, hlisted⟩ := local_address_confined shared hfolder
  refine ⟨hslash, hread cleared shared_sameBelow, by decide +kernel,
    hrefused (by decide +kernel), ?_⟩
  exact (hlisted (by decide +kernel)).2 cleared shared_sameBelow

/-- The folder above the root is listed, and the answer is a document beside the root, which reading
refuses. -/
theorem listYaml_leaves_root :
    Location.parse? "local:.." = some (.file "..") ∧
    shared.folderOnDisk? "local:.." = some "/static/.." ∧ ¬ shared.StaysBelow "/static/.." ∧
    shared.get "local:../notes.yaml" = .error (.notFound "../notes.yaml") ∧
    shared.SameBelow cleared ∧
    shared.listYaml "local:.." = .ok [("notes", .ofText "a: 1")] ∧
    (shared.onDisk cleared).listYaml "local:.." = .ok [] := by
  have hparse : Location.parse? "local:.." = some (.file "..") := by decide +kernel
  have hfolder : shared.folderOnDisk? "local:.." = some "/static/.." := by decide +kernel
  have hjoin : Path.join "/static" ".." = "/static/.." := by decide +kernel
  have hfind : shared.disk.find "/static/.." = ([], .folder) := by
    rw [← hjoin]
    exact find_above shared_place (by decide)
  have hcleared : cleared.find "/static/.." = ([], .folder) := by
    rw [← hjoin]
    exact find_above (s := shared.onDisk cleared) cleared_place (by decide)
  have hlist : shared.listDisk "/static/.." = .ok [("notes", .ofText "a: 1")] := by
    unfold listDisk
    rw [hfind]
    rfl
  have hnone : (shared.onDisk cleared).listDisk "/static/.." = .ok [] := by
    unfold listDisk
    rw [show (shared.onDisk cleared).disk = cleared from rfl, hcleared]
    rfl
  have hleaves : ¬ shared.StaysBelow "/static/.." := by
    rw [← hjoin]
    exact @not_staysBelow_above shared [] "static" shared_place (by decide)
  refine ⟨hparse, hfolder, hleaves, ?_, shared_sameBelow, ?_, ?_⟩
  · have hup : Location.parse? "local:../notes.yaml" = some (.file "../notes.yaml") := by
      decide +kernel
    rw [get_of_file hup, readLocal, confined?_of_up (by decide +kernel)]
  · unfold listYaml
    rw [hfolder]
    show shared.listDisk "/static/.." >>= _ = _
    rw [hlist]
    exact congrArg Except.ok (List.mergeSort_singleton _)
  · unfold listYaml
    rw [show (shared.onDisk cleared).folderOnDisk? "local:.." = some "/static/.." from by
      decide +kernel]
    show (shared.onDisk cleared).listDisk "/static/.." >>= _ = _
    rw [hnone]
    exact congrArg Except.ok List.mergeSort_nil

end AssetSource
end Placard
