/-
# Following a path

A path is followed part by part.  Two facts about that carry what is known of places below a folder.

| | |
| :-- | :-- |
| a path after another one | is followed from where the first one leads (`Disk.walk_append`) |
| a path none of whose parts is `..` | stays below the folder it is followed from (`Disk.walk_below`) |

A path that stays below a folder leads to the same place on every disk that has the same at that
folder and below it, and the place is made of parts of the path (`Disk.walk_place`).  The parts of a
path are those between its slashes, so that a path joined to a folder is followed from where that one
leads (`Disk.place_join`).
-/
import Mathlib.Data.List.Infix
import Placard.Asset.Source
import Placard.Proofs.Text.Parts

namespace Placard

/-! ## Parts -/

namespace Text

/-- Leading separators make empty parts only. -/
theorem mem_splitAt_trimStart {sep : Char} {s part : String} (hpart : part ≠ "") :
    part ∈ splitAt sep (trimStart sep s) ↔ part ∈ splitAt sep s := by
  unfold splitAt trimStart
  rw [String.toList_ofList]
  generalize s.toList = cs
  induction cs with
  | nil => rfl
  | cons c cs ih =>
      rw [List.dropWhile_cons]
      split
      · rename_i hc
        rw [splitList_cons (p := (· == sep)) hc, List.map_cons, List.mem_cons, ih]
        exact (or_iff_right hpart).symm
      · rfl

theorem trimStart_head {sep : Char} {s : String} :
    (trimStart sep s).toList.head? ≠ some sep := by
  unfold trimStart
  rw [String.toList_ofList]
  intro h
  have hhead := List.head?_dropWhile_not (· == sep) s.toList
  rw [h] at hhead
  simp at hhead

theorem endsWith_slash {s : String} (h : s.endsWith "/" = true) :
    ∃ cs, s.toList = cs ++ ['/'] := by
  have hends := String.Slice.endsWith_string_iff.mp
    (show s.toSlice.endsWith "/" = true from h)
  rw [String.copy_toSlice] at hends
  obtain ⟨cs, hcs⟩ := hends
  exact ⟨cs, hcs.symm⟩

theorem startsWith_slash {s : String} : s.startsWith "/" = (s.toList.head? == some '/') := by
  rw [Bool.eq_iff_iff, String.startsWith_string_iff, beq_iff_eq]
  cases s.toList with
  | nil => simp
  | cons c cs => simp [List.cons_prefix_cons, eq_comm]

end Text

theorem FileTree.entry_eq_file {t : FileTree} {p : Path} {content : Payload} :
    t.entry p = .file content ↔ t.files.lookup p = some content := by
  unfold entry
  cases t.files.lookup p with
  | some content' => simp
  | none =>
      refine iff_of_false (fun h => ?_) (fun h => by cases h)
      dsimp only at h
      split at h
      · cases h
      · cases h

/-- A path that is joined to a folder has the parts of both; a slash at the end of the folder makes
no part of its own. -/
theorem Path.splitAt_join (root rel : String) :
    ∃ parts, (Text.splitAt '/' root = parts ∨ Text.splitAt '/' root = parts ++ [""]) ∧
      Text.splitAt '/' (join root rel) = parts ++ Text.splitAt '/' rel := by
  unfold join
  by_cases hempty : root.isEmpty = true
  · rw [if_pos hempty]
    refine ⟨[], Or.inr ?_, rfl⟩
    rw [String.isEmpty_iff.mp hempty]
    rfl
  · rw [if_neg hempty]
    by_cases hslash : root.endsWith "/" = true
    · rw [if_pos hslash]
      obtain ⟨cs, hcs⟩ := Text.endsWith_slash hslash
      refine ⟨(Text.splitList (· == '/') cs).map String.ofList, Or.inr ?_, ?_⟩
      · rw [Text.splitAt, hcs, Text.splitList_append (by rfl), List.map_append]
        rfl
      · rw [Text.splitAt, String.toList_append, hcs, List.append_assoc, List.singleton_append,
          Text.splitList_append (by rfl), List.map_append]
        rfl
    · rw [if_neg hslash]
      refine ⟨_, Or.inl rfl, ?_⟩
      rw [Text.splitAt, String.toList_append, String.toList_append, List.append_assoc,
        show "/".toList = ['/'] from rfl, List.singleton_append, Text.splitList_append (by rfl),
        List.map_append]
      rfl

/-- Before a path that is joined to a folder there is the folder, and at most a slash. -/
theorem Path.join_eq_append (folder rest : String) {p : Char → Bool} (hslash : p '/' = false) :
    ∃ before, join folder rest = before ++ rest ∧ before.toList.any p = folder.toList.any p := by
  unfold join
  split
  · rename_i hempty
    exact ⟨"", String.empty_append.symm, by rw [String.isEmpty_iff.mp hempty]⟩
  · split
    · exact ⟨folder, rfl, rfl⟩
    · refine ⟨folder ++ "/", rfl, ?_⟩
      rw [String.toList_append, List.any_append, show "/".toList = ['/'] from rfl]
      simp [hslash]

theorem Path.startsWith_join {root rel : String} (hrel : rel.toList.head? ≠ some '/') :
    (join root rel).startsWith "/" = root.startsWith "/" := by
  rw [Text.startsWith_slash, Text.startsWith_slash]
  unfold join
  by_cases hempty : root.isEmpty = true
  · rw [if_pos hempty, String.isEmpty_iff.mp hempty]
    simpa using hrel
  · rw [if_neg hempty]
    have hne : root.toList ≠ [] := fun h =>
      hempty (String.isEmpty_iff.mpr (String.toList_eq_nil_iff.mp h))
    split
    · rw [String.toList_append, List.head?_append_of_ne_nil _ hne]
    · rw [String.toList_append, String.toList_append, List.append_assoc,
        List.head?_append_of_ne_nil _ hne]

namespace Disk

variable {t t' : FileTree} {folder root : Path} {as bs parts : List String}

/-- Where one goes on to from a place: only a folder leads further. -/
def onward (t : FileTree) (place : Path × Entry) (parts : List String) : Path × Entry :=
  match place.2 with
  | .folder => walk t place.1 parts
  | .file _ => (place.1, .blocked)
  | entry => (place.1, entry)

theorem walk_append (h : bs ≠ []) :
    walk t folder (as ++ bs) = onward t (walk t folder as) bs := by
  induction as generalizing folder with
  | nil => rfl
  | cons part as ih =>
      rw [List.cons_append, walk, walk]
      split
      · exact ih
      · split
        · exact ih
        · split
          · rfl
          · dsimp only
            cases t.entry (folder ++ [part]) with
            | folder => exact ih
            | file content =>
                -- a file is found only by the last part, and blocks what comes after it
                cases as with
                | nil =>
                    show (if bs.isEmpty = true then _ else _) = _
                    rw [if_neg (by simpa using h)]
                    rfl
                | cons a as => rfl
            | missing => rfl
            | blocked => rfl

theorem onward_blank (place : Path × Entry) :
    onward t (onward t place [""]) bs = onward t place bs := by
  obtain ⟨r, entry⟩ := place
  cases entry <;> rfl

/-- A path without a part that leads upwards stays below the folder it is followed from, and what is
there is all that it depends on. -/
theorem walk_below (h : ∀ p, root <+: p → t'.entry p = t.entry p) (hfolder : root <+: folder)
    (hup : ".." ∉ parts) :
    root <+: (walk t folder parts).1 ∧ walk t' folder parts = walk t folder parts := by
  induction parts generalizing folder with
  | nil => exact ⟨hfolder, rfl⟩
  | cons part rest ih =>
      have hpart : part ≠ ".." := fun he => hup (he ▸ List.mem_cons_self)
      have hrest : ".." ∉ rest := fun hr => hup (List.mem_cons_of_mem _ hr)
      have hpath : root <+: folder ++ [part] := hfolder.trans (List.prefix_append _ _)
      rw [walk, walk]
      by_cases hblank : part = "" ∨ part = "."
      · rw [if_pos hblank, if_pos hblank]
        exact ih hfolder hrest
      · rw [if_neg hblank, if_neg hblank, if_neg hpart, if_neg hpart]
        split
        · exact ⟨hfolder, rfl⟩
        · dsimp only
          rw [h _ hpath]
          cases t.entry (folder ++ [part]) with
          | folder => exact ih hpath hrest
          | file content =>
              dsimp only
              split
              · exact ⟨hpath, rfl⟩
              · exact ⟨hpath, rfl⟩
          | missing => exact ⟨hpath, rfl⟩
          | blocked => exact ⟨hpath, rfl⟩

/-- Going on stays below a folder if no part leads upwards, and what is there is all that it depends
on. -/
theorem onward_below {place : Path × Entry} (h : ∀ p, place.1 <+: p → t'.entry p = t.entry p)
    (hup : ".." ∉ parts) :
    place.1 <+: (onward t place parts).1 ∧ onward t' place parts = onward t place parts := by
  obtain ⟨r, entry⟩ := place
  cases entry with
  | folder => exact walk_below h List.prefix_rfl hup
  | file content => exact ⟨List.prefix_rfl, rfl⟩
  | missing => exact ⟨List.prefix_rfl, rfl⟩
  | blocked => exact ⟨List.prefix_rfl, rfl⟩

/-- A path none of whose parts leads upwards leads to a place whose parts are parts of the path. -/
theorem walk_place (hup : ".." ∉ parts) :
    ∃ place, (walk t folder parts).1 = folder ++ place ∧
      ∀ part ∈ place, part ∈ parts ∧ part ≠ "" := by
  induction parts generalizing folder with
  | nil => exact ⟨[], (List.append_nil _).symm, fun part hp => absurd hp List.not_mem_nil⟩
  | cons part rest ih =>
      have hpart : part ≠ ".." := fun he => hup (he ▸ List.mem_cons_self)
      have hrest : ".." ∉ rest := fun hr => hup (List.mem_cons_of_mem _ hr)
      rw [walk]
      by_cases hblank : part = "" ∨ part = "."
      · rw [if_pos hblank]
        obtain ⟨place, heq, hall⟩ := @ih folder hrest
        exact ⟨place, heq, fun p hp => ⟨List.mem_cons_of_mem _ (hall p hp).1, (hall p hp).2⟩⟩
      · have hone : ∀ p ∈ [part], p ∈ part :: rest ∧ p ≠ "" := fun p hp => by
          rw [List.mem_singleton.mp hp]
          exact ⟨List.mem_cons_self, fun he => hblank (.inl he)⟩
        rw [if_neg hblank, if_neg hpart]
        split
        · exact ⟨[], (List.append_nil _).symm, fun part hp => absurd hp List.not_mem_nil⟩
        · dsimp only
          cases t.entry (folder ++ [part]) with
          | folder =>
              obtain ⟨place, heq, hall⟩ := @ih (folder ++ [part]) hrest
              refine ⟨part :: place, by rw [heq, List.append_assoc]; rfl, fun p hp => ?_⟩
              rcases List.mem_cons.mp hp with rfl | hp
              · exact hone p (List.mem_singleton.mpr rfl)
              · exact ⟨List.mem_cons_of_mem _ (hall p hp).1, (hall p hp).2⟩
          | file content =>
              dsimp only
              split
              · exact ⟨[part], rfl, hone⟩
              · exact ⟨[part], rfl, hone⟩
          | missing => exact ⟨[part], rfl, hone⟩
          | blocked => exact ⟨[part], rfl, hone⟩

/-- A file that a path leads to stands where it leads. -/
theorem entry_of_walk {place : Path} {content : Payload}
    (h : walk t folder parts = (place, .file content)) : t.entry place = .file content := by
  induction parts generalizing folder with
  | nil => cases h
  | cons part rest ih =>
      rw [walk] at h
      split at h
      · exact ih h
      · split at h
        · exact ih h
        · split at h
          · cases h
          · dsimp only at h
            split at h
            · exact ih h
            · rename_i hentry
              split at h
              · cases h
                exact hentry
              · cases h
            · obtain ⟨hplace, hentry⟩ := Prod.mk.inj h
              rw [← hplace, hentry]

/-- The folder that a path is followed from. -/
def start (d : Disk) (path : String) : Path := if path.startsWith "/" then [] else d.here

/-- Where a folder on the disk is, and what stands there. -/
def place (d : Disk) (folder : String) : Path × Entry :=
  walk d.tree (d.start folder) (Text.splitAt '/' folder)

/-- A path is followed, unless it is empty or no system takes it. -/
theorem find_eq (d : Disk) (path : String) :
    d.find path = if path.isEmpty then ([], .missing)
      else if path.toList.any (· == '\x00') then ([], .blocked) else d.place path := rfl

/-- A path that is joined to a folder is followed from where that one is. -/
theorem place_join (d : Disk) (folder : String) {rel : String} (hrel : rel.toList.head? ≠ some '/') :
    d.place (Path.join folder rel) = onward d.tree (d.place folder) (Text.splitAt '/' rel) := by
  have hstart : d.start (Path.join folder rel) = d.start folder := by
    unfold start
    rw [Path.startsWith_join hrel]
  obtain ⟨parts, hfolder, hjoin⟩ := Path.splitAt_join folder rel
  unfold place
  rw [hstart, hjoin, walk_append Text.splitAt_ne_nil]
  rcases hfolder with hf | hf
  · rw [hf]
  · -- the slash at the end of the folder makes a part that leads nowhere
    rw [hf, walk_append (List.cons_ne_nil _ _), onward_blank]

theorem entry_of_find {d : Disk} {path : String} {place : Path} {content : Payload}
    (h : d.find path = (place, .file content)) : d.tree.entry place = .file content := by
  rw [find_eq] at h
  split at h
  · cases h
  · split at h
    · cases h
    · exact entry_of_walk h

end Disk
end Placard
