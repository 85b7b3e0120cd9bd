/-
# Which file a local address reads

A file below the static root is asked for by `local:` and its path.  The path of an address is
percent-encoded when it is read, and what is looked up is the encoded path.  So a file is found by its
own path just if encoding leaves all parts of that path as they are (`Written`).  A file whose name has
a space in it, or a letter beyond ASCII, is not: the name that is looked up for it is another one, with
`%20` in it, and a file of that name would be read instead (`AssetSource.address_reads_file`).

| a part of the path | is looked up as |
| :-- | :-- |
| is written | itself |
| has characters that a path does not hold | the part with these encoded |
| is a dot segment spelled with `%2e` | nothing, or it takes away the part before it |

Blanks at the end of the address, and tabs and line ends, are dropped before that.
-/
import Placard.Proofs.Asset.Confined
import Placard.Proofs.Asset.Onward

namespace Placard
namespace Location

variable {c : Char} {cs part : List Char} {p : Char → Bool} {parts : List String}

/-! ## Characters that are kept -/

/-- Encoding leaves the character as it is. -/
def keeps (p : Char → Bool) (c : Char) : Bool := !(p c || decide (0x7E < c.toNat))

theorem percentEncode_of_keeps (h : ∀ c ∈ cs, keeps p c = true) : percentEncode p cs = cs := by
  induction cs with
  | nil => rfl
  | cons c cs ih =>
      obtain ⟨hc, hcs⟩ := List.forall_mem_cons.mp h
      unfold keeps at hc
      rw [Bool.not_eq_true'] at hc
      unfold percentEncode at ih ⊢
      rw [List.flatMap_cons, ih hcs, hc]
      rfl

theorem keeps_percent (b : UInt8) : ∀ c ∈ percent b, keeps isOutsidePath c = true := by
  have h : ∀ n < 256, ('%' :: (Text.hexFixed 2 n).map Char.toUpper).all (keeps isOutsidePath) =
      true := by decide +kernel
  exact List.all_eq_true.mp (h b.toNat b.toNat_lt)

theorem keeps_of_mem_percentEncode (h : c ∈ percentEncode isOutsidePath cs) :
    keeps isOutsidePath c = true := by
  obtain ⟨d, -, hc⟩ := List.mem_flatMap.mp h
  split at hc
  · obtain ⟨b, -, hb⟩ := List.mem_flatMap.mp hc
    exact keeps_percent b c hb
  · rename_i hd
    rw [List.mem_singleton.mp hc, keeps, Bool.not_eq_true', Bool.eq_false_iff]
    exact hd

/-! ## Dot segments -/

/-- The part is a dot segment, in one of its spellings. -/
def IsDots (part : List Char) : Prop := isSingleDot part = true ∨ isDoubleDot part = true

instance : Decidable (IsDots part) := instDecidableOr

/-- The spellings of dot segments, in lower case. -/
def dotSpellings : List String := [".", "%2e", "..", ".%2e", "%2e.", "%2e%2e"]

theorem isDots_iff : IsDots part ↔ ∃ s ∈ dotSpellings, part.map Char.toLower = s.toList := by
  have hof {l : List Char} {s : String} : (String.ofList l == s) = true ↔ l = s.toList := by
    rw [beq_iff_eq]
    exact ⟨fun h => by rw [← h, String.toList_ofList], fun h => by rw [h, String.ofList_toList]⟩
  unfold IsDots isSingleDot isDoubleDot dotSpellings
  simp only [Bool.or_eq_true, hof, List.mem_cons, exists_eq_or_imp, exists_eq_left,
    List.not_mem_nil, or_false, or_assoc]

/-- No octet but that of a point is spelled in a dot segment. -/
theorem percent_not_dots {b : UInt8} (hb : b ≠ 0x2E) {s : String} (hs : s ∈ dotSpellings) :
    ¬ (percent b).map Char.toLower <:+: s.toList := by
  have h : ∀ n < 256, n ≠ 0x2E → ∀ s ∈ dotSpellings,
      ¬ ('%' :: (Text.hexFixed 2 n).map Char.toUpper).map Char.toLower <:+: s.toList := by
    decide +kernel
  exact h b.toNat b.toNat_lt (fun h0 => hb (UInt8.toNat_inj.mp h0)) s hs

/-- What is encoded has an octet in it that is not that of a point. -/
theorem percent_infix (hc : c ∈ cs) (hkeeps : keeps isOutsidePath c = false) :
    ∃ b : UInt8, b ≠ 0x2E ∧ percent b <:+: percentEncode isOutsidePath cs := by
  obtain ⟨front, back, rfl⟩ := List.append_of_mem hc
  obtain ⟨b, bs, hb, hdot⟩ := octets_cons c
  unfold keeps at hkeeps
  rw [Bool.not_eq_false'] at hkeeps
  refine ⟨b, fun h => ?_, ?_⟩
  · rw [hdot h] at hkeeps
    exact absurd hkeeps (by decide)
  · unfold percentEncode
    rw [List.flatMap_append, List.flatMap_cons, if_pos hkeeps, hb, List.flatMap_cons,
      List.append_assoc, ← List.append_assoc]
    exact List.infix_append _ _ _

/-- Encoding makes no dot segments. -/
theorem isDots_percentEncode (h : IsDots (percentEncode isOutsidePath part)) : IsDots part := by
  by_cases hkeeps : ∀ c ∈ part, keeps isOutsidePath c = true
  · rwa [percentEncode_of_keeps hkeeps] at h
  · obtain ⟨c, hc, hno⟩ : ∃ c ∈ part, keeps isOutsidePath c = false := by simpa using hkeeps
    obtain ⟨b, hb, hinfix⟩ := percent_infix hc hno
    obtain ⟨s, hs, heq⟩ := isDots_iff.mp h
    exact absurd (heq ▸ hinfix.map Char.toLower) (percent_not_dots hb hs)

/-! ## Written parts -/

/-- The part stands in a path as it is: a path holds its characters, and it is no dot segment. -/
structure Written (part : String) : Prop where
  keeps : ∀ c ∈ part.toList, keeps isOutsidePath c = true
  not_dots : ¬ IsDots part.toList

instance {part : String} : Decidable (Written part) :=
  decidable_of_iff (part.toList.all (keeps isOutsidePath) = true ∧ ¬ IsDots part.toList)
    ⟨fun ⟨keeps, not_dots⟩ => ⟨List.all_eq_true.mp keeps, not_dots⟩,
      fun ⟨keeps, not_dots⟩ => ⟨List.all_eq_true.mpr keeps, not_dots⟩⟩

theorem Written.encoded_eq {part : String} (h : Written part) :
    resolveParts.encoded part.toList = part := by
  rw [resolveParts.encoded, percentEncode_of_keeps h.keeps, String.ofList_toList]

theorem encoded_written (h : ¬ IsDots part) : Written (resolveParts.encoded part) := by
  unfold resolveParts.encoded
  constructor
  · rw [String.toList_ofList]
    exact fun c hc => keeps_of_mem_percentEncode hc
  · rw [String.toList_ofList]
    exact fun hd => h (isDots_percentEncode hd)

/-! ## Addresses -/

/-- The part is one of a path without a query: it is not empty, and has no slash and nothing that
would begin a query or a fragment. -/
structure IsPart (part : String) : Prop where
  ne_empty : part ≠ ""
  slash : '/' ∉ part.toList
  query : ¬ HasQuery part.toList

instance {part : String} : Decidable (IsPart part) :=
  decidable_of_iff (part ≠ "" ∧ '/' ∉ part.toList ∧ ¬ HasQuery part.toList)
    ⟨fun ⟨ne_empty, slash, query⟩ => ⟨ne_empty, slash, query⟩,
      fun ⟨ne_empty, slash, query⟩ => ⟨ne_empty, slash, query⟩⟩

/-- Nothing of the path is dropped when its address is read, and no part of it is a dot segment. -/
structure Lasting (parts : List String) : Prop where
  blank : ∀ part ∈ parts, ∀ c ∈ part.toList, isDropped c = false
  edge : ∀ c ∈ (joinParts parts).toList.getLast?, isEdge c = false
  dots : ∀ part ∈ parts, ¬ IsDots part.toList

/-- The address of a file below the static root. -/
def address (parts : List String) : String := "local:" ++ joinParts parts

theorem joinParts_cons {part : String} :
    joinParts (part :: parts) = "/" ++ (part ++ joinParts parts) := by
  refine String.toList_inj.mp ?_
  rw [toList_joinParts, List.flatMap_cons, String.toList_append, String.toList_append,
    toList_joinParts]
  rfl

/-- The scheme is cut off, and the slash after it keeps the blanks that follow. -/
theorem parse?_local (r : String) : parse? ("local:/" ++ r) = file? ('/' :: tidyEnd r) := by
  have hscheme : "local:/".toList = "local:".toList ++ ['/'] := by decide
  obtain ⟨ds, htidy, hslash, -⟩ := tidy_append hscheme
  have hds : ds = "local:".toList := by
    have hm : tidy "local:/" = "local:".toList ++ ['/'] := by decide
    exact List.append_cancel_right (hslash.symm.trans hm)
  unfold parse?
  rw [htidy, hds]
  rfl

theorem tidyEnd_eq_self {r : String} (hblank : ∀ c ∈ r.toList, isDropped c = false)
    (hedge : ∀ c ∈ r.toList.getLast?, isEdge c = false) : tidyEnd r = r.toList := by
  have hdrop : r.toList.reverse.dropWhile isEdge = r.toList.reverse := by
    rw [← List.head?_reverse] at hedge
    cases hr : r.toList.reverse with
    | nil => rfl
    | cons c cs =>
        rw [hr] at hedge
        exact List.dropWhile_cons_of_neg (by simp [hedge c rfl])
  unfold tidyEnd
  rw [hdrop, List.reverse_reverse, List.filter_eq_self]
  intro c hc
  rw [hblank c hc]
  rfl

theorem file?_path (hhead : cs.head? ≠ some '/') (hquery : ¬ HasQuery cs) :
    file? ('/' :: cs) = some (.file (joinParts (pathParts (· == '/') ('/' :: cs)))) := by
  unfold HasQuery at hquery
  rw [not_or] at hquery
  have hbody : (cutQuery ('/' :: cs)).1 = '/' :: cs := by
    rw [cutQuery_fst, List.takeWhile_eq_self_iff]
    intro c hc
    rcases List.mem_cons.mp hc with rfl | hc
    · rfl
    · have hmark : c ≠ '?' := fun he => hquery.1 (he ▸ hc)
      have hfragment : c ≠ '#' := fun he => hquery.2 (he ▸ hc)
      simp [hmark, hfragment]
  unfold file?
  rw [hbody]
  dsimp only
  split
  · rename_i hslash
    exact absurd (congrArg List.head? (List.cons.inj hslash).2) hhead
  · rfl
  · rename_i hno
    exact absurd rfl (hno cs)

theorem resolveParts_of_not_dots {above : List String} {segments : List (List Char)}
    (h : ∀ part ∈ segments, ¬ IsDots part) :
    resolveParts above segments = above.reverse ++ segments.map resolveParts.encoded := by
  induction segments generalizing above with
  | nil => exact (List.append_nil _).symm
  | cons part rest ih =>
      obtain ⟨hpart, hrest⟩ := List.forall_mem_cons.mp h
      have henter : enter above part = resolveParts.encoded part :: above := by
        unfold IsDots at hpart
        rw [not_or] at hpart
        unfold enter
        rw [if_neg hpart.2, if_neg hpart.1]
      by_cases hnil : rest = []
      · subst hnil
        rw [resolveParts_single, henter, List.reverse_cons, if_neg (fun hd => hpart hd.symm),
          List.append_nil]
        rfl
      · rw [resolveParts_cons hnil, henter, ih hrest, List.reverse_cons, List.append_assoc]
        rfl

/-- The path of these parts without a slash before it. -/
structure IsRelative (parts : List String) (rel : String) : Prop where
  join_eq : joinParts parts = "/" ++ rel
  split_eq : Text.splitList (· == '/') rel.toList = parts.map String.toList
  head_ne : rel.toList.head? ≠ some '/'
  ne_empty : rel ≠ ""
  mem : ∀ c ∈ rel.toList, c = '/' ∨ ∃ part ∈ parts, c ∈ part.toList

theorem exists_relative (hne : parts ≠ []) (hparts : ∀ part ∈ parts, IsPart part) :
    ∃ rel, IsRelative parts rel := by
  obtain ⟨part, rest, rfl⟩ := List.exists_cons_of_ne_nil hne
  have hpart := hparts part List.mem_cons_self
  obtain ⟨d, ds, hd⟩ := List.exists_cons_of_ne_nil (String.toList_eq_nil_iff.not.mpr hpart.ne_empty)
  have hlist : (part ++ joinParts rest).toList =
      part.toList ++ rest.flatMap fun part => '/' :: part.toList := by
    rw [String.toList_append, toList_joinParts]
  refine ⟨part ++ joinParts rest, joinParts_cons, ?_, fun hhead => ?_, fun hempty => ?_,
    fun c hc => ?_⟩
  · rw [hlist, splitList_joinParts (fun q hq => (hparts q (List.mem_cons_of_mem _ hq)).slash)
      hpart.slash]
    rfl
  · rw [hlist, hd] at hhead
    obtain rfl : d = '/' := Option.some.inj hhead
    exact hpart.slash (by rw [hd]; exact List.mem_cons_self)
  · rw [String.toList_eq_nil_iff.mpr hempty, hd] at hlist
    cases hlist
  · rw [hlist, List.mem_append] at hc
    rcases hc with hc | hc
    · exact .inr ⟨part, List.mem_cons_self, hc⟩
    · obtain ⟨q, hq, hc⟩ := List.mem_flatMap.mp hc
      exact (List.mem_cons.mp hc).imp_right fun hc => ⟨q, List.mem_cons_of_mem _ hq, hc⟩

theorem IsRelative.trimStart_eq {rel : String} (h : IsRelative parts rel) :
    Text.trimStart '/' (joinParts parts) = rel := by
  have hdrop : rel.toList.dropWhile (· == '/') = rel.toList := by
    cases hr : rel.toList with
    | nil => rfl
    | cons c cs =>
        refine List.dropWhile_cons_of_neg fun hc => h.head_ne ?_
        rw [hr, beq_iff_eq.mp hc]
        rfl
  rw [h.join_eq, Text.trimStart, String.toList_append]
  change String.ofList (rel.toList.dropWhile (· == '/')) = rel
  rw [hdrop, String.ofList_toList]

theorem IsRelative.splitAt_eq {rel : String} (h : IsRelative parts rel) :
    Text.splitAt '/' rel = parts := by
  rw [Text.splitAt, h.split_eq, List.map_map,
    show String.ofList ∘ String.toList = id from funext fun s => String.ofList_toList, List.map_id]

theorem IsRelative.address_eq {rel : String} (h : IsRelative parts rel) :
    address parts = "local:/" ++ rel := by
  rw [address, h.join_eq, ← String.append_assoc]
  rfl

theorem parse?_address (hne : parts ≠ []) (hparts : ∀ part ∈ parts, IsPart part)
    (h : Lasting parts) : parse? (address parts) =
      some (.file (joinParts (parts.map fun part => resolveParts.encoded part.toList))) := by
  obtain ⟨rel, hrel⟩ := exists_relative hne hparts
  have htidy : tidyEnd rel = rel.toList := by
    refine tidyEnd_eq_self (fun c hc => ?_) fun c hc => h.edge c ?_
    · rcases hrel.mem c hc with rfl | ⟨q, hq, hc⟩
      · rfl
      · exact h.blank q hq c hc
    · rw [hrel.join_eq, String.toList_append, List.getLast?_append, Option.mem_def.mp hc]
      rfl
  have hquery : ¬ HasQuery rel.toList := by
    rintro (hc | hc)
    · rcases hrel.mem _ hc with he | ⟨q, hq, hc⟩
      · cases he
      · exact (hparts q hq).query (.inl hc)
    · rcases hrel.mem _ hc with he | ⟨q, hq, hc⟩
      · cases he
      · exact (hparts q hq).query (.inr hc)
  rw [hrel.address_eq, parse?_local, htidy, file?_path hrel.head_ne hquery]
  unfold pathParts
  rw [List.drop_one, List.tail_cons, hrel.split_eq, resolveParts_of_not_dots, List.map_map]
  · rfl
  · intro segment hsegment
    obtain ⟨q, hq, rfl⟩ := List.mem_map.mp hsegment
    exact h.dots q hq

/-- A character that a path holds is dropped nowhere. -/
theorem keeps_lasting (h : keeps isOutsidePath c = true) :
    isDropped c = false ∧ isEdge c = false := by
  unfold keeps isOutsidePath isControl at h
  simp only [Bool.not_eq_true', Bool.or_eq_false_iff, decide_eq_false_iff_not] at h
  obtain ⟨⟨⟨hcontrol, -⟩, houtside⟩, -⟩ := h
  have hspace : c.toNat ≠ 0x20 := fun he => by
    obtain rfl : c = ' ' := Char.toNat_inj.mp he
    exact absurd houtside (by decide)
  constructor
  · by_contra hd
    rw [Bool.not_eq_false, isDropped] at hd
    simp only [Bool.or_eq_true, beq_iff_eq] at hd
    rcases hd with (rfl | rfl) | rfl
    · exact hcontrol (by decide)
    · exact hcontrol (by decide)
    · exact hcontrol (by decide)
  · rw [isEdge, decide_eq_false_iff_not]
    omega

/-- A path whose parts are written loses nothing. -/
theorem lasting_of_written (h : ∀ part ∈ parts, Written part) : Lasting parts where
  blank part hpart c hc := (keeps_lasting ((h part hpart).keeps c hc)).1
  edge c hc := by
    have hmem : c ∈ (joinParts parts).toList := List.mem_of_getLast? hc
    rw [toList_joinParts] at hmem
    obtain ⟨part, hpart, hc⟩ := List.mem_flatMap.mp hmem
    rcases List.mem_cons.mp hc with rfl | hc
    · rfl
    · exact (keeps_lasting ((h part hpart).keeps c hc)).2
  dots part hpart := (h part hpart).not_dots

/-- A path whose parts are written is read as it is. -/
theorem parse?_written (hne : parts ≠ []) (hparts : ∀ part ∈ parts, IsPart part)
    (hwritten : ∀ part ∈ parts, Written part) :
    parse? (address parts) = some (.file (joinParts parts)) := by
  rw [parse?_address hne hparts (lasting_of_written hwritten),
    List.map_congr_left fun part hpart => (hwritten part hpart).encoded_eq, List.map_id']

theorem isPart_encoded {part : String} (h : IsPart part) :
    IsPart (resolveParts.encoded part.toList) := by
  have hkeeps {c : Char} (hc : c ∈ percentEncode isOutsidePath part.toList) :
      keeps isOutsidePath c = true := keeps_of_mem_percentEncode hc
  constructor
  · intro hempty
    have hnil : percentEncode isOutsidePath part.toList = [] := by
      rw [← String.toList_ofList (l := percentEncode isOutsidePath part.toList)]
      exact String.toList_eq_nil_iff.mpr hempty
    have hno : '%' ∉ percentEncode isOutsidePath part.toList := hnil ▸ List.not_mem_nil
    have hself := percentEncode_eq_self hno
    exact h.ne_empty (String.toList_eq_nil_iff.mp (hself.symm.trans hnil))
  · rw [resolveParts.encoded, String.toList_ofList]
    exact slash_not_mem_percentEncode h.slash
  · rw [resolveParts.encoded, String.toList_ofList]
    rintro (hc | hc)
    · exact absurd (hkeeps hc) (by decide)
    · exact absurd (hkeeps hc) (by decide)

theorem parse?_encoded (hne : parts ≠ []) (hparts : ∀ part ∈ parts, IsPart part)
    (h : Lasting parts) : parse? (address parts) =
      parse? (address (parts.map fun part => resolveParts.encoded part.toList)) := by
  rw [parse?_address hne hparts h, parse?_written (List.map_eq_nil_iff.not.mpr hne)]
  · intro q hq
    obtain ⟨part, hpart, rfl⟩ := List.mem_map.mp hq
    exact isPart_encoded (hparts part hpart)
  · intro q hq
    obtain ⟨part, hpart, rfl⟩ := List.mem_map.mp hq
    exact encoded_written (h.dots part hpart)

/-- The path of an address that begins with a slash has written parts, and empty ones. -/
theorem written_of_parse? {r path : String} (h : parse? ("local:/" ++ r) = some (.file path)) :
    ∀ part ∈ Text.splitAt '/' path, part = "" ∨ Written part := by
  rw [parse?_local] at h
  have hall : ∀ ds, ∀ part ∈ pathParts (· == '/') ds, part = "" ∨ Written part := fun ds =>
    resolveParts_forall (.inl rfl) (fun a ha => absurd ha List.not_mem_nil)
      fun part _ hup hdot => .inr (encoded_written fun hd => hd.elim hdot hup)
  rcases file?_cases h with rfl | ⟨ds, rfl⟩ | ⟨hhead, -⟩
  · exact fun part hpart => .inl (List.mem_singleton.mp hpart)
  · rw [splitAt_joinParts fun part hpart => (pathParts_staysInside ds part hpart).1]
    exact List.forall_mem_cons.mpr ⟨.inl rfl, hall ds⟩
  · rw [cutQuery_fst] at hhead
    exact absurd rfl hhead

end Location

/-! ## The file of an address -/

namespace AssetSource
open Location

variable {s : AssetSource} {root place : Path} {parts : List String} {content : Payload}
  {uri : String}

/-- The file that a local address is read from. -/
def readFrom? (s : AssetSource) (uri : String) : Option Path :=
  match parse? uri with
  | some (.file path) =>
    (s.confined? path).bind fun below =>
      match s.disk.find below with
      | (place, .file _) => some place
      | _ => none
  | _ => none

theorem readFrom?_of_file {path : String} (h : parse? uri = some (.file path)) :
    s.readFrom? uri = (s.confined? path).bind fun below =>
      match s.disk.find below with
      | (place, .file _) => some place
      | _ => none := by
  unfold readFrom?
  rw [h]

theorem readFrom?_eq_some (h : s.readFrom? uri = some place) : ∃ path below content,
    parse? uri = some (.file path) ∧ s.confined? path = some below ∧
      s.disk.find below = (place, .file content) := by
  unfold readFrom? at h
  split at h
  · rename_i path hparse
    obtain ⟨below, hbelow, hfound⟩ := Option.bind_eq_some_iff.mp h
    split at hfound
    · rename_i found content hfind
      cases hfound
      exact ⟨path, below, content, hparse, hbelow, hfind⟩
    · cases hfound
  · cases h

theorem readLocal_eq_ok {path : String} (h : s.readLocal path = .ok content) :
    ∃ below place, s.confined? path = some below ∧ s.disk.find below = (place, .file content) := by
  unfold readLocal at h
  cases hc : s.confined? path with
  | none =>
      rw [hc] at h
      cases h
  | some below =>
      rw [hc] at h
      dsimp only [Disk.entry] at h
      cases hf : s.disk.find below with
      | mk place entry =>
          rw [hf] at h
          cases entry with
          | file c =>
              cases h
              exact ⟨below, place, rfl, hf⟩
          | folder => cases h
          | missing => cases h
          | blocked => cases h

/-- What is asked for by a local address is the content of that file, or it is bundled. -/
theorem get_eq_ok (hweb : ∀ a, parse? uri ≠ some (.web a)) (h : s.get uri = .ok content) :
    (∃ place, s.readFrom? uri = some place ∧ s.disk.tree.entry place = .file content) ∨
      parse? uri = none ∧ s.readBundled uri = .ok content := by
  cases hparse : parse? uri with
  | none =>
      unfold get at h
      rw [hparse] at h
      exact .inr ⟨rfl, h⟩
  | some location =>
      cases location with
      | web a => exact absurd hparse (hweb a)
      | file path =>
          rw [get_of_file hparse] at h
          obtain ⟨below, place, hbelow, hfind⟩ := readLocal_eq_ok h
          refine .inl ⟨place, ?_, Disk.entry_of_find hfind⟩
          rw [readFrom?_of_file hparse, hbelow, Option.bind_some, hfind]

theorem isSome_plain? {rel : String} (hrel : IsRelative parts rel)
    (hparts : ∀ part ∈ parts, IsPart part) (hwritten : ∀ part ∈ parts, Written part) :
    (Path.plain? rel).isSome := by
  have hnames : parts.filter (· ≠ "") = parts :=
    List.filter_eq_self.mpr fun part hpart => decide_eq_true (hparts part hpart).ne_empty
  have hup : "." ∉ parts ∧ ".." ∉ parts :=
    ⟨fun hmem => (hwritten _ hmem).not_dots (by decide),
      fun hmem => (hwritten _ hmem).not_dots (by decide)⟩
  unfold Path.plain?
  rw [hrel.splitAt_eq, hnames, if_neg (not_or.mpr ⟨fun h => hup.1 (List.mem_of_head? h), hup.2⟩)]
  rfl

theorem no_nul {rel : String} (hrel : IsRelative parts rel)
    (hwritten : ∀ part ∈ parts, Written part) : rel.toList.any (· == '\x00') = false := by
  rw [List.any_eq_false]
  intro c hc he
  obtain rfl := beq_iff_eq.mp he
  rcases hrel.mem _ hc with he | ⟨part, hpart, hc⟩
  · cases he
  · exact absurd ((hwritten part hpart).keeps _ hc) (by decide)

/-- A path whose parts are written is looked up as it is. -/
theorem find_written (hroot : s.disk.place s.staticRoot = (root, .folder))
    (hnul : s.staticRoot.toList.any (· == '\x00') = false) (hne : parts ≠ [])
    (hparts : ∀ part ∈ parts, IsPart part) (hwritten : ∀ part ∈ parts, Written part) :
    ∃ below, s.confined? (joinParts parts) = some below ∧
      s.disk.find below = Disk.walk s.disk.tree root parts := by
  obtain ⟨rel, hrel⟩ := exists_relative hne hparts
  obtain ⟨place, hplace⟩ := Option.isSome_iff_exists.mp (isSome_plain? hrel hparts hwritten)
  obtain ⟨before, hjoin, hbefore⟩ := Path.join_eq_append s.staticRoot rel (p := (· == '\x00'))
    (by decide)
  refine ⟨Path.join s.staticRoot rel, ?_, ?_⟩
  · unfold confined?
    rw [hrel.trimStart_eq]
    dsimp only
    rw [hplace, Option.map_some]
  · have hempty : ¬ (Path.join s.staticRoot rel).isEmpty = true := fun hempty =>
      hrel.ne_empty (String.append_eq_empty_iff.mp (hjoin ▸ String.isEmpty_iff.mp hempty)).2
    have hclean : ¬ (Path.join s.staticRoot rel).toList.any (· == '\x00') = true := by
      rw [hjoin, String.toList_append, List.any_append, hbefore, hnul, no_nul hrel hwritten]
      decide
    rw [Disk.find_eq, if_neg hempty, if_neg hclean, Disk.place_join _ _ hrel.head_ne, hroot,
      hrel.splitAt_eq]
    rfl

theorem get_written (hroot : s.disk.place s.staticRoot = (root, .folder))
    (hnul : s.staticRoot.toList.any (· == '\x00') = false) (hne : parts ≠ [])
    (hparts : ∀ part ∈ parts, IsPart part) (hwritten : ∀ part ∈ parts, Written part)
    (hfile : Disk.walk s.disk.tree root parts = (root ++ parts, .file content)) :
    s.readFrom? (address parts) = some (root ++ parts) ∧ s.get (address parts) = .ok content := by
  have hparse := parse?_written hne hparts hwritten
  obtain ⟨below, hbelow, hfind⟩ := find_written hroot hnul hne hparts hwritten
  rw [hfile] at hfind
  rw [readFrom?_of_file hparse, get_of_file hparse, readLocal, hbelow, Option.bind_some]
  dsimp only [Disk.entry]
  rw [hfind]
  exact ⟨rfl, rfl⟩

/-- What a local address reads has a path whose parts are written. -/
theorem written_of_readFrom? {r : String} (hroot : s.disk.place s.staticRoot = (root, .folder))
    (h : s.readFrom? ("local:/" ++ r) = some (root ++ parts)) : ∀ part ∈ parts, Written part := by
  obtain ⟨path, below, content, hparse, hbelow, hfind⟩ := readFrom?_eq_some h
  obtain ⟨rfl, hup⟩ := confined?_eq_some hbelow
  rw [Disk.find_eq] at hfind
  split at hfind
  · cases (Prod.mk.inj hfind).2
  · split at hfind
    · cases (Prod.mk.inj hfind).2
    · -- the parts that lead to a file are those of the path, as it has been read
      rw [Disk.place_join _ _ Text.trimStart_head, hroot] at hfind
      obtain ⟨place, hplace, hall⟩ := @Disk.walk_place s.disk.tree root _ hup
      have hsame : root ++ parts = root ++ place := (congrArg Prod.fst hfind).symm.trans hplace
      obtain rfl := List.append_cancel_left hsame
      intro part hpart
      obtain ⟨hmem, hne⟩ := hall part hpart
      exact (written_of_parse? hparse part ((Text.mem_splitAt_trimStart hne).mp hmem)).resolve_left
        hne

theorem get_encoded (hne : parts ≠ []) (hparts : ∀ part ∈ parts, IsPart part) (h : Lasting parts) :
    s.get (address parts) =
      s.get (address (parts.map fun part => resolveParts.encoded part.toList)) := by
  have hparse := parse?_address hne hparts h
  rw [get_of_file hparse, get_of_file ((parse?_encoded hne hparts h).symm.trans hparse)]

/-- Which file is read by the address of a file below the static root.  It is that file just if all
parts of its path are written.  If they are not then another file is read, or none, or a bundled one
if the address turns out to be no address: if nothing is dropped of the path and there are no dot
segments in it, what is read is what the address of the encoded path reads. -/
theorem address_reads_file (hroot : s.disk.place s.staticRoot = (root, .folder))
    (hnul : s.staticRoot.toList.any (· == '\x00') = false) (hne : parts ≠ [])
    (hparts : ∀ part ∈ parts, IsPart part)
    (hfile : Disk.walk s.disk.tree root parts = (root ++ parts, .file content)) :
    (s.readFrom? (address parts) = some (root ++ parts) ↔ ∀ part ∈ parts, Written part) ∧
      ((∀ part ∈ parts, Written part) → s.get (address parts) = .ok content) ∧
      (∀ read, s.get (address parts) = .ok read →
        (∃ place, s.readFrom? (address parts) = some place ∧
          s.disk.tree.entry place = .file read) ∨
        parse? (address parts) = none ∧ s.readBundled (address parts) = .ok read) ∧
      (Lasting parts → s.get (address parts) =
        s.get (address (parts.map fun part => resolveParts.encoded part.toList))) := by
  obtain ⟨rel, hrel⟩ := exists_relative hne hparts
  have hwritten := fun h => get_written hroot hnul hne hparts h hfile
  refine ⟨⟨fun h => ?_, fun h => (hwritten h).1⟩, fun h => (hwritten h).2, fun read h => ?_,
    get_encoded hne hparts⟩
  · rw [hrel.address_eq] at h
    exact written_of_readFrom? hroot h
  · refine get_eq_ok (fun a => ?_) h
    rw [hrel.address_eq, parse?_local]
    exact file?_ne_web

/-- Two files below a root of the same name, but for a space that one of them has encoded. -/
def spaced : AssetSource :=
  { ofPictures [] with
    disk := ⟨⟨[(["docs", "a b.txt"], .ofText "one"), (["docs", "a%20b.txt"], .ofText "two")], []⟩,
      []⟩ }

theorem spaced_place : spaced.disk.place spaced.staticRoot = ([], .folder) := by
  unfold Disk.place Disk.start
  rw [Text.startsWith_slash]
  rfl

theorem address_reads_file_of_spaced :
    let parts := ["docs", "a%20b.txt"]
    spaced.disk.place spaced.staticRoot = ([], .folder) ∧
    spaced.staticRoot.toList.any (· == '\x00') = false ∧
    (∀ part ∈ parts, IsPart part) ∧ (∀ part ∈ parts, Written part) ∧
    Disk.walk spaced.disk.tree [] parts = ([] ++ parts, .file (.ofText "two")) ∧
    spaced.readFrom? "local:/docs/a%20b.txt" = some parts ∧
    spaced.get "local:/docs/a%20b.txt" = .ok (.ofText "two") := by
  intro parts
  have hnul : spaced.staticRoot.toList.any (· == '\x00') = false := by decide
  have hparts : ∀ part ∈ parts, IsPart part := by decide
  have hwritten : ∀ part ∈ parts, Written part := by decide +kernel
  have hfile : Disk.walk spaced.disk.tree [] parts = ([] ++ parts, .file (.ofText "two")) := by
    rfl
  obtain ⟨hiff, hget, -, -⟩ := address_reads_file spaced_place hnul (by decide) hparts hfile
  have haddress : address parts = "local:/docs/a%20b.txt" := by decide +kernel
  rw [haddress] at hiff hget
  exact ⟨spaced_place, hnul, hparts, hwritten, hfile, hiff.mpr hwritten, hget hwritten⟩

/-- The address of a file reads another one. -/
theorem address_reads_other_file :
    spaced.disk.place spaced.staticRoot = ([], .folder) ∧
    (∀ part ∈ ["docs", "a b.txt", "a%20b.txt"], IsPart part) ∧
    Disk.walk spaced.disk.tree [] ["docs", "a b.txt"] =
      (["docs", "a b.txt"], .file (.ofText "one")) ∧
    Disk.walk spaced.disk.tree [] ["docs", "a%20b.txt"] =
      (["docs", "a%20b.txt"], .file (.ofText "two")) ∧
    address ["docs", "a b.txt"] = "local:/docs/a b.txt" ∧
    spaced.get "local:/docs/a b.txt" = .ok (.ofText "two") ∧
    Payload.ofText "one" ≠ Payload.ofText "two" := by
  have hother : Disk.walk spaced.disk.tree [] ["docs", "a%20b.txt"] =
      (["docs", "a%20b.txt"], .file (.ofText "two")) := by
    rfl
  have hwritten : ∀ part ∈ ["docs", "a%20b.txt"], Written part := by decide +kernel
  have hget : spaced.get (address ["docs", "a%20b.txt"]) = .ok (.ofText "two") :=
    (get_written spaced_place (by decide) (by decide) (by decide) hwritten hother).2
  have hspace : parse? "local:/docs/a b.txt" = some (.file "/docs/a%20b.txt") := by decide +kernel
  have hencoded : parse? (address ["docs", "a%20b.txt"]) = some (.file "/docs/a%20b.txt") := by
    decide +kernel
  refine ⟨spaced_place, by decide, by rfl, hother, by decide +kernel, ?_, fun h => ?_⟩
  · rw [get_of_file hspace, ← get_of_file hencoded]
    exact hget
  · exact absurd (Payload.octets.inj h) (by decide)

end AssetSource
end Placard
