/-
# Addresses that go on from another one

A text is put after an address that ends in a slash, and the two are read as one address.  Scheme,
host and number of it are those of the first one, since the slash ends them.  The path goes on from
where the first one stops, and a dot segment may lead up into it:

| the first address | the path of both |
| :-- | :-- |
| has a query or a fragment | is that of the first one |
| has none | is that of the first one, less a part for every climb, and then the rest (`goOn`) |

A climb is a part `..` that finds nothing above it but what it goes on from (`climbs`).  All this holds
if the first text is an address, with a host after its scheme.  If it is none, then neither are both
(`Location.web_of_append`), unless nothing but slashes follows the scheme: they would be passed over,
and the host be taken from what is put after them.
-/
import Mathlib.Data.List.DropRight
import Placard.Proofs.Asset.Walk

namespace Placard
namespace Location

/-! ## Dot segments -/

variable {above base : List String} {part : List Char} {as bs : List (List Char)}

/-- What is above the next part of a path, last one first. -/
def enter (above : List String) (part : List Char) : List String :=
  if isDoubleDot part then above.drop 1
  else if isSingleDot part then above
  else resolveParts.encoded part :: above

/-- How many parts `..` of a path lead above where it goes on from. -/
def climbs : (above : List String) → List (List Char) → Nat
  | _, [] => 0
  | above, part :: rest =>
    (if isDoubleDot part ∧ above = [] then 1 else 0) + climbs (enter above part) rest

theorem resolveParts_cons (h : bs ≠ []) :
    resolveParts above (part :: bs) = resolveParts (enter above part) bs := by
  rw [resolveParts.eq_def]
  cases bs with
  | nil => exact absurd rfl h
  | cons b bs =>
      unfold enter
      dsimp only
      split
      · rfl
      · split <;> rfl

theorem resolveParts_append (h : bs ≠ []) :
    resolveParts above (as ++ bs) = resolveParts (as.foldl enter above) bs := by
  induction as generalizing above with
  | nil => rfl
  | cons a as ih =>
      rw [List.cons_append, resolveParts_cons (by simp [h]), ih]
      rfl

theorem resolveParts_single :
    resolveParts above [part] =
      (enter above part).reverse ++
        if isDoubleDot part = true ∨ isSingleDot part = true then [""] else [] := by
  by_cases hup : isDoubleDot part = true
  · simp [resolveParts, enter, hup]
  · by_cases hdot : isSingleDot part = true
    · simp [resolveParts, enter, hup, hdot]
    · simp [resolveParts, enter, hup, hdot]

/-- A part leads into what a path goes on from only by a climb. -/
theorem enter_append :
    enter (above ++ base) part =
      enter above part ++ base.drop (if isDoubleDot part ∧ above = [] then 1 else 0) := by
  by_cases hup : isDoubleDot part = true
  · cases above with
    | nil => simp [enter, hup]
    | cons a above => simp [enter, hup]
  · by_cases hdot : isSingleDot part = true
    · simp [enter, hup, hdot]
    · simp [enter, hup, hdot]

/-- A path that goes on from another one loses a part of that for every climb. -/
theorem resolveParts_onward :
    resolveParts (above ++ base) bs =
      (base.drop (climbs above bs)).reverse ++ resolveParts above bs := by
  induction bs generalizing above base with
  | nil => simp [resolveParts, climbs]
  | cons part bs ih =>
      by_cases hbs : bs = []
      · subst hbs
        rw [resolveParts_single, resolveParts_single, enter_append, List.reverse_append,
          List.append_assoc]
        rfl
      · rw [resolveParts_cons hbs, resolveParts_cons hbs, enter_append, ih, List.drop_drop]
        rfl

theorem resolveParts_ne_nil (h : bs ≠ []) : resolveParts above bs ≠ [] := by
  induction bs generalizing above with
  | nil => exact absurd rfl h
  | cons part bs ih =>
      by_cases hbs : bs = []
      · subst hbs
        rw [resolveParts_single]
        by_cases hdot : isDoubleDot part = true ∨ isSingleDot part = true
        · simp [hdot]
        · rw [not_or] at hdot
          simp [enter, hdot]
      · rw [resolveParts_cons hbs]
        exact ih hbs

/-- The path that goes on from the folder of another one. -/
def goOn (path : List String) (parts : List (List Char)) : List String :=
  path.dropLast.rdrop (climbs [] parts) ++ resolveParts [] parts

/-! ## Paths -/

variable {isSlash : Char → Bool} {cs ds : List Char}

theorem pathParts_append (hs : isSlash '/' = true) :
    pathParts isSlash (cs ++ '/' :: ds) =
      goOn (pathParts isSlash (cs ++ ['/'])) (Text.splitList isSlash ds) := by
  have hparts : ∃ parts, ∀ ds, Text.splitList isSlash ((cs ++ '/' :: ds).drop 1) =
      parts ++ Text.splitList isSlash ds := by
    cases cs with
    | nil => exact ⟨[], fun ds => rfl⟩
    | cons c cs => exact ⟨Text.splitList isSlash cs, fun ds => Text.splitList_append hs⟩
  obtain ⟨parts, hparts⟩ := hparts
  have hpath : pathParts isSlash (cs ++ ['/']) = (parts.foldl enter []).reverse ++ [""] := by
    unfold pathParts
    rw [hparts, resolveParts_append Text.splitList_ne_nil]
    exact List.reverse_cons
  unfold goOn
  rw [hpath, List.dropLast_concat, List.rdrop_eq_reverse_drop_reverse, List.reverse_reverse]
  unfold pathParts
  rw [hparts, resolveParts_append Text.splitList_ne_nil]
  exact @resolveParts_onward [] _ _

/-! ## Texts that go on after a slash -/

variable {c : Char} {q : Char → Bool}

theorem takeWhile_append_cons (h : q c = false) :
    (cs ++ c :: ds).takeWhile q = cs.takeWhile q := by
  rw [List.takeWhile_append]
  split
  · rename_i hall
    rw [List.takeWhile_cons_of_neg (by simp [h]), List.append_nil]
    exact ((List.takeWhile_prefix q).eq_of_length hall).symm
  · rfl

theorem dropWhile_append_cons (h : q c = false) :
    (cs ++ c :: ds).dropWhile q = cs.dropWhile q ++ c :: ds := by
  rw [List.dropWhile_append]
  split
  · rename_i hnil
    rw [List.isEmpty_iff.mp hnil, List.dropWhile_cons_of_neg (by simp [h])]
    rfl
  · rfl

theorem mem_dropWhile (h : q c = false) : c ∈ cs.dropWhile q ↔ c ∈ cs := by
  constructor
  · exact fun hc => (List.dropWhile_sublist q).subset hc
  · intro hc
    rw [← List.takeWhile_append_dropWhile (p := q) (l := cs)] at hc
    refine (List.mem_append.mp hc).resolve_left fun ht => ?_
    rw [List.mem_takeWhile_imp ht] at h
    cases h

/-- The text has a query or a fragment. -/
def HasQuery (cs : List Char) : Prop := '?' ∈ cs ∨ '#' ∈ cs

instance : Decidable (HasQuery cs) := inferInstanceAs (Decidable (_ ∨ _))

theorem cutQuery_fst :
    (cutQuery cs).1 = cs.takeWhile fun c => c != '?' && c != '#' := by
  have hbody : (cutQuery cs).1 = (cs.takeWhile (· != '#')).takeWhile (· != '?') := by
    unfold cutQuery
    dsimp only
    split
    · rename_i hnil
      exact (List.takeWhile_eq_self_iff.mpr (List.dropWhile_eq_nil_iff.mp hnil)).symm
    · rfl
  rw [hbody, List.takeWhile_takeWhile]
  simp only [Bool.decide_and, Bool.decide_eq_true]

/-- What is put after a query or a fragment belongs to it. -/
theorem cutQuery_append_fst :
    (cutQuery (cs ++ ds)).1 = if HasQuery cs then (cutQuery cs).1 else cs ++ (cutQuery ds).1 := by
  rw [cutQuery_fst, cutQuery_fst, cutQuery_fst]
  split
  · rename_i h
    obtain ⟨c, hc, hstop⟩ : ∃ c ∈ cs, (c != '?' && c != '#') = false := by
      rcases h with h | h
      · exact ⟨_, h, rfl⟩
      · exact ⟨_, h, rfl⟩
    obtain ⟨front, back, rfl⟩ := List.append_of_mem hc
    rw [List.append_assoc, List.cons_append, takeWhile_append_cons hstop,
      takeWhile_append_cons hstop]
  · rename_i h
    refine List.takeWhile_append_of_pos fun c hc => ?_
    unfold HasQuery at h
    rw [not_or] at h
    have hquery : c ≠ '?' := fun he => h.1 (he ▸ hc)
    have hfragment : c ≠ '#' := fun he => h.2 (he ▸ hc)
    simp [hquery, hfragment]

/-! ## Web addresses -/

variable {secure : Bool} {base a : WebAddress}

/-- The web address of a text without a query. -/
def site? (secure : Bool) (body : List Char) : Option WebAddress := do
  let (hostText, portNumber) ← authority? (body.takeWhile (! isWebSlash ·))
  let host ← host? hostText
  return {
    secure := secure
    host := host
    portNumber := portNumber.getD (if secure then 443 else 80)
    path := pathParts isWebSlash (body.dropWhile (! isWebSlash ·))
    query := none }

/-- The query plays no part in the rest of an address. -/
theorem web?_eq (secure : Bool) (cs : List Char) :
    ∃ query, web? secure cs = (site? secure (cutQuery (cs.dropWhile isWebSlash)).1).map fun a =>
      { a with query := query } := by
  refine ⟨(cutQuery (cs.dropWhile isWebSlash)).2.map fun q =>
    String.ofList (percentEncode isOutsideQuery q), ?_⟩
  unfold web? site?
  dsimp only
  cases authority? ((cutQuery (cs.dropWhile isWebSlash)).1.takeWhile (! isWebSlash ·)) with
  | none => rfl
  | some place =>
      obtain ⟨hostText, portNumber⟩ := place
      cases hh : host? hostText with
      | none => simp [hh]
      | some host => simp [hh]

theorem site?_append : site? secure (cs ++ '/' :: ds) =
    (site? secure (cs ++ ['/'])).map fun a =>
      { a with path := goOn a.path (Text.splitList isWebSlash ds) } := by
  have hstop : (! isWebSlash '/') = false := rfl
  have hpath : pathParts isWebSlash (cs.dropWhile (! isWebSlash ·) ++ '/' :: ds) =
      goOn (pathParts isWebSlash (cs.dropWhile (! isWebSlash ·) ++ ['/']))
        (Text.splitList isWebSlash ds) := pathParts_append rfl
  unfold site?
  rw [takeWhile_append_cons hstop, takeWhile_append_cons hstop, dropWhile_append_cons hstop,
    dropWhile_append_cons hstop, hpath]
  cases authority? (cs.takeWhile (! isWebSlash ·)) with
  | none => rfl
  | some place =>
      obtain ⟨hostText, portNumber⟩ := place
      cases hh : host? hostText with
      | none => simp [hh]
      | some host => simp [hh]

/-- The path of an address that goes on with a text. -/
def pathAfter (cs : List Char) (path : List String) (ds : List Char) : List String :=
  if HasQuery cs then path else goOn path (Text.splitList isWebSlash (cutQuery ds).1)

theorem dropWhile_slashes (h : cs.dropWhile isWebSlash ≠ []) (ds : List Char) :
    (cs ++ ds).dropWhile isWebSlash = cs.dropWhile isWebSlash ++ ds := by
  rw [List.dropWhile_append, if_neg (by simpa using h)]

theorem hasQuery_slashes : HasQuery (cs.dropWhile isWebSlash ++ ['/']) ↔ HasQuery cs := by
  have hquery : '?' ∈ cs.dropWhile isWebSlash ↔ '?' ∈ cs := mem_dropWhile rfl
  have hfragment : '#' ∈ cs.dropWhile isWebSlash ↔ '#' ∈ cs := mem_dropWhile rfl
  simp [HasQuery, hquery, hfragment]

theorem web?_append (h : cs.dropWhile isWebSlash ≠ []) (ds : List Char) :
    ∃ query, web? secure (cs ++ '/' :: ds) =
      (web? secure (cs ++ ['/'])).map fun a =>
        { a with path := pathAfter cs a.path ds, query := query } := by
  have hbody : ∀ ds, (cutQuery ((cs ++ '/' :: ds).dropWhile isWebSlash)).1 =
      if HasQuery cs then (cutQuery (cs.dropWhile isWebSlash ++ ['/'])).1
      else cs.dropWhile isWebSlash ++ '/' :: (cutQuery ds).1 := by
    intro ds
    have hcut := @cutQuery_append_fst (cs.dropWhile isWebSlash ++ ['/']) ds
    simp only [hasQuery_slashes, List.append_assoc, List.singleton_append] at hcut
    rw [dropWhile_slashes h]
    exact hcut
  obtain ⟨query, hboth⟩ := web?_eq secure (cs ++ '/' :: ds)
  obtain ⟨query', hfirst⟩ := web?_eq secure (cs ++ ['/'])
  refine ⟨query, ?_⟩
  rw [hboth, hfirst, hbody, hbody]
  unfold pathAfter
  by_cases hq : HasQuery cs
  · simp only [if_pos hq, Option.map_map]
    rfl
  · have hnil : (cutQuery []).1 = [] := rfl
    rw [if_neg hq, if_neg hq, hnil, site?_append]
    simp only [if_neg hq, Option.map_map]
    rfl

/-! ## Texts -/

variable {m s r : String}

/-- The blanks and controls that do not count at either end of a text. -/
def isEdge (c : Char) : Bool := c.toNat ≤ 0x20

/-- The characters that do not count anywhere. -/
def isDropped (c : Char) : Bool := c == '\t' || c == '\n' || c == '\r'

theorem tidy_eq : tidy s =
    ((s.toList.dropWhile isEdge).reverse.dropWhile isEdge).reverse.filter fun c => !isDropped c :=
  rfl

/-- A text as it stands at the end of an address. -/
def tidyEnd (r : String) : List Char :=
  (r.toList.reverse.dropWhile isEdge).reverse.filter fun c => !isDropped c

/-- The slash keeps the blanks after it from standing at an end of the first text. -/
theorem tidy_append (h : m.toList = cs ++ ['/']) :
    ∃ ds, (∀ r, tidy (m ++ r) = ds ++ '/' :: tidyEnd r) ∧ tidy m = ds ++ ['/'] ∧
      (HasQuery ds ↔ HasQuery m.toList) := by
  have hall : ∀ r : String, tidy (m ++ r) =
      (cs.dropWhile isEdge).filter (fun c => !isDropped c) ++ '/' :: tidyEnd r := by
    intro r
    rw [tidy_eq, String.toList_append, h, List.append_assoc, List.singleton_append,
      dropWhile_append_cons (by decide), List.reverse_append, List.reverse_cons, List.append_assoc,
      List.singleton_append, dropWhile_append_cons (by decide)]
    simp [tidyEnd, isDropped]
  refine ⟨_, hall, ?_, ?_⟩
  · have hnil := hall ""
    rw [String.append_empty] at hnil
    exact hnil
  · have hmem : ∀ c, isEdge c = false → isDropped c = false → c ≠ '/' →
        (c ∈ (cs.dropWhile isEdge).filter (fun c => !isDropped c) ↔ c ∈ m.toList) := by
      intro c he hd hs
      simp [h, mem_dropWhile he, hd, hs]
    unfold HasQuery
    rw [hmem '?' rfl rfl (by decide), hmem '#' rfl rfl (by decide)]

/-- The name of the scheme of a web address. -/
def schemeName (secure : Bool) : List Char := if secure then "https".toList else "http".toList

theorem not_mem_scheme {scheme : List Char} (h : scheme.map Char.toLower = schemeName secure)
    (hc : ∀ secure, c.toLower ∉ schemeName secure) : c ∉ scheme := fun hmem =>
  hc secure (h ▸ List.mem_map_of_mem hmem)

theorem file?_ne_web : file? cs ≠ some (.web a) := by
  intro h
  unfold file? at h
  dsimp only at h
  split at h
  · split at h
    · split at h
      · split at h
        · cases h
        · cases h
      · cases h
    · cases h
  · cases h
  · cases h

theorem parse?_eq_web : parse? s = some (.web a) ↔
    ∃ secure scheme cs, tidy s = scheme ++ ':' :: cs ∧ scheme.map Char.toLower = schemeName secure ∧
      web? secure cs = some a := by
  constructor
  · intro h
    unfold parse? at h
    dsimp only at h
    split at h
    · cases h
    · rename_i c rest hc
      have hcolon : c = ':' := by
        have hhead := List.head?_dropWhile_not (· != ':') (tidy s)
        rw [hc] at hhead
        simpa using hhead
      subst hcolon
      have htidy : tidy s = (tidy s).takeWhile (· != ':') ++ ':' :: rest := by
        rw [← hc, List.takeWhile_append_dropWhile]
      have hname : ∀ {cs name}, String.ofList cs = name → cs = name.toList :=
        fun hs => hs ▸ String.toList_ofList.symm
      split at h
      · rename_i hs
        obtain ⟨a', ha, he⟩ := Option.map_eq_some_iff.mp h
        cases he
        exact ⟨false, _, rest, htidy, hname hs, ha⟩
      · rename_i hs
        obtain ⟨a', ha, he⟩ := Option.map_eq_some_iff.mp h
        cases he
        exact ⟨true, _, rest, htidy, hname hs, ha⟩
      · exact absurd h file?_ne_web
      · cases h
  · rintro ⟨secure, scheme, cs, htidy, hscheme, ha⟩
    have hcolon : ∀ c ∈ scheme, (c != ':') = true := by
      intro c hc
      rw [bne_iff_ne]
      rintro rfl
      exact not_mem_scheme hscheme (by decide) hc
    have htake : (tidy s).takeWhile (· != ':') = scheme := by
      rw [htidy, takeWhile_append_cons rfl, List.takeWhile_eq_self_iff]
      exact hcolon
    have hdrop : (tidy s).dropWhile (· != ':') = ':' :: cs := by
      rw [htidy, dropWhile_append_cons rfl, List.dropWhile_eq_nil_iff.mpr hcolon]
      rfl
    unfold parse?
    dsimp only
    rw [htake, hdrop, hscheme]
    cases secure with
    | false => exact congrArg (Option.map web) ha
    | true => exact congrArg (Option.map web) ha

theorem scheme_append {scheme : List Char} (hscheme : '/' ∉ scheme)
    {front : List Char} (h : front ++ '/' :: ds = scheme ++ ':' :: cs) :
    ∃ site, front = scheme ++ ':' :: site ∧ cs = site ++ '/' :: ds := by
  rcases List.append_eq_append_iff.mp h with ⟨rest, hs, hr⟩ | ⟨rest, hs, hr⟩
  · rw [hs] at hscheme
    cases rest with
    | nil => cases hr
    | cons c rest =>
        cases hr
        simp at hscheme
  · cases rest with
    | nil => cases hr
    | cons c rest =>
        cases hr
        exact ⟨rest, hs, rfl⟩

theorem web?_slashes (h : cs.dropWhile isWebSlash = []) : web? secure (cs ++ ['/']) = none := by
  obtain ⟨query, hw⟩ := web?_eq secure (cs ++ ['/'])
  have hnil : (cs ++ ['/']).dropWhile isWebSlash = [] := by
    rw [List.dropWhile_append, h]
    rfl
  have hnone : site? secure [] = none := by
    cases secure <;> rfl
  rw [hw, hnil, show (cutQuery []).1 = [] from rfl, hnone]
  rfl

/-- Nothing but slashes follows the scheme of the text. -/
def Hostless (m : String) : Prop :=
  ∃ scheme slashes, tidy m = scheme ++ ':' :: slashes ∧ ∀ c ∈ slashes, isWebSlash c = true

/-- The parts of a text as they stand at the end of the path of an address. -/
def ownParts (r : String) : List (List Char) :=
  Text.splitList isWebSlash (cutQuery (tidyEnd r)).1

/-- The two addresses have one scheme, one host and one number. -/
structure SameOrigin (a base : WebAddress) : Prop where
  secure : a.secure = base.secure
  host : a.host = base.host
  portNumber : a.portNumber = base.portNumber

theorem web_append (hm : m.toList = cs ++ ['/']) (hb : parse? m = some (.web base)) (r : String) :
    ∃ a, parse? (m ++ r) = some (.web a) ∧ SameOrigin a base ∧
      a.path = if HasQuery m.toList then base.path else goOn base.path (ownParts r) := by
  obtain ⟨ds, hboth, htidy, hquery⟩ := tidy_append hm
  obtain ⟨secure, scheme, cs', hcs', hscheme, hw⟩ := parse?_eq_web.mp hb
  have hslash : '/' ∉ scheme := not_mem_scheme hscheme (by decide)
  obtain ⟨site, rfl, rfl⟩ := scheme_append hslash (htidy.symm.trans hcs')
  have hsite : site.dropWhile isWebSlash ≠ [] := by
    intro hnil
    rw [web?_slashes hnil] at hw
    cases hw
  obtain ⟨query, hweb⟩ := web?_append hsite (tidyEnd r)
  rw [hw, Option.map_some] at hweb
  have hscheme? : HasQuery (scheme ++ ':' :: site) ↔ HasQuery site := by
    have hq : '?' ∉ scheme := not_mem_scheme hscheme (by decide)
    have hf : '#' ∉ scheme := not_mem_scheme hscheme (by decide)
    simp [HasQuery, hq, hf]
  refine ⟨_, parse?_eq_web.mpr ⟨secure, scheme, _, ?_, hscheme, hweb⟩, ⟨rfl, rfl, rfl⟩, ?_⟩
  · rw [hboth, List.append_assoc, List.cons_append]
  · simp only [pathAfter, ← hquery, hscheme?]
    rfl

/-- What is put after a text makes no web address of it, unless the host would be taken from there. -/
theorem web_of_append (hm : m.toList = cs ++ ['/']) (h : parse? (m ++ r) = some (.web a)) :
    (∃ base, parse? m = some (.web base)) ∨ Hostless m := by
  obtain ⟨ds, hboth, htidy, -⟩ := tidy_append hm
  obtain ⟨secure, scheme, cs', hcs', hscheme, hw⟩ := parse?_eq_web.mp h
  have hslash : '/' ∉ scheme := not_mem_scheme hscheme (by decide)
  obtain ⟨site, rfl, rfl⟩ := scheme_append hslash ((hboth r).symm.trans hcs')
  have hfirst : tidy m = scheme ++ ':' :: (site ++ ['/']) := by
    rw [htidy, List.append_assoc, List.cons_append]
  by_cases hsite : site.dropWhile isWebSlash = []
  · refine Or.inr ⟨scheme, _, hfirst, fun c hc => ?_⟩
    rcases List.mem_append.mp hc with hc | hc
    · exact List.dropWhile_eq_nil_iff.mp hsite c hc
    · rw [List.mem_singleton.mp hc]
      rfl
  · obtain ⟨query, hweb⟩ := web?_append hsite (tidyEnd r)
    rw [hw] at hweb
    obtain ⟨base, hbase, -⟩ := Option.map_eq_some_iff.mp hweb.symm
    exact Or.inl ⟨base, parse?_eq_web.mpr ⟨secure, scheme, _, hfirst, hscheme, hbase⟩⟩

theorem path_of_folder (hm : m.toList = cs ++ ['/']) (hb : parse? m = some (.web base))
    (hq : ¬ HasQuery m.toList) : base.path = base.path.dropLast ++ [""] := by
  obtain ⟨a, ha, -, hpath⟩ := web_append hm hb ""
  rw [String.append_empty, hb] at ha
  cases ha
  rw [if_neg hq] at hpath
  -- going on with nothing leaves an empty part
  calc base.path
      = base.path.dropLast.rdrop (climbs [] (ownParts "")) ++ resolveParts [] (ownParts "") := hpath
    _ = base.path.dropLast ++ [""] := by
        rw [show climbs [] (ownParts "") = 0 by decide, List.rdrop_zero]
        rfl

theorem joinParts_append {ps qs : List String} :
    joinParts (ps ++ qs) = joinParts ps ++ joinParts qs := by
  unfold joinParts
  rw [List.map_append, String.join_append]

/-- A path that makes no climb begins with the folder that it goes on from. -/
theorem joinParts_goOn {path : List String} (hfolder : path = path.dropLast ++ [""])
    (h : climbs [] bs = 0 ∨ path = [""]) (hbs : bs ≠ []) :
    ∃ rest, joinParts (goOn path bs) = joinParts path ++ rest := by
  have hkept : path.dropLast.rdrop (climbs [] bs) = path.dropLast := by
    rcases h with h | rfl
    · rw [h, List.rdrop_zero]
    · exact List.rdrop_nil _
  obtain ⟨part, parts, hparts⟩ := List.exists_cons_of_ne_nil (@resolveParts_ne_nil [] bs hbs)
  have hfirst : joinParts (part :: parts) = joinParts [""] ++ (part ++ joinParts parts) := by
    unfold joinParts
    simp [String.append_assoc]
  refine ⟨part ++ joinParts parts, ?_⟩
  calc joinParts (goOn path bs)
      = joinParts (path.dropLast ++ part :: parts) := by rw [goOn, hkept, hparts]
    _ = joinParts (path.dropLast ++ [""]) ++ (part ++ joinParts parts) := by
        rw [joinParts_append, joinParts_append, hfirst, String.append_assoc]
    _ = joinParts path ++ (part ++ joinParts parts) := by rw [← hfolder]

end Location
end Placard
