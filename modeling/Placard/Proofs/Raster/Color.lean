/-
# Which texts write a color

A color is written between any blanks by some `#` and its digits (`Writes`).  What the digits denote
is told for eight of them, two for each channel; a form without alpha stands for the one with alpha
`ff`, and a form of single digits for the one in which each is doubled (`Denotes`).

Reading accepts these texts and no others, and a text that is refused is named as it was given
(`parse_eq_ok`, `parse_eq_error`).  The number of `#` is left open: one is the documented form, none
is allowed, and any number of them is read all the same.  So the texts of the documented form are
those with `Writes` at most one `#`, and `##fff` is read without being one of them.
-/
import Mathlib.Data.List.Forall2
import Placard.Proofs.Text.Trimmed
import Placard.Raster.Color

namespace Placard.Rgba

variable {c c' : Char} {d : Nat} {v v' n : UInt8} {cs : List Char} {color : Rgba} {s : String}

/-! ## Digits -/

/-- The hexadecimal digit `c`, in either letter case, is worth `d`. -/
def HexDigit (c : Char) (d : Nat) : Prop :=
  "0123456789abcdef".toList[d]? = some c ∨ "0123456789ABCDEF".toList[d]? = some c

instance : Decidable (HexDigit c d) := inferInstanceAs (Decidable (_ ∨ _))

theorem HexDigit.lt (h : HexDigit c d) : d < 16 := by
  rcases h with h | h
  · exact (List.getElem?_eq_some_iff.mp h).1
  · exact (List.getElem?_eq_some_iff.mp h).1

/-- A run of characters that are digits of successive values. -/
theorem hexDigit_of_run (count : Nat) {first least : Nat}
    (hrun : ∀ d < count, HexDigit (Char.ofNat (first + d)) (least + d)) (hlow : first ≤ c.toNat)
    (hhigh : c.toNat < first + count) : HexDigit c (least + (c.toNat - first)) := by
  have h := hrun (c.toNat - first) (by omega)
  rwa [Nat.add_sub_cancel' hlow, Char.ofNat_toNat] at h

theorem hexDigit_of_hexDigit? (h : Number.hexDigit? c = some d) : HexDigit c d := by
  unfold Number.hexDigit? at h
  split at h
  · rename_i hc
    have hlow : 48 ≤ c.toNat := (Char.isDigit_iff_toNat.mp hc).1
    have hhigh : c.toNat ≤ 57 := (Char.isDigit_iff_toNat.mp hc).2
    have hd : HexDigit c (0 + (c.toNat - 48)) :=
      hexDigit_of_run 10 (by decide) hlow (by omega)
    cases h
    rwa [Nat.zero_add] at hd
  · split at h
    · rename_i hc
      simp only [Bool.and_eq_true, decide_eq_true_eq] at hc
      have hlow : 97 ≤ c.toNat := hc.1
      have hhigh : c.toNat ≤ 102 := hc.2
      have hd : HexDigit c (10 + (c.toNat - 97)) :=
        hexDigit_of_run 6 (by decide) hlow (by omega)
      cases h
      rwa [show 10 + (c.toNat - 97) = c.toNat - 87 by omega] at hd
    · split at h
      · rename_i hc
        simp only [Bool.and_eq_true, decide_eq_true_eq] at hc
        have hlow : 65 ≤ c.toNat := hc.1
        have hhigh : c.toNat ≤ 70 := hc.2
        have hd : HexDigit c (10 + (c.toNat - 65)) :=
          hexDigit_of_run 6 (by decide) hlow (by omega)
        cases h
        rwa [show 10 + (c.toNat - 65) = c.toNat - 55 by omega] at hd
      · cases h

theorem hexDigit?_eq_some : Number.hexDigit? c = some d ↔ HexDigit c d := by
  refine ⟨hexDigit_of_hexDigit?, fun h => ?_⟩
  have hall : ∀ d < 16, ("0123456789abcdef".toList[d]?.toList ++
      "0123456789ABCDEF".toList[d]?.toList).all (Number.hexDigit? · = some d) = true := by decide
  refine of_decide_eq_true (List.all_eq_true.mp (hall d h.lt) c (List.mem_append.mpr ?_))
  rcases h with h | h
  · exact Or.inl (Option.mem_toList.mpr h)
  · exact Or.inr (Option.mem_toList.mpr h)

theorem hexValue?_eq_some : hexValue? c = some v ↔ HexDigit c v.toNat := by
  unfold hexValue?
  rw [Option.map_eq_some_iff, ← hexDigit?_eq_some]
  constructor
  · rintro ⟨d, hd, rfl⟩
    have hlt := (hexDigit?_eq_some.mp hd).lt
    rw [UInt8.toNat_ofNat_of_lt' (hlt.trans (by decide))]
    exact hd
  · intro h
    exact ⟨v.toNat, h, UInt8.ofNat_toNat⟩

theorem mapM_hexValue? {vs : List UInt8} :
    cs.mapM hexValue? = some vs ↔ List.Forall₂ (fun c v => HexDigit c v.toNat) cs vs := by
  induction cs generalizing vs with
  | nil => simp [eq_comm]
  | cons c cs ih =>
      rw [List.mapM_cons, List.forall₂_cons_left_iff]
      constructor
      · intro h
        obtain ⟨v, hv, h⟩ := Option.bind_eq_some_iff.mp h
        obtain ⟨vs', hvs, h⟩ := Option.bind_eq_some_iff.mp h
        cases h
        exact ⟨v, vs', hexValue?_eq_some.mp hv, ih.mp hvs, rfl⟩
      · rintro ⟨v, vs', hv, hvs, rfl⟩
        rw [hexValue?_eq_some.mpr hv, ih.mpr hvs]
        rfl

/-! ## What digits denote -/

/-- Two digits write a channel. -/
def Channel (c c' : Char) (n : UInt8) : Prop :=
  ∃ d d', HexDigit c d ∧ HexDigit c' d' ∧ n.toNat = 16 * d + d'

/-- The color that digits denote. -/
inductive Denotes : List Char → Rgba → Prop
  | long {r r' g g' b b' a a' : Char} {red green blue alpha : UInt8} (hr : Channel r r' red)
      (hg : Channel g g' green) (hb : Channel b b' blue) (ha : Channel a a' alpha) :
      Denotes [r, r', g, g', b, b', a, a'] ⟨red, green, blue, alpha⟩
  | longSolid {r r' g g' b b' : Char} {color : Rgba}
      (h : Denotes [r, r', g, g', b, b', 'f', 'f'] color) : Denotes [r, r', g, g', b, b'] color
  | short {r g b a : Char} {color : Rgba} (h : Denotes [r, r, g, g, b, b, a, a] color) :
      Denotes [r, g, b, a] color
  | shortSolid {r g b : Char} {color : Rgba} (h : Denotes [r, r, g, g, b, b] color) :
      Denotes [r, g, b] color

theorem channel_iff (hc : HexDigit c v.toNat) (hc' : HexDigit c' v'.toNat) :
    Channel c c' n ↔ v * 16 + v' = n := by
  have hlt := hc.lt
  have hlt' := hc'.lt
  have hsum : (v * 16 + v').toNat = 16 * v.toNat + v'.toNat := by
    rw [UInt8.toNat_add, UInt8.toNat_mul]
    change (v.toNat * 16 % 256 + v'.toNat) % 256 = _
    omega
  rw [← UInt8.toNat_inj, hsum, eq_comm]
  constructor
  · rintro ⟨d, d', hd, hd', hn⟩
    obtain rfl : d = v.toNat :=
      Option.some.inj ((hexDigit?_eq_some.mpr hd).symm.trans (hexDigit?_eq_some.mpr hc))
    obtain rfl : d' = v'.toNat :=
      Option.some.inj ((hexDigit?_eq_some.mpr hd').symm.trans (hexDigit?_eq_some.mpr hc'))
    exact hn
  · exact fun hn => ⟨v.toNat, v'.toNat, hc, hc', hn⟩

section Denotes

variable {r r' g g' b b' a a' : Char} {vr vr' vg vg' vb vb' va va' : UInt8}

theorem denotes_long (hr : HexDigit r vr.toNat) (hr' : HexDigit r' vr'.toNat)
    (hg : HexDigit g vg.toNat) (hg' : HexDigit g' vg'.toNat) (hb : HexDigit b vb.toNat)
    (hb' : HexDigit b' vb'.toNat) (ha : HexDigit a va.toNat) (ha' : HexDigit a' va'.toNat) :
    Denotes [r, r', g, g', b, b', a, a'] color ↔
      (⟨vr * 16 + vr', vg * 16 + vg', vb * 16 + vb', va * 16 + va'⟩ : Rgba) = color := by
  constructor
  · rintro (⟨hred, hgreen, hblue, halpha⟩ | _ | _ | _)
    rw [(channel_iff hr hr').mp hred, (channel_iff hg hg').mp hgreen, (channel_iff hb hb').mp hblue,
      (channel_iff ha ha').mp halpha]
  · rintro rfl
    exact .long ((channel_iff hr hr').mpr rfl) ((channel_iff hg hg').mpr rfl)
      ((channel_iff hb hb').mpr rfl) ((channel_iff ha ha').mpr rfl)

theorem denotes_longSolid (hr : HexDigit r vr.toNat) (hr' : HexDigit r' vr'.toNat)
    (hg : HexDigit g vg.toNat) (hg' : HexDigit g' vg'.toNat) (hb : HexDigit b vb.toNat)
    (hb' : HexDigit b' vb'.toNat) : Denotes [r, r', g, g', b, b'] color ↔
      (⟨vr * 16 + vr', vg * 16 + vg', vb * 16 + vb', 255⟩ : Rgba) = color := by
  have hf : HexDigit 'f' (15 : UInt8).toNat := by decide
  have hlong : Denotes _ color ↔ _ := denotes_long hr hr' hg hg' hb hb' hf hf
  constructor
  · rintro (_ | h | _ | _)
    exact hlong.mp h
  · exact fun h => .longSolid (hlong.mpr h)

theorem mul_seventeen : v * 17 = v * 16 + v := by
  rw [show (17 : UInt8) = 16 + 1 from rfl, UInt8.mul_add, UInt8.mul_one]

theorem denotes_short (hr : HexDigit r vr.toNat) (hg : HexDigit g vg.toNat)
    (hb : HexDigit b vb.toNat) (ha : HexDigit a va.toNat) :
    Denotes [r, g, b, a] color ↔ (⟨vr * 17, vg * 17, vb * 17, va * 17⟩ : Rgba) = color := by
  have hlong : Denotes _ color ↔ _ := denotes_long hr hr hg hg hb hb ha ha
  rw [mul_seventeen, mul_seventeen, mul_seventeen, mul_seventeen, ← hlong]
  constructor
  · rintro (_ | _ | h | _)
    exact h
  · exact .short

theorem denotes_shortSolid (hr : HexDigit r vr.toNat) (hg : HexDigit g vg.toNat)
    (hb : HexDigit b vb.toNat) :
    Denotes [r, g, b] color ↔ (⟨vr * 17, vg * 17, vb * 17, 255⟩ : Rgba) = color := by
  have hlong : Denotes _ color ↔ _ := denotes_longSolid hr hr hg hg hb hb
  rw [mul_seventeen, mul_seventeen, mul_seventeen, ← hlong]
  constructor
  · rintro (_ | _ | _ | h)
    exact h
  · exact .shortSolid

end Denotes

/-- The values of digits make the color that the digits denote, and none if they denote none. -/
theorem ofDigits?_eq_some {vs : List UInt8}
    (h : List.Forall₂ (fun c v => HexDigit c v.toNat) cs vs) :
    ofDigits? vs = some color ↔ Denotes cs color := by
  unfold ofDigits?
  split
  · obtain _ | ⟨hr, _ | ⟨hg, _ | ⟨hb, _ | _⟩⟩⟩ := h
    rw [Option.some.injEq, denotes_shortSolid hr hg hb]
  · obtain _ | ⟨hr, _ | ⟨hg, _ | ⟨hb, _ | ⟨ha, _ | _⟩⟩⟩⟩ := h
    rw [Option.some.injEq, denotes_short hr hg hb ha]
  · obtain _ | ⟨hr, _ | ⟨hr', _ | ⟨hg, _ | ⟨hg', _ | ⟨hb, _ | ⟨hb', _ | _⟩⟩⟩⟩⟩⟩ := h
    rw [Option.some.injEq, denotes_longSolid hr hr' hg hg' hb hb']
  · obtain
      _ | ⟨hr, _ | ⟨hr', _ | ⟨hg, _ | ⟨hg', _ | ⟨hb, _ | ⟨hb', _ | ⟨ha, _ | ⟨ha', _ | _⟩⟩⟩⟩⟩⟩⟩⟩ := h
    rw [Option.some.injEq, denotes_long hr hr' hg hg' hb hb' ha ha']
  · rename_i hother₃ hother₄ hother₆ hother₈
    refine iff_of_false (Option.some_ne_none _).symm fun hden => ?_
    -- no other number of digits denotes a color
    cases hden with
    | long =>
        obtain _ | ⟨_, _ | ⟨_, _ | ⟨_, _ | ⟨_, _ | ⟨_, _ | ⟨_, _ | ⟨_, _ | ⟨_, _ | _⟩⟩⟩⟩⟩⟩⟩⟩ := h
        exact hother₈ _ _ _ _ _ _ _ _ rfl
    | longSolid =>
        obtain _ | ⟨_, _ | ⟨_, _ | ⟨_, _ | ⟨_, _ | ⟨_, _ | ⟨_, _ | _⟩⟩⟩⟩⟩⟩ := h
        exact hother₆ _ _ _ _ _ _ rfl
    | short =>
        obtain _ | ⟨_, _ | ⟨_, _ | ⟨_, _ | ⟨_, _ | _⟩⟩⟩⟩ := h
        exact hother₄ _ _ _ _ rfl
    | shortSolid =>
        obtain _ | ⟨_, _ | ⟨_, _ | ⟨_, _ | _⟩⟩⟩ := h
        exact hother₃ _ _ _ rfl

theorem Denotes.forall_digit (h : Denotes cs color) : ∀ c ∈ cs, ∃ d, HexDigit c d := by
  induction h with
  | long hr hg hb ha =>
      obtain ⟨_, _, hr, hr', -⟩ := hr
      obtain ⟨_, _, hg, hg', -⟩ := hg
      obtain ⟨_, _, hb, hb', -⟩ := hb
      obtain ⟨_, _, ha, ha', -⟩ := ha
      simp only [List.forall_mem_cons]
      exact ⟨⟨_, hr⟩, ⟨_, hr'⟩, ⟨_, hg⟩, ⟨_, hg'⟩, ⟨_, hb⟩, ⟨_, hb'⟩, ⟨_, ha⟩, ⟨_, ha'⟩,
        List.forall_mem_nil _⟩
  | longSolid _ ih => exact fun c hc => ih c (List.mem_append_left ['f', 'f'] hc)
  | short _ ih =>
      intro c hc
      simp only [List.mem_cons] at hc
      exact ih c (by simp only [List.mem_cons]; tauto)
  | shortSolid _ ih =>
      intro c hc
      simp only [List.mem_cons] at hc
      exact ih c (by simp only [List.mem_cons]; tauto)

/-! ## Texts -/

/-- The text is blanks, so many `#`, digits that denote the color, and blanks. -/
def Writes (hashes : Nat) (s : String) (color : Rgba) : Prop :=
  ∃ front ds back, s.toList = front ++ (List.replicate hashes '#' ++ ds) ++ back ∧
    (∀ c ∈ front, Text.isBlank c = true) ∧ (∀ c ∈ back, Text.isBlank c = true) ∧ Denotes ds color

theorem hexDigit_plain (h : HexDigit c d) : Text.isBlank c = false ∧ (c == '#') = false := by
  have hall : ("0123456789abcdef".toList ++ "0123456789ABCDEF".toList).all
      (fun c => Text.isBlank c = false ∧ (c == '#') = false) = true := by decide
  refine of_decide_eq_true (List.all_eq_true.mp hall c (List.mem_append.mpr ?_))
  rcases h with h | h
  · exact Or.inl (List.mem_of_getElem? h)
  · exact Or.inr (List.mem_of_getElem? h)

/-- The text without the blanks around it is so many `#` and digits that denote the color. -/
theorem writes_iff {hashes : Nat} : Writes hashes s color ↔
    ∃ ds, Text.trimList s.toList = List.replicate hashes '#' ++ ds ∧ Denotes ds color := by
  constructor
  · rintro ⟨front, ds, back, hs, hfront, hback, hds⟩
    refine ⟨ds, ?_, hds⟩
    rw [hs]
    refine Text.trimList_between hfront hback (List.forall_mem_append.mpr ⟨?_, ?_⟩)
    · intro c hc
      rw [List.eq_of_mem_replicate hc]
      rfl
    · intro c hc
      obtain ⟨d, hd⟩ := hds.forall_digit c hc
      exact (hexDigit_plain hd).1
  · rintro ⟨ds, hs, hds⟩
    obtain ⟨front, back, hbetween, hfront, hback⟩ := Text.exists_trimList s.toList
    exact ⟨front, ds, back, hs ▸ hbetween, hfront, hback, hds⟩

theorem Denotes.dropWhile_hash (h : Denotes cs color) : cs.dropWhile (· == '#') = cs := by
  refine List.dropWhile_eq_self_iff.mpr fun hl => ?_
  obtain ⟨d, hd⟩ := h.forall_digit _ (List.getElem_mem hl)
  rw [(hexDigit_plain hd).2]
  exact Bool.false_ne_true

theorem dropWhile_replicate_hash {hashes : Nat} :
    (List.replicate hashes '#' ++ cs).dropWhile (· == '#') = cs.dropWhile (· == '#') :=
  List.dropWhile_append_of_pos fun _ hc => by simp [List.eq_of_mem_replicate hc]

/-- What is read is the color that the digits after the last leading `#` denote. -/
theorem parse?_eq_some_iff_denotes :
    parse? s = some color ↔ Denotes ((Text.trimList s.toList).dropWhile (· == '#')) color := by
  unfold parse?
  generalize (Text.trimList s.toList).dropWhile (· == '#') = ds
  constructor
  · intro h
    obtain ⟨vs, hvs, hcolor⟩ := Option.bind_eq_some_iff.mp h
    exact (ofDigits?_eq_some (mapM_hexValue?.mp hvs)).mp hcolor
  · intro h
    obtain ⟨vs, hvs⟩ : ∃ vs : List UInt8, List.Forall₂ (fun c v => HexDigit c v.toNat) ds vs := by
      have hall := h.forall_digit
      clear h
      induction ds with
      | nil => exact ⟨[], .nil⟩
      | cons c ds ih =>
          obtain ⟨⟨d, hd⟩, hds⟩ := List.forall_mem_cons.mp hall
          obtain ⟨vs, hvs⟩ := ih hds
          refine ⟨UInt8.ofNat d :: vs, .cons ?_ hvs⟩
          rwa [UInt8.toNat_ofNat_of_lt' (hd.lt.trans (by decide))]
    exact Option.bind_eq_some_iff.mpr
      ⟨vs, mapM_hexValue?.mpr hvs, (ofDigits?_eq_some hvs).mpr h⟩

theorem parse?_eq_some : parse? s = some color ↔ ∃ hashes, Writes hashes s color := by
  rw [parse?_eq_some_iff_denotes]
  simp only [writes_iff]
  constructor
  · intro h
    have hsplit := List.takeWhile_append_dropWhile (p := (· == '#')) (l := Text.trimList s.toList)
    have hhashes : (Text.trimList s.toList).takeWhile (· == '#') =
        List.replicate ((Text.trimList s.toList).takeWhile (· == '#')).length '#' :=
      List.eq_replicate_iff.mpr ⟨rfl, fun c hc => by simpa using List.mem_takeWhile_imp hc⟩
    exact ⟨_, _, hhashes ▸ hsplit.symm, h⟩
  · rintro ⟨hashes, ds, hs, h⟩
    rw [hs, dropWhile_replicate_hash, h.dropWhile_hash]
    exact h

/-- A text writes one color only, with one number of `#`. -/
theorem Writes.unique {hashes hashes' : Nat} {color' : Rgba} (h : Writes hashes s color)
    (h' : Writes hashes' s color') : hashes = hashes' ∧ color = color' := by
  have hparse := parse?_eq_some.mpr ⟨hashes, h⟩
  refine ⟨?_, Option.some.inj (hparse.symm.trans (parse?_eq_some.mpr ⟨hashes', h'⟩))⟩
  obtain ⟨ds, hs, hds⟩ := writes_iff.mp h
  obtain ⟨ds', hs', hds'⟩ := writes_iff.mp h'
  -- after the `#` there are the same digits, so there are as many `#`
  have heq := hs.symm.trans hs'
  have hdrop := congrArg (List.dropWhile (· == '#')) heq
  rw [dropWhile_replicate_hash, dropWhile_replicate_hash, hds.dropWhile_hash,
    hds'.dropWhile_hash] at hdrop
  subst hdrop
  simpa using congrArg List.length heq

theorem parse_eq_ok : parse s = .ok color ↔ ∃ hashes, Writes hashes s color := by
  rw [← parse?_eq_some, parse]
  cases parse? s with
  | none => exact iff_of_false (fun h => by cases h) (fun h => by cases h)
  | some color' => simp

theorem parse_eq_error {e : ConfigError} : parse s = .error e ↔
    (¬ ∃ hashes color, Writes hashes s color) ∧ e = .invalidColor s := by
  rw [exists_comm]
  simp only [← parse?_eq_some]
  rw [parse]
  cases parse? s with
  | none => simp [eq_comm]
  | some color => simp

/-! ## Printed colors -/

theorem denotes_digits {f : Char → Char} (hf : ∀ d < 16, HexDigit (f (Text.hexDigit d)) d)
    (color : Rgba) : Denotes (color.digits.map f) color := by
  have hbyte : ∀ n : UInt8,
      Channel (f (Text.hexDigit (n.toNat / 16 % 16))) (f (Text.hexDigit (n.toNat % 16))) n := by
    intro n
    have hn : n.toNat < 256 := n.toNat_lt
    exact ⟨n.toNat / 16 % 16, n.toNat % 16, hf _ (Nat.mod_lt _ (by decide)),
      hf _ (Nat.mod_lt _ (by decide)), by omega⟩
  exact .long (hbyte color.red) (hbyte color.green) (hbyte color.blue) (hbyte color.alpha)

theorem parse_digits {f : Char → Char} (hf : ∀ d < 16, HexDigit (f (Text.hexDigit d)) d)
    (color : Rgba) : parse (String.ofList ('#' :: color.digits.map f)) = .ok color := by
  refine parse_eq_ok.mpr ⟨1, [], color.digits.map f, [], ?_, List.forall_mem_nil _,
    List.forall_mem_nil _, denotes_digits hf color⟩
  rw [String.toList_ofList, List.append_nil]
  rfl

/-- A text is read as a color just if it writes that color with some number of `#`, and one that
writes no color is refused by its name.  So the texts of the documented form are read, with at most
one `#`, and no others but those with more of them.  A color is read back from its digits in either
letter case. -/
theorem parse_iff_writes (s : String) (color : Rgba) :
    (parse s = .ok color ↔ ∃ hashes, Writes hashes s color) ∧
    (∀ e, parse s = .error e ↔ (¬ ∃ hashes color, Writes hashes s color) ∧ e = .invalidColor s) ∧
    ((parse s = .ok color ↔ ∃ hashes ≤ 1, Writes hashes s color) ↔
      ¬ ∃ hashes ≥ 2, Writes hashes s color) ∧
    parse (String.ofList ('#' :: color.digits)) = .ok color ∧
    parse (String.ofList ('#' :: color.digits.map Char.toUpper)) = .ok color := by
  refine ⟨parse_eq_ok, fun _ => parse_eq_error, ?_, ?_, parse_digits (by decide) color⟩
  · rw [parse_eq_ok]
    constructor
    · rintro hform ⟨hashes, hmany, h⟩
      obtain ⟨few, hfew, h'⟩ := hform.mp ⟨hashes, h⟩
      have hsame := (h.unique h').1
      omega
    · intro hnone
      refine ⟨fun ⟨hashes, h⟩ => ⟨hashes, ?_, h⟩, fun ⟨hashes, _, h⟩ => ⟨hashes, h⟩⟩
      by_contra hmany
      exact hnone ⟨hashes, by omega, h⟩
  · have h := parse_digits (f := id) (by decide) color
    rwa [List.map_id] at h

/-- A text with two `#` is read, though it writes no color with at most one. -/
theorem parse_twice_hashed :
    parse "##fff" = .ok .white ∧ ∀ hashes ≤ 1, ∀ color, ¬ Writes hashes "##fff" color := by
  have hwhite : Writes 2 "##fff" .white :=
    ⟨[], ['f', 'f', 'f'], [], rfl, List.forall_mem_nil _, List.forall_mem_nil _, by
      have hf : HexDigit 'f' (15 : UInt8).toNat := by decide
      exact (denotes_shortSolid hf hf hf).mpr rfl⟩
  refine ⟨parse_eq_ok.mpr ⟨2, hwhite⟩, fun hashes hle color h => ?_⟩
  have htwo := (h.unique hwhite).1
  omega

end Placard.Rgba
