/-
# When an image has a height

The height of an image is its width divided by the proportion of the template, rounded down.  The
width is never zero and the proportion is always above zero, but the two are checked apart, and the
quotient of a width by a greater proportion is rounded down to nothing.

| | |
| :-- | :-- |
| the proportion is at most the width | there is a height, and what is drawn can be written in sides of 16 bits |
| the proportion is greater | there is none, and every request for an encoded image fails |

Neither row is blurred by the rounding of the quotient: it is at least one just if the dividend is at
least the divisor (`Binary.one_le_div_iff`).
-/
import Placard.Proofs.Number.Arithmetic
import Placard.Proofs.Reading
import Placard.Proofs.Render.Size
import Placard.Proofs.Template

namespace Placard.Template

variable {t : Template} {values : RequestValues} {requested : Nat} {assets : AssetSource}
  {name : String} {content : Payload} {format : ImageFormat} {history : List RenderRequest}

/-! ## Loaded templates -/

theorem load_widths (h : load name content assets = .ok t) : ∀ w ∈ t.widths, w < UInt32.size := by
  obtain ⟨document, -, h⟩ := bind_eq_ok.mp h
  obtain ⟨f, hf, h⟩ := bind_eq_ok.mp h
  obtain ⟨first, others, background, plugins, hw, -, -, -, rfl⟩ := ofFields_eq_ok.mp h
  have hread := readFields_widths hf
  rwa [hw] at hread

theorem load_ratio_pos (h : load name content assets = .ok t) : 0 < t.ratio := by
  obtain ⟨document, -, h⟩ := bind_eq_ok.mp h
  obtain ⟨f, hf, h⟩ := bind_eq_ok.mp h
  obtain ⟨first, others, background, plugins, -, -, -, -, rfl⟩ := ofFields_eq_ok.mp h
  change 0 < if 0 < f.ratio then f.ratio else 1
  split
  · assumption
  · decide +kernel

/-- There is a height just if the proportion is at most the width. -/
theorem deriveHeight_pos_iff (h : load name content assets = .ok t) {w : Nat} (hw : w ∈ t.widths) :
    0 < t.deriveHeight w ↔ t.ratio ≤ extent w := by
  have hpos : 0 < w := Nat.pos_of_ne_zero fun h₀ => (load_ok h).2.1 (h₀ ▸ hw)
  have hlt : w < 2 ^ 53 := (load_widths h w hw).trans (by decide)
  have hvalue := Binary.extent_value? hlt
  rw [← Binary.one_le_div_iff hvalue (by exact_mod_cast hpos) (load_ratio_pos h)]
  have hsize := Binary.le_toSize_down (x := extent w / t.ratio) (n := 1) le_rfl (by decide)
  rw [Nat.cast_one] at hsize
  exact hsize

/-! ## Encoding -/

theorem encode_eq_error_iff {img : Image} : encode img format = .error .encode ↔
    ¬ (format.takesSide img.width ∧ format.takesSide img.height) := by
  unfold encode EncodedImage.ofImage?
  by_cases h : format.takesSide img.width ∧ format.takesSide img.height
  · rw [if_pos h]
    exact iff_of_false nofun fun hn => hn h
  · rw [if_neg h]
    exact iff_of_true rfl h

theorem takesSide_pos {n : Nat} (h : format.takesSide n = true) : 0 < n := by
  cases format with
  | jpeg => exact of_decide_eq_true (Bool.and_eq_true_iff.mp h).1
  | png => exact of_decide_eq_true h

theorem takesSide_of_le {n : Nat} (hpos : 0 < n) (hle : n ≤ 65535) : format.takesSide n = true := by
  cases format with
  | jpeg => exact Bool.and_eq_true_iff.mpr ⟨decide_eq_true hpos, decide_eq_true hle⟩
  | png => exact decide_eq_true hpos

theorem takesSide_jpeg_le {n : Nat} (h : ImageFormat.jpeg.takesSide n = true) : n ≤ 65535 :=
  of_decide_eq_true (Bool.and_eq_true_iff.mp h).2

/-- A render fails because a plugin cannot be bound or drawn, or is broken off, and for no other
cause. -/
theorem renderPlain_ne_encode (ht : ∀ p ∈ t.plugins, p.Able) :
    t.renderPlain values requested assets ≠ .error .encode := by
  intro h
  obtain ⟨_, _, _, -, -, hr⟩ | ⟨-, hr | ⟨_, _, -, hr⟩ | ⟨-, _, hr, -⟩⟩ :=
    renderPlain_cases ht values requested assets
  all_goals cases hr.symm.trans h

/-- What comes of a request for an encoded image, whatever has been rendered before. -/
theorem renderEncoded_after (h : t.Kept) :
    ((t.after history).renderEncoded values requested format assets).1 =
      (t.renderPlain values requested assets >>= (encode · format)) := by
  rw [← render_after h history]
  rfl

/-- A request for an encoded image fails if the format has no room for it. -/
theorem renderEncoded_fails (h : load name content assets = .ok t) {source : AssetSource}
    (hroom : ¬ (format.takesSide (t.selectWidth requested) ∧
      format.takesSide (t.deriveHeight (t.selectWidth requested)))) :
    ∃ e, ((t.after history).renderEncoded values requested format source).1 = .error e := by
  rw [renderEncoded_after (load_kept h)]
  cases hr : t.renderPlain values requested source with
  | error e => exact ⟨e, rfl⟩
  | ok img =>
      obtain ⟨hw, hh⟩ := Prod.mk.inj (renderPlain_sides (load_able h) hr)
      rw [← hh, ← hw] at hroom
      exact ⟨.encode, encode_eq_error_iff.mpr hroom⟩

/-- A request for an encoded image does not fail at encoding if the format has room for it. -/
theorem renderEncoded_ne_encode (h : load name content assets = .ok t) {source : AssetSource}
    (hw : format.takesSide (t.selectWidth requested) = true)
    (hh : format.takesSide (t.deriveHeight (t.selectWidth requested)) = true) :
    ((t.after history).renderEncoded values requested format source).1 ≠ .error .encode := by
  rw [renderEncoded_after (load_kept h)]
  intro he
  cases hr : t.renderPlain values requested source with
  | error e =>
      rw [hr] at he
      cases he
      exact renderPlain_ne_encode (load_able h) hr
  | ok img =>
      rw [hr] at he
      obtain ⟨hiw, hih⟩ := Prod.mk.inj (renderPlain_sides (load_able h) hr)
      rw [← hiw] at hw
      rw [← hih] at hh
      exact encode_eq_error_iff.mp he ⟨hw, hh⟩

/-- The heights of the images of a loaded template.  For every requested width, the selected one is
above zero, and the height derived from it is above zero just if the proportion is at most that
width.  Without a height every request for an encoded image fails, whatever the values and whatever
has been rendered before.  With one, and sides of at most 65535 pixels, none fails because the image
could not be written; with a longer side, every request for a JPEG file fails. -/
theorem load_height_pos_iff (h : load name content assets = .ok t) (requested : Nat) :
    let width := t.selectWidth requested
    let height := t.deriveHeight width
    0 < width ∧ (0 < height ↔ t.ratio ≤ extent width) ∧
    (height = 0 → ∀ history values assets format,
      ∃ e, ((t.after history).renderEncoded values requested format assets).1 = .error e) ∧
    (0 < height → width ≤ 65535 → height ≤ 65535 → ∀ history values assets format,
      ((t.after history).renderEncoded values requested format assets).1 ≠ .error .encode) ∧
    (65535 < width ∨ 65535 < height → ∀ history values assets,
      ∃ e, ((t.after history).renderEncoded values requested .jpeg assets).1 = .error e) := by
  intro width height
  have hpos : 0 < width := selectWidth_pos (load_ok h).2.1
  refine ⟨hpos, deriveHeight_pos_iff h selectWidth_mem,
    fun h₀ history values assets format => renderEncoded_fails h fun hroom => ?_,
    fun h₁ hw hh history values assets format =>
      renderEncoded_ne_encode h (takesSide_of_le hpos hw) (takesSide_of_le h₁ hh),
    fun hlong history values assets => renderEncoded_fails h fun hroom => ?_⟩
  · exact absurd h₀ (takesSide_pos hroom.2).ne'
  · rcases hlong with hlong | hlong
    · exact absurd (takesSide_jpeg_le hroom.1) (Nat.not_le.mpr hlong)
    · exact absurd (takesSide_jpeg_le hroom.2) (Nat.not_le.mpr hlong)

/-- A card that has a height at one of its widths and none at the other. -/
theorem load_height_pos_iff_of_card :
    let source : AssetSource := .ofPictures []
    let card : Payload := .ofText "allWidths: [8, 3]\nwidthHeightRatio: 3.5\n"
    ∃ t, load "card" card source = .ok t ∧ t.ratio ≤ extent 8 ∧
      0 < t.deriveHeight (t.selectWidth 8) ∧ ¬ t.ratio ≤ extent 3 ∧
      ∃ e, (t.renderEncoded .empty 3 .png source).1 = .error e := by
  intro source card
  have ht : ((load "card" card source).toOption.any fun t => decide (t.widths = [8, 3] ∧
      t.ratio ≤ extent 8 ∧ ¬ t.ratio ≤ extent 3)) = true := by
    rw [any_load (show card = .ofText _ from rfl), String.toList_ofList]
    decide +kernel
  obtain ⟨t, hl, ht⟩ := any_toOption.mp ht
  obtain ⟨hw, h₈, h₃⟩ := of_decide_eq_true ht
  have hselect : t.selectWidth 8 = 8 ∧ t.selectWidth 3 = 3 := by simp [selectWidth, hw]
  obtain ⟨-, hhigh, -⟩ := load_height_pos_iff hl 8
  obtain ⟨-, hlow, hfail, -⟩ := load_height_pos_iff hl 3
  rw [hselect.1] at hhigh
  rw [hselect.2] at hlow hfail
  have hzero : t.deriveHeight 3 = 0 := Nat.eq_zero_of_not_pos fun h => h₃ (hlow.mp h)
  exact ⟨t, hl, h₈, by rw [hselect.1]; exact hhigh.mpr h₈, h₃,
    hfail hzero [] .empty source .png⟩

/-- A card of one pixel that has no height whatever width is asked for. -/
theorem load_without_height :
    let source : AssetSource := .ofPictures []
    let card : Payload := .ofText "allWidths: [1]\nwidthHeightRatio: 1.5\n"
    ∃ t, load "card" card source = .ok t ∧ ¬ ∃ requested, 1 ≤ t.deriveHeight (t.selectWidth requested) := by
  intro source card
  have ht : ((load "card" card source).toOption.any fun t => decide (t.widths = [1] ∧
      t.deriveHeight 1 = 0)) = true := by
    rw [any_load (show card = .ofText _ from rfl), String.toList_ofList]
    decide +kernel
  obtain ⟨t, hl, ht⟩ := any_toOption.mp ht
  obtain ⟨hw, h₀⟩ := of_decide_eq_true ht
  refine ⟨t, hl, ?_⟩
  rintro ⟨requested, h⟩
  have hmem : t.selectWidth requested ∈ t.widths := selectWidth_mem
  rw [hw, List.mem_singleton] at hmem
  rw [hmem, h₀] at h
  cases h

end Placard.Template
