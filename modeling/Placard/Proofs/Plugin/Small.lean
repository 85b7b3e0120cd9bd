/-
# Sizes of 32 bits

The sides of an image have 32 bits wherever an image comes from.

| | |
| :-- | :-- |
| a size that is computed | it is cut off at the limit (`Binary.toSize_lt`) |
| a size that is declared | it is read so (`Yaml.Reading.size_lt`) |
| the sides of an asset | its decoder makes no others (`AssetSource.Small`) |
| the modules of a code | there are at most 177 on a side (`Matrix.encode_width`) |

So a fitted image is small (`Image.resize_small`), and the plugins of a loaded template have small
sizes throughout (`Plugin.configured_small`), and so have their bound copies (`Plugin.bind_small`).
-/
import Placard.Proofs.Asset.Walk
import Placard.Proofs.Number.Value
import Placard.Proofs.Plugin.Drawn
import Placard.Proofs.Plugin.Life
import Placard.Proofs.Reading

namespace Placard
open Binary

/-! ## Fitting -/

theorem FitMode.target_lt {mode : FitMode} {sw sh w h : Nat} (hsw : sw < UInt32.size)
    (hsh : sh < UInt32.size) (hw : w < UInt32.size) (hh : h < UInt32.size) :
    (mode.target Float sw sh w h).1 < UInt32.size ∧
      (mode.target Float sw sh w h).2 < UInt32.size := by
  have hsize : ∀ x : Float, Proportion.nearestSize x < UInt32.size := fun x => toSize_lt
  have hmax : ∀ {n}, n < UInt32.size → max n 1 < UInt32.size := fun h => max_lt h (by decide)
  unfold target
  dsimp only
  split
  · exact ⟨hmax hsw, hmax hsh⟩
  split
  · exact ⟨hmax (hsize _), hmax hh⟩
  split
  · exact ⟨hmax hw, hmax (hsize _)⟩
  cases mode with
  | stretch => exact ⟨hmax hw, hmax hh⟩
  | clip =>
      dsimp only
      split
      · exact ⟨hmax (hsize _), hmax hh⟩
      · exact ⟨hmax hw, hmax (hsize _)⟩
  | crop =>
      dsimp only
      split
      · exact ⟨hmax (hsize _), hmax hh⟩
      · exact ⟨hmax hw, hmax (hsize _)⟩

namespace Image

theorem resizeTo_small {img : Image} {w h : Nat} (hw : w < UInt32.size) (hh : h < UInt32.size) :
    (img.resizeTo w h).Small := by
  unfold resizeTo
  split
  · rename_i hsame
    exact ⟨hsame.1 ▸ hw, hsame.2 ▸ hh⟩
  · have hone : 1 < UInt32.size := by decide
    obtain ⟨hw', hh'⟩ := Prod.mk.inj (@resample_sides img (max w 1) (max h 1))
    exact ⟨hw'.trans_lt (max_lt hw hone), hh'.trans_lt (max_lt hh hone)⟩

theorem resize_small {img : Image} {mode : FitMode} {w h : Nat} (hi : img.Small)
    (hw : w < UInt32.size) (hh : h < UInt32.size) : (img.resize mode w h).Small :=
  resizeTo_small (FitMode.target_lt hi.1 hi.2 hw hh).1 (FitMode.target_lt hi.1 hi.2 hw hh).2

end Image

/-! ## Codes -/

namespace Matrix

variable {m best : Matrix} {ms : List Matrix} {color : Rgba} {size : Nat} {text : String}
  {level : Recovery}

theorem lightest_go_mem {least : Nat} : lightest.go best least ms ∈ best :: ms := by
  induction ms generalizing best least with
  | nil => exact List.mem_cons_self
  | cons m ms ih =>
      unfold lightest.go
      dsimp only
      split
      · exact List.mem_cons_of_mem best ih
      · exact List.mem_cons.mpr ((List.mem_cons.mp ih).imp_right (List.mem_cons_of_mem m))

theorem lightest_mem : lightest best ms ∈ best :: ms := by
  cases ms with
  | nil => exact List.mem_cons_self
  | cons m ms => exact lightest_go_mem

theorem lightest_width {n : Nat} (hbest : best.width = n) (hms : ∀ m ∈ ms, m.width = n) :
    (lightest best ms).width = n := by
  have hmem : lightest best ms ∈ best :: ms := lightest_mem
  rcases List.mem_cons.mp hmem with heq | hmem
  · exact heq.symm ▸ hbest
  · exact hms _ hmem

/-- A matrix has the size of a version, and the last version has 177 modules on a side. -/
theorem encode_width (h : encode text level = .ok m) : m.width ≤ 177 := by
  unfold encode at h
  split at h
  · rename_i m' hm
    cases h
    obtain ⟨⟨version, segments⟩, hv, rfl⟩ := Option.map_eq_some_iff.mp hm
    have hversion : version ≤ 40 := by
      obtain ⟨v, -, hv⟩ := Option.bind_eq_some_iff.mp hv
      obtain ⟨version', hfind, hv⟩ := Option.bind_eq_some_iff.mp hv
      cases hv
      have hmem := List.mem_of_find?_eq_some hfind
      rw [Symbol.versions, List.mem_range'_1] at hmem
      omega
    have hside : Symbol.side version ≤ 177 := by
      unfold Symbol.side
      omega
    refine (lightest_width rfl fun m hm => ?_).trans_le hside
    obtain ⟨mask, -, rfl⟩ := List.mem_map.mp hm
    rfl
  · cases h

theorem render_small (hm : m.width < UInt32.size) (hs : size < UInt32.size) :
    (m.render size color).Small := by
  have hside : max size (max m.width 1) < UInt32.size := max_lt hs (max_lt hm (by decide))
  exact ⟨hside, hside⟩

end Matrix

namespace Code

/-- The modules on a side are a number of 32 bits. -/
def Small (c : Code) : Prop := ∀ matrix, c.matrix = some matrix → matrix.width < UInt32.size

theorem small_of_encode {c : Code} {matrix : Matrix} {text : String} {level : Recovery}
    (hc : c.matrix = some matrix) (h : Matrix.encode text level = .ok matrix) : c.Small := by
  intro m hm
  cases hc.symm.trans hm
  exact (Matrix.encode_width h).trans_lt (by decide)

end Code

/-! ## Assets -/

/-- A file that is found on a disk is one of its tree. -/
theorem Disk.lookup_of_find {d : Disk} {path : String} {content : Payload}
    (h : (d.find path).2 = .file content) : ∃ place, d.tree.files.lookup place = some content :=
  ⟨_, FileTree.entry_eq_file.mp (entry_of_find (Prod.ext rfl h))⟩

namespace AssetSource

/-- The images of the assets have sides of 32 bits, as decoders make them. -/
def Small (s : AssetSource) : Prop := ∀ uri img, s.image uri = .ok img → img.Small

theorem get_ofPictures {pictures : List (String × Image)} {uri : String} {content : Payload}
    (h : (ofPictures pictures).get uri = .ok content) :
    ∃ entry ∈ pictures, content = .picture ⟨.png, entry.2⟩ := by
  unfold get at h
  split at h
  · rename_i address ha
    have hfetch : (ofPictures pictures).fetcher.fetch uri = .error .transport := by
      unfold Fetcher.fetch
      rw [ha]
      rfl
    rw [hfetch] at h
    cases h
  · unfold readLocal at h
    split at h
    · cases h
    split at h
    · rename_i content' hentry
      obtain ⟨path, hlookup⟩ := Disk.lookup_of_find hentry
      cases hlookup
    · cases h
    · cases h
  · unfold readBundled at h
    split at h
    · rename_i content' hfile
      cases h
      obtain ⟨path, -, hentry⟩ := Option.map_eq_some_iff.mp hfile
      obtain ⟨before, after, hfiles, -⟩ :=
        List.lookup_eq_some_iff.mp (FileTree.entry_eq_file.mp hentry)
      have hmem : (path, content) ∈ (ofPictures pictures).bundle.files := by
        rw [hfiles]
        exact List.mem_append_right before List.mem_cons_self
      obtain ⟨entry, hentry, heq⟩ := List.mem_map.mp hmem
      exact ⟨entry, hentry, (Prod.mk.inj heq).2.symm⟩
    · cases h

theorem ofPictures_small {pictures : List (String × Image)} (h : ∀ entry ∈ pictures, entry.2.Small) :
    (ofPictures pictures).Small := by
  intro uri img himg
  obtain ⟨content, hget, hdecode⟩ := bind_eq_ok.mp himg
  obtain ⟨entry, hentry, rfl⟩ := get_ofPictures hget
  cases hdecode
  exact h entry hentry

end AssetSource

/-! ## Pictures -/

namespace Picture

/-- The sizes of a picture have 32 bits. -/
structure Small (p : Picture) : Prop where
  width : p.width < UInt32.size
  height : p.height < UInt32.size
  raster : ∀ raster, p.raster = some raster → raster.Small

variable {p : Picture} {r : PixelRect} {raster : Image}

theorem side_lt (c : Int64) : side c < UInt32.size := UInt32.toNat_lt _

theorem box_lt (h : p.Small) {box : Nat × Nat} (hb : p.box raster r = some box) :
    box.1 < UInt32.size ∧ box.2 < UInt32.size := by
  obtain ⟨w, h', -, -, rfl⟩ := box_eq_some.mp hb
  split
  · exact ⟨h.width, h.height⟩
  · exact ⟨side_lt _, side_lt _⟩

theorem reading_small {v : Yaml.Value} (h : reading v = .ok p) : p.Small := by
  obtain ⟨f, hf, rfl⟩ := map_eq_ok.mp h
  have hkeeps : ∀ field ∈ fields,
      field.Keeps fun f => f.width < UInt32.size ∧ f.height < UInt32.size := by
    simp only [fields, List.forall_mem_cons]
    refine ⟨?_, ?_, ?_, ?width, ?height, ?_, ?_, ?_, ?_, ?_, ?_,
      fun _ hfield => absurd hfield List.not_mem_nil⟩
    case width => exact .of fun _ _ _ hn hs => ⟨Yaml.Reading.size_lt hn, hs.2⟩
    case height => exact .of fun _ _ _ hn hs => ⟨hs.1, Yaml.Reading.size_lt hn⟩
    all_goals exact .of fun _ _ _ _ hs => hs
  have hsizes := Yaml.Reading.record_keeps hkeeps ⟨by decide, by decide⟩ hf
  exact ⟨hsizes.1, hsizes.2, fun _ hr => by cases hr⟩

variable {q : Picture} {assets : AssetSource} {values : RequestValues}

theorem configure_small (ha : assets.Small) (hp : p.Small) (h : p.configure assets = .ok q) :
    q.Small := by
  obtain ⟨bindings, -, ⟨-, hl⟩ | ⟨-, rfl⟩⟩ := configure_ok h
  · obtain ⟨-, raster, hr, rfl⟩ := load_eq_ok.mp hl
    exact ⟨hp.width, hp.height, fun _ hraster => by
      cases hraster
      exact ha _ _ hr⟩
  · exact ⟨hp.width, hp.height, hp.raster⟩

theorem bind_small (ha : assets.Small) (hp : p.Small) (h : p.bind values assets = .ok (some q)) :
    q.Small := by
  obtain ⟨uri, raster, hr, rfl⟩ := bind_some h
  exact ⟨hp.width, hp.height, fun _ hraster => by
    cases hraster
    exact ha _ _ hr⟩

end Picture

/-! ## Plugins -/

namespace Plugin

/-- The sizes of a plugin have 32 bits. -/
def Small : Plugin → Prop
  | image p => p.Small
  | text _ => True
  | qr c => c.Small

variable {p q : Plugin} {assets : AssetSource} {values : RequestValues}

/-- The plugins of a loaded template are small. -/
theorem configured_small (ha : assets.Small) (h : Template.Configured assets p) : p.Small := by
  obtain ⟨entry, declared, he, hc⟩ := h
  cases declared with
  | image d =>
      obtain ⟨q, hq, rfl⟩ := map_eq_ok.mp hc
      obtain ⟨v, hv⟩ := ofEntry_image he
      exact Picture.configure_small ha (Picture.reading_small hv) hq
  | text d =>
      obtain ⟨q, -, rfl⟩ := map_eq_ok.mp hc
      trivial
  | qr d =>
      obtain ⟨q, hq, rfl⟩ := map_eq_ok.mp hc
      obtain ⟨bindings, ink, matrix, -, hm, rfl⟩ := Code.configure_ok hq
      exact Code.small_of_encode rfl hm

theorem bind_small (ha : assets.Small) (hp : p.Small) (h : p.bind values assets = .ok (some q)) :
    q.Small := by
  cases p with
  | image p =>
      obtain ⟨copy, hb, hc⟩ := map_eq_ok.mp h
      obtain ⟨p', rfl, rfl⟩ := Option.map_eq_some_iff.mp hc
      exact Picture.bind_small ha hp hb
  | text p =>
      obtain ⟨copy, -, hc⟩ := map_eq_ok.mp h
      obtain ⟨p', -, rfl⟩ := Option.map_eq_some_iff.mp hc
      trivial
  | qr p =>
      obtain ⟨copy, hb, hc⟩ := map_eq_ok.mp h
      obtain ⟨p', rfl, rfl⟩ := Option.map_eq_some_iff.mp hc
      obtain ⟨text, matrix, hm, rfl⟩ := Code.bind_some hb
      exact Code.small_of_encode rfl hm

end Plugin
end Placard
