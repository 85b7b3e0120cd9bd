/-
# A declared value and the same value in a request

A field of a plugin may be declared, or left out and bound to a key of the request.  If the request
has the declared value under that key, the two come to the same: to plugins that draw the same on every
canvas, or to the same failure.

| | the value is looked at | and in a request |
| :-- | :-- | :-- |
| picture | when the image is loaded, by configuring | by binding |
| caption | when it is drawn | when it is drawn |
| code | when the matrix is made, by configuring | by binding, in the place of a placeholder |

So a value that cannot be used fails earlier where it is declared.  `Comparable` says which failure
answers to which: an image that cannot be had and a text that is too long for its code are faults of
the declaration in one case, and of the request in the other, with the same cause.
-/
import Placard.Proofs.Plugin.Carried
import Placard.Proofs.Plugin.Prepared

namespace Placard

/-! ## How the two compare -/

namespace Plugin

variable {p q d : Plugin} {values : RequestValues} {assets : AssetSource}

/-- What comes of a declared value, and of the same value in a request, where `fault?` is what is
wrong with the value. -/
inductive Comparable (fault? : Option ConfigError) :
    Except PrepareError Plugin → Except PrepareError Plugin → Prop
  /-- Something else is wrong with the declaration. -/
  | declaration (e : ConfigError) : Comparable fault? (.error (.config e)) (.error (.config e))
  /-- The value cannot be used. -/
  | value {e : ConfigError} (h : fault? = some e) :
      Comparable fault? (.error (.config e)) (.error (.bind (.reconfigure e)))
  /-- Something else is wrong with the request. -/
  | request (h : fault? = none) (e : BindError) :
      Comparable fault? (.error (.bind e)) (.error (.bind e))
  | ready (h : fault? = none) {p q : Plugin} (hd : p.DrawsLike q) :
      Comparable fault? (.ok p) (.ok q)

theorem Comparable.of_isOk {fault? : Option ConfigError} {x y : Except PrepareError Plugin}
    (h : Comparable fault? x y) (hx : x.isOk = true) :
    ∃ p q, x = .ok p ∧ y = .ok q ∧ p.DrawsLike q := by
  cases h with
  | declaration e => cases hx
  | value h => cases hx
  | request h e => cases hx
  | ready h hd => exact ⟨_, _, rfl, rfl, hd⟩

/-- Where nothing but the value is wrong with a declaration, binding fails as configuring would. -/
theorem Comparable.of_fault {e : ConfigError} {x : Except PrepareError Plugin}
    (h : Comparable (some e) x (d.prepare values assets)) (hd : (d.configure assets).isOk = true) :
    x = .error (.config e) ∧ d.prepare values assets = .error (.bind (.reconfigure e)) := by
  generalize hy : d.prepare values assets = y at h
  cases h with
  | declaration e' =>
      unfold prepare at hy
      split at hy
      · rename_i hc
        rw [hc] at hd
        cases hd
      · split at hy <;> cases hy
  | value h =>
      cases h
      exact ⟨rfl, rfl⟩
  | request h e' => cases h
  | ready h hd' => cases h

section Comparable

variable {s b : Plugin} {fault? : Option ConfigError}

theorem comparable_of_declaration {e : ConfigError} (hs : s.configure assets = .error e)
    (hb : b.configure assets = .error e) :
    Comparable fault? (s.prepare values assets) (b.prepare values assets) := by
  rw [prepare, prepare, hs, hb]
  exact .declaration e

theorem comparable_of_value {e : ConfigError} (h : fault? = some e)
    (hs : s.configure assets = .error e) (hb : b.configure assets = .ok q)
    (hq : q.bind values assets = .error (.reconfigure e)) :
    Comparable fault? (s.prepare values assets) (b.prepare values assets) := by
  rw [prepare, prepare, hs, hb]
  simp only [hq]
  exact .value h

theorem comparable_of_request {e : BindError} (h : fault? = none)
    (hs : s.configure assets = .ok p) (hp : p.bind values assets = .error e)
    (hb : b.configure assets = .ok q) (hq : q.bind values assets = .error e) :
    Comparable fault? (s.prepare values assets) (b.prepare values assets) := by
  rw [prepare, prepare, hs, hb]
  simp only [hp, hq]
  exact .request h e

theorem comparable_of_ready {copy copy' : Option Plugin} (h : fault? = none)
    (hs : s.configure assets = .ok p) (hp : p.bind values assets = .ok copy)
    (hb : b.configure assets = .ok q) (hq : q.bind values assets = .ok copy')
    (hd : (copy.getD p).DrawsLike (copy'.getD q)) :
    Comparable fault? (s.prepare values assets) (b.prepare values assets) := by
  rw [prepare, prepare, hs, hb]
  simp only [hp, hq]
  exact .ready h hd

end Comparable

end Plugin

/-! ## Pictures -/

namespace Picture

variable {p : Picture} {f : PictureFields} {values : RequestValues} {assets : AssetSource}
  {declared : List (String × String)} {uri : String}

/-- What is wrong with an image. -/
def imageFault? (assets : AssetSource) (uri : String) : Option ConfigError :=
  if uri.isEmpty then some (.missingField "image")
  else
    match assets.image uri with
    | .error e => some (.asset uri e)
    | .ok _ => none

theorem load_of_fault {e : ConfigError} (h : imageFault? assets uri = some e)
    (hp : p.image = uri) : p.load assets = .error e := by
  subst hp
  unfold imageFault? at h
  unfold load
  cases hi : p.image.isEmpty with
  | true =>
      rw [hi] at h
      exact congrArg Except.error (Option.some.inj h)
  | false =>
      rw [hi] at h
      cases ha : assets.image p.image with
      | error cause =>
          simp only [ha] at h
          exact congrArg Except.error (Option.some.inj h)
      | ok raster =>
          simp only [ha] at h
          cases h

/-- Where nothing is wrong with an image, every picture of it is loaded with its raster. -/
theorem load_of_sound (h : imageFault? assets uri = none) :
    ∃ raster, ∀ p : Picture, p.image = uri →
      p.load assets = .ok { p with raster := some raster, cache := .empty p.mode } := by
  unfold imageFault? at h
  cases hi : uri.isEmpty with
  | true =>
      rw [hi] at h
      cases h
  | false =>
      rw [hi] at h
      cases ha : assets.image uri with
      | error cause =>
          simp only [ha] at h
          cases h
      | ok raster =>
          refine ⟨raster, ?_⟩
          rintro p rfl
          exact load_eq_ok.mpr ⟨hi, raster, ha, rfl⟩

/-- Entries all of which have one image name it, in a picture that has not been loaded. -/
theorem foldl_bindEntry_carried (hr : p.raster = none) (hne : p.bindings.entries ≠ [])
    (h : ∀ e ∈ p.bindings.entries, values.text e.2 = uri) :
    p.bindings.entries.foldl (bindEntry values) ⟨p, false⟩ = ⟨{ p with image := uri }, true⟩ := by
  let put : Change Picture → Change Picture := fun c =>
    if uri ≠ c.state.image ∨ c.state.raster.isNone then ⟨{ c.state with image := uri }, true⟩ else c
  have hstep : ∀ c, ∀ e ∈ p.bindings.entries, bindEntry values c e = put c := by
    intro c e he
    obtain ⟨field, key⟩ := e
    cases field
    show (if values.text key ≠ c.state.image ∨ c.state.raster.isNone then
      Change.mk { c.state with image := values.text key } true else c) = put c
    rw [h _ he]
  have hput : ∀ c, put (put c) = put c := by
    intro c
    by_cases hc : uri ≠ c.state.image ∨ c.state.raster.isNone
    · rw [show put c = ⟨{ c.state with image := uri }, true⟩ from if_pos hc]
      show (if _ then _ else _) = _
      split <;> rfl
    · have hsame : put c = c := if_neg hc
      rw [hsame, hsame]
  -- without a raster the first entry counts as a change, whatever image is there
  rw [foldl_idempotent hne hstep hput]
  exact if_pos (Or.inr (by rw [hr]; rfl))

/-- The picture that declares its image. -/
def declaring (f : PictureFields) (declared : List (String × String)) : Picture :=
  { f with binding := Binding.without PictureField.ofName? (fun _ => true) declared }

/-- The same picture without its image, which it leaves to the request. -/
def leaving (f : PictureFields) (declared : List (String × String)) : Picture :=
  { f with binding := declared, image := "" }

/-- A fault apart from the image is one of both declarations.  Without one, the image is loaded by
configuring if it is declared, and left to the request otherwise. -/
theorem configure_declaring (f : PictureFields) (assets : AssetSource)
    (hcarry : Binding.Carries PictureField.ofName? (boundValue values) declared .image
      (.text f.image)) :
    (∃ e, (declaring f declared).configure assets = .error e ∧
        (leaving f declared).configure assets = .error e) ∨
      ∃ bindings s b, Binding.ofDeclared .image PictureField.ofName? declared = .ok bindings ∧
        s = { declaring f declared with bindings := .empty, rect := f.rect.normalized } ∧
        b = { leaving f declared with bindings := bindings, rect := f.rect.normalized } ∧
        (declaring f declared).configure assets = s.load assets ∧
        (leaving f declared).configure assets = .ok b := by
  unfold configure
  have hwithout : Binding.ofDeclared .image PictureField.ofName? (declaring f declared).binding =
      (Binding.ofDeclared .image PictureField.ofName? declared).map (·.drop fun _ => true) :=
    Binding.ofDeclared_without
  rw [hwithout, show (leaving f declared).binding = declared from rfl]
  cases hd : Binding.ofDeclared .image PictureField.ofName? declared with
  | error e => exact Or.inl ⟨e, rfl, rfl⟩
  | ok bindings =>
      have hsome : ¬ bindings.isEmpty = true := fun he =>
        (hcarry.entries hd).1 (List.isEmpty_iff.mp he)
      rw [show (Except.ok bindings).map (·.drop fun _ => true) = .ok .empty from
        congrArg Except.ok Binding.drop_all]
      by_cases hproduct : (leaving f declared).isProduct ∧ (f.width = 0 ∨ f.height = 0)
      · exact Or.inl ⟨_, if_pos hproduct, if_pos hproduct⟩
      · exact Or.inr ⟨bindings, _, _, rfl, rfl, rfl, (if_neg hproduct).trans (if_pos rfl),
          (if_neg hproduct).trans (if_neg hsome)⟩

theorem bind_carried (assets : AssetSource) (hr : p.raster = none) (hne : p.bindings.entries ≠ [])
    (h : ∀ e ∈ p.bindings.entries, values.text e.2 = uri) :
    (∀ e, ({ p with image := uri } : Picture).load assets = .error e →
        p.bind values assets = .error (.reconfigure e)) ∧
      ∀ q, ({ p with image := uri } : Picture).load assets = .ok q →
        p.bind values assets = .ok (some q) := by
  unfold bind
  rw [foldl_bindEntry_carried hr hne h]
  simp only [Change.result?, if_true]
  constructor
  · intro e he
    rw [he]
  · intro q hq
    rw [hq]

/-- A declared image and the same image in a request come to the same. -/
theorem prepare_comparable
    (hcarry : Binding.Carries PictureField.ofName? (boundValue values) declared .image
      (.text f.image)) :
    Plugin.Comparable (imageFault? assets f.image)
      (Plugin.prepare (.image (declaring f declared)) values assets)
      (Plugin.prepare (.image (leaving f declared)) values assets) := by
  rcases configure_declaring f assets hcarry with
    ⟨e, hs, hb⟩ | ⟨bindings, s, b, hd, hse, hbe, hs, hb⟩
  · exact Plugin.comparable_of_declaration (congrArg (Except.map Plugin.image) hs)
      (congrArg (Except.map Plugin.image) hb)
  · obtain ⟨hne, hentries⟩ := hcarry.entries hd
    have hsimage : s.image = f.image := by rw [hse]; rfl
    have hbindings : b.bindings = bindings := by rw [hbe]
    have hraster : b.raster = none := by
      rw [hbe]
      rfl
    have hsome : b.bindings.entries ≠ [] := by
      rw [hbindings]
      exact hne
    have htexts : ∀ e ∈ b.bindings.entries, values.text e.2 = f.image := by
      rw [hbindings]
      exact fun e he => BoundValue.text.inj (Except.ok.inj (hentries e he rfl))
    obtain ⟨hfault, hload⟩ := bind_carried assets hraster hsome htexts
    cases hf : imageFault? assets f.image with
    | some e =>
        rw [load_of_fault hf hsimage] at hs
        have hbind := hfault e (load_of_fault hf rfl)
        exact Plugin.comparable_of_value rfl (congrArg (Except.map Plugin.image) hs)
          (congrArg (Except.map Plugin.image) hb)
          (congrArg (Except.map (Option.map Plugin.image)) hbind)
    | none =>
        obtain ⟨raster, hsound⟩ := load_of_sound hf
        have hl := hsound s hsimage
        have hbind := hload _ (hsound _ rfl)
        have hidle : ({ s with raster := some raster, cache := .empty s.mode } : Picture).bind
            values assets = .ok none := by
          rw [hse]
          rfl
        rw [hl] at hs
        refine Plugin.comparable_of_ready rfl (congrArg (Except.map Plugin.image) hs)
          (congrArg (Except.map (Option.map Plugin.image)) hidle)
          (congrArg (Except.map Plugin.image) hb)
          (congrArg (Except.map (Option.map Plugin.image)) hbind)
          (Plugin.drawsLike_of_bare (load_kept hl) (bind_kept hbind) ?_)
        rw [hse, hbe]
        rfl

end Picture

/-! ## Codes -/

namespace Code

variable {c : Code} {f : CodeFields} {values : RequestValues} {declared : List (String × String)}
  {text : String}

/-- What is wrong with the text of a code. -/
def textFault? (level : Recovery) (text : String) : Option ConfigError :=
  match Matrix.encode text level with
  | .error e => some e
  | .ok _ => none

/-- The code that declares its text. -/
def declaring (f : CodeFields) (declared : List (String × String)) : Code :=
  { f with binding := Binding.without CodeField.ofName? (fun _ => true) declared }

/-- The same code without its text, which it leaves to the request. -/
def leaving (f : CodeFields) (declared : List (String × String)) : Code :=
  { f with binding := declared, text := "" }

/-- The text that stands in for one that is left to the request fits into every code. -/
theorem encode_placeholder (level : Recovery) : ∃ m, Matrix.encode placeholder level = .ok m := by
  have h : (Symbol.choose level placeholder.toUTF8.toList).isSome = true := by
    cases level <;> decide +kernel
  obtain ⟨chosen, hc⟩ := Option.isSome_iff_exists.mp h
  unfold Matrix.encode Matrix.ofPayload?
  rw [hc]
  exact ⟨_, rfl⟩

/-- Entries all of which have one text put it, unless it is that of the code itself. -/
theorem foldl_bindEntry_carried {base : Code} {s : Change Code}
    {entries : List (CodeField × String)} (hne : entries ≠ [])
    (h : ∀ e ∈ entries, values.text e.2 = text) :
    entries.foldl (bindEntry base values) s =
      if text = base.text then s else ⟨{ s.state with text := text }, true⟩ := by
  refine foldl_idempotent (g := fun s : Change Code =>
    if text = base.text then s else ⟨{ s.state with text := text }, true⟩) hne ?_ ?_
  · intro s e he
    obtain ⟨field, key⟩ := e
    cases field
    show (if values.text key = base.text then s else _) = _
    rw [h _ he]
  · intro s
    by_cases ht : text = base.text
    · rw [if_pos ht, if_pos ht]
    · rw [if_neg ht, if_neg ht]

theorem bind_carried (hc : c.Current) (hne : c.bindings.entries ≠ [])
    (h : ∀ e ∈ c.bindings.entries, values.text e.2 = text) :
    (∀ e, Matrix.encode text c.recovery = .error e →
        c.bind values = .error (.reconfigure e)) ∧
      ∀ m, Matrix.encode text c.recovery = .ok m → ∃ copy, c.bind values = .ok copy ∧
        copy.getD c = { c with text := text, matrix := some m } := by
  obtain ⟨m₀, hmatrix, hm₀⟩ := hc
  unfold bind
  rw [foldl_bindEntry_carried hne h]
  -- the request may have the text of the code itself, the placeholder for one: its matrix is then
  -- the one at hand
  by_cases ht : text = c.text
  · subst ht
    rw [if_pos rfl]
    constructor
    · intro e he
      cases hm₀.symm.trans he
    · intro m hm
      cases hm₀.symm.trans hm
      refine ⟨none, rfl, ?_⟩
      rw [← hmatrix]
      rfl
  · rw [if_neg ht]
    simp only [Change.result?, if_true, build]
    constructor
    · intro e he
      simp only [he, Except.map]
    · intro m hm
      simp only [hm, Except.map]
      exact ⟨_, rfl, rfl⟩

/-- A fault apart from the text is one of both declarations.  Without one, the matrix is made of the
text if it is declared, and of the placeholder otherwise. -/
theorem configure_declaring (declared : List (String × String)) (ht : f.text ≠ "") :
    (∃ e, (declaring f declared).configure = .error e ∧ (leaving f declared).configure = .error e) ∨
      ∃ bindings ink m₀ s b, Binding.ofDeclared .qr CodeField.ofName? declared = .ok bindings ∧
        s = { declaring f declared with bindings := .empty, foreground := ink } ∧
        b = { leaving f declared with
          bindings := bindings, foreground := ink, text := placeholder, matrix := some m₀ } ∧
        (declaring f declared).configure = s.build ∧ (leaving f declared).configure = .ok b := by
  unfold configure
  have hwithout : Binding.ofDeclared .qr CodeField.ofName? (declaring f declared).binding =
      (Binding.ofDeclared .qr CodeField.ofName? declared).map (·.drop fun _ => true) :=
    Binding.ofDeclared_without
  have htext : (declaring f declared).text.isEmpty = false := by
    rw [show (declaring f declared).text = f.text from rfl]
    simpa using ht
  rw [hwithout, htext, show (leaving f declared).binding = declared from rfl,
    show (declaring f declared).size = f.size from rfl,
    show (leaving f declared).size = f.size from rfl]
  dsimp only
  by_cases hsize : (!decide (0 < f.size ∧ f.size ≤ 1)) = true
  · rw [if_pos hsize, if_pos hsize]
    exact Or.inl ⟨_, rfl, rfl⟩
  · rw [if_neg hsize, if_neg hsize]
    cases hd : Binding.ofDeclared .qr CodeField.ofName? declared with
    | error e => exact Or.inl ⟨e, rfl, rfl⟩
    | ok bindings =>
        rw [show (Except.ok bindings).map (·.drop fun _ => true) = .ok .empty from
            congrArg Except.ok Binding.drop_all,
          show (declaring f declared).color = f.color from rfl,
          show (leaving f declared).color = f.color from rfl]
        cases Rgba.parseOr f.color .white with
        | error e => exact Or.inl ⟨e, rfl, rfl⟩
        | ok ink =>
            obtain ⟨m₀, hm₀⟩ := encode_placeholder f.recovery
            exact Or.inr ⟨bindings, ink, m₀, _, _, rfl, rfl, rfl, rfl,
              build_eq_ok.mpr ⟨m₀, hm₀, rfl⟩⟩

/-- A declared text and the same text in a request come to the same. -/
theorem prepare_comparable (ht : f.text ≠ "") (assets : AssetSource)
    (hcarry : Binding.Carries CodeField.ofName? (boundValue values) declared .text
      (.text f.text)) :
    Plugin.Comparable (textFault? f.recovery f.text)
      (Plugin.prepare (.qr (declaring f declared)) values assets)
      (Plugin.prepare (.qr (leaving f declared)) values assets) := by
  rcases configure_declaring declared ht with
    ⟨e, hs, hb⟩ | ⟨bindings, ink, m₀, s, b, hd, hse, hbe, hs, hb⟩
  · exact Plugin.comparable_of_declaration (congrArg (Except.map Plugin.qr) hs)
      (congrArg (Except.map Plugin.qr) hb)
  · obtain ⟨hne, hentries⟩ := hcarry.entries hd
    have hbindings : b.bindings = bindings := by rw [hbe]
    have hrecovery : b.recovery = f.recovery := by
      rw [hbe]
      rfl
    have hsome : b.bindings.entries ≠ [] := by
      rw [hbindings]
      exact hne
    have htexts : ∀ e ∈ b.bindings.entries, values.text e.2 = f.text := by
      rw [hbindings]
      exact fun e he => BoundValue.text.inj (Except.ok.inj (hentries e he rfl))
    obtain ⟨hfault, hmade⟩ := bind_carried (configure_current hb) hsome htexts
    rw [hrecovery] at hfault hmade
    cases hm : Matrix.encode f.text f.recovery with
    | error e =>
        have hbuild : s.build = .error e := by
          rw [hse]
          exact congrArg (Except.map _) hm
        rw [hbuild] at hs
        exact Plugin.comparable_of_value (by rw [textFault?, hm])
          (congrArg (Except.map Plugin.qr) hs) (congrArg (Except.map Plugin.qr) hb)
          (congrArg (Except.map (Option.map Plugin.qr)) (hfault e hm))
    | ok m =>
        have hbuild : s.build = .ok { s with matrix := some m } := by
          rw [hse]
          exact congrArg (Except.map _) hm
        have hidle : ({ s with matrix := some m } : Code).bind values = .ok none := by
          rw [hse]
          rfl
        rw [hbuild] at hs
        obtain ⟨copy, hcopy, hget⟩ := hmade m hm
        refine Plugin.comparable_of_ready (by rw [textFault?, hm])
          (congrArg (Except.map Plugin.qr) hs)
          (congrArg (Except.map (Option.map Plugin.qr)) hidle)
          (congrArg (Except.map Plugin.qr) hb)
          (congrArg (Except.map (Option.map Plugin.qr)) hcopy)
          (Plugin.drawsLike_of_bare trivial ?_ ?_)
        · rw [Option.getD_map]
          trivial
        · rw [Option.getD_map, Option.getD_map, hget, hse, hbe]
          rfl

end Code

/-! ## Captions -/

namespace Caption

variable {c d : Caption} {f : CaptionFields} {left : CaptionField → Bool}
  {values : RequestValues} {assets : AssetSource} {declared : List (String × String)}

/-- The caption that declares all of its fields. -/
def declaring (f : CaptionFields) (left : CaptionField → Bool) (declared : List (String × String)) :
    Caption :=
  { f with binding := Binding.without CaptionField.ofName? left declared }

/-- The same caption without some of its fields, which it leaves to the request. -/
def leaving (f : CaptionFields) (left : CaptionField → Bool) (declared : List (String × String)) :
    Caption :=
  { f with
    binding := declared
    text := if left .text then "" else f.text
    price := if left .price then 0 else f.price
    promotionPrice := if left .promotionPrice then 0 else f.promotionPrice
    decimalPrice := if left .decimalPrice then 0 else f.decimalPrice
    intPrice := if left .intPrice then 0 else f.intPrice }

/-- Configuring does not look at the fields that can be bound. -/
theorem configure_declaring (f : CaptionFields) (left : CaptionField → Bool)
    (declared : List (String × String)) (assets : AssetSource) :
    (∃ e, (declaring f left declared).configure assets = .error e ∧
        (leaving f left declared).configure assets = .error e) ∨
      ∃ bindings spacing ink face s b,
        Binding.ofDeclared .text CaptionField.ofName? declared = .ok bindings ∧
        s = { declaring f left declared with
          lineSpacing := spacing, bindings := bindings.drop left, ink := ink, face := face } ∧
        b = { leaving f left declared with
          lineSpacing := spacing, bindings := bindings, ink := ink, face := face } ∧
        (declaring f left declared).configure assets = .ok s ∧
        (leaving f left declared).configure assets = .ok b := by
  unfold configure
  have hwithout : Binding.ofDeclared .text CaptionField.ofName?
      (declaring f left declared).binding =
      (Binding.ofDeclared .text CaptionField.ofName? declared).map (·.drop left) :=
    Binding.ofDeclared_without
  rw [hwithout, show (leaving f left declared).binding = declared from rfl,
    show (declaring f left declared).fontUri = f.fontUri from rfl,
    show (leaving f left declared).fontUri = f.fontUri from rfl,
    show (declaring f left declared).fontSize = f.fontSize from rfl,
    show (leaving f left declared).fontSize = f.fontSize from rfl,
    show (declaring f left declared).color = f.color from rfl,
    show (leaving f left declared).color = f.color from rfl]
  dsimp only
  by_cases huri : f.fontUri.isEmpty = true
  · rw [if_pos huri, if_pos huri]
    exact Or.inl ⟨_, rfl, rfl⟩
  rw [if_neg huri, if_neg huri]
  by_cases hsize : f.fontSize ≤ 0
  · rw [if_pos hsize, if_pos hsize]
    exact Or.inl ⟨_, rfl, rfl⟩
  rw [if_neg hsize, if_neg hsize]
  cases Binding.ofDeclared .text CaptionField.ofName? declared with
  | error e => exact Or.inl ⟨e, rfl, rfl⟩
  | ok bindings =>
      cases Rgba.parseOr f.color .black with
      | error e => exact Or.inl ⟨e, rfl, rfl⟩
      | ok ink =>
          cases FontFace.load assets f.fontUri (narrow f.fontSize) with
          | error e => exact Or.inl ⟨e, rfl, rfl⟩
          | ok face =>
              exact Or.inr ⟨bindings, _, ink, some face, _, _, rfl, rfl, rfl, rfl, rfl⟩

/-- What a request has for an entry, with the field that it is for. -/
def entryValue (values : RequestValues) (e : CaptionField × String) :
    Except BindError (CaptionField × BoundValue) :=
  (boundValue values e.1 e.2).map fun v => (e.1, v)

/-- Binding fails as the request has no value for one of the entries. -/
theorem bind_fault :
    (c.bind values).map (fun _ => ()) =
      (c.bindings.entries.mapM (entryValue values)).map fun _ => () := by
  have hloop : (c.bindings.entries.foldlM (bindEntry values) ⟨c, false⟩).map (fun _ => ()) =
      (c.bindings.entries.mapM (entryValue values)).map fun _ => () := by
    refine foldlM_fault fun s e => ?_
    obtain ⟨field, key⟩ := e
    cases field
    case text => rfl
    all_goals
      simp only [bindEntry, entryValue, boundValue]
      cases values.amount key with
      | error e => rfl
      | ok n => rfl
  rw [← hloop, bind]
  cases c.bindings.entries.foldlM (bindEntry values) ⟨c, false⟩ with
  | error e => rfl
  | ok s => rfl

/-- The entries for fields that a request carries may be left out, and binding fails the same. -/
theorem bind_fault_drop (v : CaptionField → BoundValue) {bindings : Binding CaptionField}
    (hc : c.bindings = bindings.drop left) (hd : d.bindings = bindings)
    (h : ∀ e ∈ bindings.entries, left e.1 = true → boundValue values e.1 e.2 = .ok (v e.1)) :
    (c.bind values).map (fun _ => ()) = (d.bind values).map fun _ => () := by
  have hentries : c.bindings.entries = d.bindings.entries.filter fun e => !left e.1 := by
    rw [hc, hd]
    rfl
  have hdrop : c.bindings.entries.mapM (entryValue values) =
      (d.bindings.entries.mapM (entryValue values)).map (List.filter fun e => !left e.1) := by
    rw [hentries]
    refine mapM_filter ?_ ?_
    · intro e he hl
      rw [hd] at he
      refine ⟨(e.1, v e.1), ?_⟩
      rw [entryValue, h e he (by simpa using hl)]
      rfl
    · intro e e' he
      obtain ⟨v', -, rfl⟩ := map_eq_ok.mp he
      rfl
  rw [bind_fault, bind_fault, hdrop]
  cases d.bindings.entries.mapM (entryValue values) with
  | error e => rfl
  | ok vs => rfl

theorem withBindable_congr {t t' : String} {p p' q q' m m' n n' : Int64}
    (h : (c.withBindable t p q m n).bound = (d.withBindable t' p' q' m' n').bound) :
    t = t' ∧ p = p' ∧ q = q' ∧ m = m' ∧ n = n' :=
  ⟨BoundValue.text.inj (congrFun h .text), BoundValue.amount.inj (congrFun h .price),
    BoundValue.amount.inj (congrFun h .promotionPrice),
    BoundValue.amount.inj (congrFun h .decimalPrice),
    BoundValue.amount.inj (congrFun h .intPrice)⟩

/-- Declared fields and the same fields in a request come to the same. -/
theorem prepare_comparable
    (hcarry : ∀ field, left field = true → Binding.Carries CaptionField.ofName?
      (boundValue values) declared field (Caption.bound { f with } field)) :
    Plugin.Comparable none
      (Plugin.prepare (.text (declaring f left declared)) values assets)
      (Plugin.prepare (.text (leaving f left declared)) values assets) := by
  rcases configure_declaring f left declared assets with
    ⟨e, hs, hb⟩ | ⟨bindings, spacing, ink, face, s, b, hd, hse, hbe, hs, hb⟩
  · exact Plugin.comparable_of_declaration (congrArg (Except.map Plugin.text) hs)
      (congrArg (Except.map Plugin.text) hb)
  · have hsbindings : s.bindings = bindings.drop left := by rw [hse]
    have hbbindings : b.bindings = bindings := by rw [hbe]
    have hfault : (s.bind values).map (fun _ => ()) = (b.bind values).map fun _ => () :=
      bind_fault_drop (Caption.bound { f with }) hsbindings hbbindings
        fun e he hl => ((hcarry e.1 hl).entries hd).2 e he rfl
    rcases cases_of_fault hfault with ⟨e, hsb, hbb⟩ | ⟨copy, copy', hsb, hbb⟩
    · exact Plugin.comparable_of_request rfl (congrArg (Except.map Plugin.text) hs)
        (congrArg (Except.map (Option.map Plugin.text)) hsb)
        (congrArg (Except.map Plugin.text) hb)
        (congrArg (Except.map (Option.map Plugin.text)) hbb)
    · refine Plugin.comparable_of_ready rfl (congrArg (Except.map Plugin.text) hs)
        (congrArg (Except.map (Option.map Plugin.text)) hsb)
        (congrArg (Except.map Plugin.text) hb)
        (congrArg (Except.map (Option.map Plugin.text)) hbb) ?_
      -- both are known from what the fields that can be bound hold, which is the same by the rule
      obtain ⟨hfs, t, p, q, m, n, hcs⟩ := bind_follows hs hsb
      obtain ⟨hfb, t', p', q', m', n', hcb⟩ := bind_follows hb hbb
      have hsbinding : s.binding = Binding.without CaptionField.ofName? left declared := by
        rw [hse]
        rfl
      have hbbinding : b.binding = declared := by
        rw [hbe]
        rfl
      have hsbound : s.bound = Caption.bound { f with } := by
        rw [hse]
        rfl
      rw [hsbinding] at hfs
      rw [hbbinding] at hfb
      have hbound : (copy.getD s).bound = (copy'.getD b).bound := by
        refine hfs.without_eq hfb ?_ ?_
        · intro field hl
          rw [hsbound, hbe]
          cases field <;> simp [bound, leaving, hl]
        · rw [hsbound]
          exact hcarry
      rw [hcs, hcb] at hbound
      obtain ⟨rfl, rfl, rfl, rfl, rfl⟩ := withBindable_congr hbound
      rw [Option.getD_map, Option.getD_map, hcs, hcb]
      refine Plugin.drawsLike_of_bare trivial trivial ?_
      rw [hse, hbe]
      rfl

end Caption

/-! ## The three kinds -/

namespace Plugin

/-- It does not matter whether a field is declared, or left out and bound to a key under which the
request has the value: an image of any name, a text of a code that is not empty, and any of the texts
and amounts of a caption.  What is drawn is the same on every canvas.  An image that cannot be had
and a text that cannot be encoded fail while configuring in one case, and while binding, for the same
cause, in the other; every other failure is the same.  Where nothing else is bound, a declared plugin
is drawn as it has been configured. -/
theorem declared_comparable_requested (values : RequestValues) (assets : AssetSource) :
    (∀ (f : PictureFields) declared,
      Binding.Carries PictureField.ofName? (Picture.boundValue values) declared .image
        (.text f.image) →
      Comparable (Picture.imageFault? assets f.image)
        (prepare (.image (Picture.declaring f declared)) values assets)
        (prepare (.image (Picture.leaving f declared)) values assets)) ∧
    (∀ (f : CodeFields) declared, f.text ≠ "" →
      Binding.Carries CodeField.ofName? (Code.boundValue values) declared .text (.text f.text) →
      Comparable (Code.textFault? f.recovery f.text)
        (prepare (.qr (Code.declaring f declared)) values assets)
        (prepare (.qr (Code.leaving f declared)) values assets)) ∧
    (∀ (f : CaptionFields) left declared,
      (∀ field, left field = true → Binding.Carries CaptionField.ofName?
        (Caption.boundValue values) declared field (Caption.bound { f with } field)) →
      Comparable none
        (prepare (.text (Caption.declaring f left declared)) values assets)
        (prepare (.text (Caption.leaving f left declared)) values assets)) ∧
    (∀ d : Plugin, d.isBound = false →
      d.prepare values assets = (d.configure assets).mapError .config) :=
  ⟨fun _ _ h => Picture.prepare_comparable h,
    fun _ _ ht h => Code.prepare_comparable ht assets h,
    fun _ _ _ h => Caption.prepare_comparable h,
    fun _ hd => prepare_of_unbound hd⟩

/-- A picture, one whose image is missing, a code and a price. -/
theorem declared_comparable_requested_of_each_kind :
    let source : AssetSource := .ofPictures [("a", .filled 2 1 .white)]
    let values := RequestValues.ofList
      [("pic", .text "a"), ("lost", .text "b"), ("link", .text "hi"), ("cost", .whole 5000)]
    let pic := [("Image", "Pic")]
    let lost := [("image", "lost")]
    let link := [("text", "Link")]
    let cost := [("price", "cost"), ("PRICE", "Cost")]
    let code : CodeFields := { text := "hi", size := 0.5 }
    let price : CaptionFields := { price := 5000, fontUri := "builtin:spleen", fontSize := 24 }
    (∃ p q, prepare (.image (Picture.declaring { image := "a" } pic)) values source = .ok p ∧
      prepare (.image (Picture.leaving { image := "a" } pic)) values source = .ok q ∧
      p.DrawsLike q) ∧
    (∃ e, prepare (.image (Picture.declaring { image := "b" } lost)) values source =
        .error (.config e) ∧
      prepare (.image (Picture.leaving { image := "b" } lost)) values source =
        .error (.bind (.reconfigure e))) ∧
    (∃ p q, prepare (.qr (Code.declaring code link)) values source = .ok p ∧
      prepare (.qr (Code.leaving code link)) values source = .ok q ∧ p.DrawsLike q) ∧
    (∃ p q, prepare (.text (Caption.declaring price (· = .price) cost)) values source = .ok p ∧
      prepare (.text (Caption.leaving price (· = .price) cost)) values source = .ok q ∧
      p.DrawsLike q) := by
  intro source values pic lost link cost code price
  have hall := declared_comparable_requested values source
  refine ⟨?_, ?_, ?_, ?_⟩
  · refine (hall.1 { image := "a" } pic ⟨⟨_, List.mem_singleton_self _, rfl⟩, ?_⟩).of_isOk
      (by decide +kernel)
    intro d hd _
    rw [List.mem_singleton.mp hd]
    rfl
  · have h := hall.1 { image := "b" } lost ⟨⟨_, List.mem_singleton_self _, rfl⟩, by
      intro d hd _
      rw [List.mem_singleton.mp hd]
      rfl⟩
    obtain ⟨e, he⟩ := Option.isSome_iff_exists.mp
      (show (Picture.imageFault? source "b").isSome = true by decide +kernel)
    rw [he] at h
    exact ⟨e, h.of_fault (by decide +kernel)⟩
  · refine (hall.2.1 code link (by decide) ⟨⟨_, List.mem_singleton_self _, rfl⟩, ?_⟩).of_isOk
      (by decide +kernel)
    intro d hd _
    rw [List.mem_singleton.mp hd]
    rfl
  · refine (hall.2.2.1 price (· = .price) cost ?_).of_isOk (by decide +kernel)
    intro field hf
    cases of_decide_eq_true hf
    refine ⟨⟨_, List.mem_cons_self, rfl⟩, ?_⟩
    intro d hd _
    rcases List.mem_pair.mp hd with rfl | rfl
    · rfl
    · rfl

end Plugin
end Placard
