/-
# The prices that captions show

A caption shows a price whole, with the price that a promotion replaces struck through; or two
captions show it in two parts, one the thousands and one the three digits after them.

| | |
| :-- | :-- |
| two parts | are taken from one amount by division, and spell it (`split_price_spells`) |
| a whole price | is a promotion just if the price frames take it for one (`shown_prices`) |

The parts are written apart: each is grouped or filled up with zeros by itself.  That they come to
the whole is a fact about digits, which part at the last three (`digits_thousands`,
`groups_append`), and it takes an amount that has thousands.

A caption and a price frame decide by different tests what a price and a promotional price come to.
They differ where there is no price: a frame then shows nothing, and a caption falls back to the
promotional price.
-/
import Placard.Proofs.Plugin.Binding
import Placard.Proofs.Price

namespace Placard

namespace Price

variable {locale : Locale} {separator : Char} {ds three : List Char} {n q r : Nat} {v : Int64}

/-! ## The last three digits -/

/-- The last three digits of a number, zeros included. -/
def lastThree (r : Nat) : List Char :=
  [Nat.digitChar (r / 100), Nat.digitChar (r / 10 % 10), Nat.digitChar (r % 10)]

theorem digits_of_lt_ten (h : n < 10) : digits n = [Nat.digitChar n] := by
  rw [digits_eq, Nat.toDigits_of_lt_base h]

theorem digits_of_ten_le (h : 10 ≤ n) : digits n = digits (n / 10) ++ [Nat.digitChar (n % 10)] := by
  rw [digits_eq, digits_eq, Nat.toDigits_of_base_le (by decide) h]

theorem digits_thousands (h : 1000 ≤ n) : digits n = digits (n / 1000) ++ lastThree (n % 1000) := by
  have hhundreds : n % 1000 / 100 = n / 10 / 10 % 10 := by omega
  have htens : n % 1000 / 10 % 10 = n / 10 % 10 := by omega
  have hones : n % 1000 % 10 = n % 10 := by omega
  rw [digits_of_ten_le (by omega), digits_of_ten_le (n := n / 10) (by omega),
    digits_of_ten_le (n := n / 10 / 10) (by omega), Nat.div_div_eq_div_mul, Nat.div_div_eq_div_mul,
    lastThree, hhundreds, htens, hones, Nat.div_div_eq_div_mul, List.append_assoc,
    List.append_assoc]
  rfl

/-- The last three digits are those of the number, filled up with zeros. -/
theorem fill_digits (h : r < 1000) :
    List.replicate (3 - (digits r).length) '0' ++ digits r = lastThree r := by
  have hzero : Nat.digitChar 0 = '0' := rfl
  unfold lastThree
  by_cases hones : r < 10
  · rw [digits_of_lt_ten hones, show r / 100 = 0 by omega, show r / 10 % 10 = 0 by omega,
      show r % 10 = r by omega, hzero]
    rfl
  · rw [digits_of_ten_le (by omega)]
    by_cases htens : r < 100
    · rw [digits_of_lt_ten (n := r / 10) (by omega), show r / 100 = 0 by omega,
        show r / 10 % 10 = r / 10 by omega, hzero]
      rfl
    · rw [digits_of_ten_le (n := r / 10) (by omega), digits_of_lt_ten (n := r / 10 / 10) (by omega),
        show r / 10 / 10 = r / 100 by omega]
      rfl

/-- Three more digits are a group of their own. -/
theorem groups_append (h : ds ≠ []) (hthree : three.length = 3) :
    groups separator (ds ++ three) = groups separator ds ++ separator :: three := by
  have hlast : groups separator three = three := by
    obtain ⟨a, b, c, rfl⟩ := List.length_eq_three.mp hthree
    rfl
  induction ds with
  | nil => exact absurd rfl h
  | cons d ds ih =>
      cases ds with
      | nil =>
          have hne : three ≠ [] := List.ne_nil_of_length_pos (by omega)
          rw [List.singleton_append, groups, if_pos ⟨hne, by omega⟩, hlast]
          rfl
      | cons next ds =>
          -- three more digits leave what decides about a separator as it was
          have hmod : (next :: ds ++ three).length % 3 = (next :: ds).length % 3 := by
            rw [List.length_append, hthree, Nat.add_mod_right]
          have hrest := ih (List.cons_ne_nil _ _)
          rw [List.cons_append, groups, groups, hmod, hrest]
          by_cases hfull : (next :: ds).length % 3 = 0
          · rw [if_pos ⟨List.cons_ne_nil _ _, hfull⟩, if_pos ⟨List.cons_ne_nil _ _, hfull⟩]
            rfl
          · rw [if_neg fun hc => hfull hc.2, if_neg fun hc => hfull hc.2]
            rfl

theorem toInt_div_thousand : (v / 1000).toInt = v.toInt.tdiv 1000 :=
  Int64.toInt_div_of_ne_right v 1000 (by decide)

theorem toInt_mod_thousand : (v % 1000).toInt = v.toInt.tmod 1000 := Int64.toInt_mod v 1000

/-- An amount with thousands is written by them, a separator and its last three digits. -/
theorem toList_grouped_thousands (h : 1000 ≤ v) :
    (grouped locale v).toList = (grouped locale (v / 1000)).toList ++
      locale.separator :: lastThree (v % 1000).toInt.natAbs := by
  have hv : 1000 ≤ v.toInt := Int64.le_iff_toInt_le.mp h
  have hdiv : (v / 1000).toInt.natAbs = v.toInt.natAbs / 1000 := by
    rw [toInt_div_thousand, Int.natAbs_tdiv]
    rfl
  have hmod : (v % 1000).toInt.natAbs = v.toInt.natAbs % 1000 := by
    rw [toInt_mod_thousand, Int.natAbs_tmod]
    rfl
  have hsign : sign v = [] := if_neg fun hneg => by
    have := lt_zero_iff.mp hneg
    omega
  have hsign' : sign (v / 1000) = [] := if_neg fun hneg => by
    have hlt := lt_zero_iff.mp hneg
    rw [toInt_div_thousand, Int.tdiv_eq_ediv_of_nonneg (by omega)] at hlt
    omega
  have hne : digits (v.toInt.natAbs / 1000) ≠ [] := digits_eq ▸ Nat.toDigits_ne_nil
  rw [toList_grouped, toList_grouped, hsign, hsign', hdiv, hmod, digits_thousands (by omega),
    groups_append hne rfl]
  rfl

end Price

namespace Caption

variable {b c d : Caption} {assets : AssetSource} {values : RequestValues} {face : FontFace}
  {field : CaptionField} {key : String} {v : Int64} {width height : Nat}

/-! ## Captions made for a request -/

/-- The caption is what a configured one is bound to for a request, and the last entry that names
the field asks for the amount. -/
def BoundTo (values : RequestValues) (field : CaptionField) (v : Int64) (b : Caption) : Prop :=
  ∃ (d : Caption) (assets : AssetSource) (c : Caption) (copy : Option Caption) (key : String),
    d.configure assets = .ok c ∧ c.bind values = .ok copy ∧ b = copy.getD c ∧
      Binding.lastKey? CaptionField.ofName? c.binding field = some key ∧ values.amount key = .ok v

/-- A field has what the request has for it: a price whole, and its parts by division. -/
theorem BoundTo.field_eq (h : b.BoundTo values field v) :
    match field with
    | .text => True
    | .price => b.price = v
    | .promotionPrice => b.promotionPrice = v
    | .decimalPrice => b.decimalPrice = v % 1000
    | .intPrice => b.intPrice = v / 1000 := by
  obtain ⟨d, assets, c, copy, key, hc, hb, rfl, hkey, hv⟩ := h
  have hfollows := (bind_follows hc hb).1 field
  rw [hkey] at hfollows
  cases field
  case text => trivial
  all_goals
    change boundValue values _ key = _ at hfollows
    rw [boundValue, hv] at hfollows
    exact (BoundValue.amount.inj (Except.ok.inj hfollows)).symm

theorem configure_face (h : d.configure assets = .ok c) : ∃ face, c.face = some face := by
  obtain ⟨_, _, face, -, -, -, rfl⟩ := configure_ok h
  exact ⟨face, rfl⟩

theorem BoundTo.exists_face (h : b.BoundTo values field v) : ∃ face, b.face = some face := by
  obtain ⟨d, assets, c, copy, key, hc, hb, rfl, -, -⟩ := h
  obtain ⟨_, _, _, _, _, hcopy⟩ := (bind_follows hc hb).2
  obtain ⟨face, hface⟩ := configure_face hc
  exact ⟨face, hcopy ▸ hface⟩

/-! ## Texts that are drawn -/

/-- The texts of a caption on a canvas of the given size. -/
def texts (c : Caption) (width height : Nat) : Except DrawError (List String) :=
  (c.layout width height).map fun l => l.runs.map (·.text)

theorem texts_thousands (hface : c.face = some face) (hmode : c.mode = .thousands) :
    c.texts width height = .ok [c.thousandsText] := by
  rw [texts, layout, hface]
  dsimp only
  rw [hmode]
  rfl

theorem texts_decimal (hface : c.face = some face) (hmode : c.mode = .decimal) :
    c.texts width height = .ok [c.decimalText] := by
  rw [texts, layout, hface]
  dsimp only
  rw [hmode]
  rfl

theorem layout_price (hface : c.face = some face) (hmode : c.mode = .price) :
    c.layout width height = .ok (c.priceLayout face) := by
  rw [layout, hface]
  dsimp only
  rw [hmode]

theorem texts_price (hface : c.face = some face) (hmode : c.mode = .price) (hprice : 0 < c.price)
    (hpromo : ¬ (0 < c.promotionPrice ∧ c.promotionPrice < c.price)) :
    c.texts width height = .ok [c.priceText c.price] := by
  rw [texts, layout_price hface hmode, priceLayout, if_neg hpromo]
  dsimp only
  rw [if_pos hprice, if_pos hprice]
  rfl

/-! ## A price in two parts -/

theorem toList_padded {n : Int64} (hpos : 0 ≤ n.toInt) (hlt : n.toInt < 1000) :
    (padded n).toList = Price.lastThree n.toInt.natAbs := by
  have hsign : ¬ n < 0 := fun hneg => by
    have := Price.lt_zero_iff.mp hneg
    omega
  rw [padded, String.toList_ofList, if_neg hsign, List.length_nil, Nat.sub_zero, List.nil_append,
    Price.fill_digits (by omega)]

/-- The thousands and the last digits of an amount, one after the other, are the whole amount. -/
theorem thousandsText_append_decimalText {t d p : Caption} (hv : 1000 ≤ v)
    (ht : t.intPrice = v / 1000) (hd : d.decimalPrice = v % 1000) (hlocale : t.locale = p.locale)
    (hsuffix : d.suffix = p.suffix) : t.thousandsText ++ d.decimalText = p.priceText v := by
  have hge : 1000 ≤ v.toInt := Int64.le_iff_toInt_le.mp hv
  have hmod : (v % 1000).toInt = v.toInt % 1000 := by
    rw [Price.toInt_mod_thousand, Int.tmod_eq_emod_of_nonneg (by omega)]
  have hpadded : (padded (v % 1000)).toList = Price.lastThree (v % 1000).toInt.natAbs :=
    toList_padded (by omega) (by omega)
  rw [← String.toList_inj, thousandsText, decimalText, priceText, ht, hd, hlocale, hsuffix]
  simp only [String.toList_append, String.toList_singleton, hpadded,
    Price.toList_grouped_thousands hv, List.append_assoc, List.cons_append, List.nil_append]

/-- An amount that is asked for in two parts comes to them without a remainder.  If it has
thousands, then the texts that are drawn for the parts come to the text of the whole, where the
captions agree in locale and currency; and that is what is drawn for the whole if no promotion
replaces it. -/
theorem split_price_spells (values : RequestValues) (v : Int64) :
    (∀ b : Caption, b.BoundTo values .intPrice v → b.BoundTo values .decimalPrice v →
      b.intPrice.toInt * 1000 + b.decimalPrice.toInt = v.toInt) ∧
    (1000 ≤ v → ∀ t d p : Caption,
      t.BoundTo values .intPrice v → t.mode = .thousands →
      d.BoundTo values .decimalPrice v → d.mode = .decimal →
      p.BoundTo values .price v → p.mode = .price →
      t.locale = p.locale → d.suffix = p.suffix →
      ∀ width height, ∃ thousands decimals,
        t.texts width height = .ok [thousands] ∧ d.texts width height = .ok [decimals] ∧
        thousands ++ decimals = p.priceText v ∧
        (¬ (0 < p.promotionPrice ∧ p.promotionPrice < v) →
          p.texts width height = .ok [p.priceText v])) := by
  constructor
  · intro b hint hdecimal
    have hi : b.intPrice = v / 1000 := hint.field_eq
    have hd : b.decimalPrice = v % 1000 := hdecimal.field_eq
    rw [hi, hd, Price.toInt_div_thousand, Price.toInt_mod_thousand, Int.mul_comm]
    exact Int.mul_tdiv_add_tmod v.toInt 1000
  · intro hv t d p ht htmode hd hdmode hp hpmode hlocale hsuffix width height
    obtain ⟨_, htface⟩ := ht.exists_face
    obtain ⟨_, hdface⟩ := hd.exists_face
    obtain ⟨_, hpface⟩ := hp.exists_face
    have hprice : p.price = v := hp.field_eq
    have hpos : 0 < p.price := hprice ▸ Int64.lt_of_lt_of_le (show (0 : Int64) < 1000 by decide) hv
    refine ⟨t.thousandsText, d.decimalText, texts_thousands htface htmode,
      texts_decimal hdface hdmode,
      thousandsText_append_decimalText hv ht.field_eq hd.field_eq hlocale hsuffix, fun hpromo => ?_⟩
    rw [texts_price hpface hpmode hpos (hprice ▸ hpromo), hprice]

/-- Declared captions of one amount: the whole price, its thousands, its last digits. -/
def priceCaption : Caption :=
  { fontUri := "builtin:spleen", fontSize := 24, binding := [("price", "amount")] }

def thousandsCaption : Caption :=
  { fontUri := "builtin:spleen", fontSize := 24, isInt := true,
    binding := [("INT_PRICE", "Amount")] }

def decimalCaption : Caption :=
  { fontUri := "builtin:spleen", fontSize := 24, isDec := true, strikeFull := true,
    binding := [("decimal_price", "amount"), ("int_price", "amount")] }

/-- A caption that is configured and bound, from a check of all steps. -/
theorem exists_boundTo (d : Caption) (assets : AssetSource) (values : RequestValues)
    (key : String) (v : Int64) (fields : List CaptionField) (P : Caption → Prop) [DecidablePred P]
    (h : ((d.configure assets).toOption.any fun c => (c.bind values).toOption.any fun copy =>
      (values.amount key).toOption.any fun n => decide (n = v ∧ P (copy.getD c) ∧
        ∀ field ∈ fields,
          Binding.lastKey? CaptionField.ofName? c.binding field = some key)) = true) :
    ∃ b : Caption, P b ∧ ∀ field ∈ fields, b.BoundTo values field v := by
  obtain ⟨c, hc, h⟩ := any_toOption.mp h
  obtain ⟨copy, hb, h⟩ := any_toOption.mp h
  obtain ⟨n, hv, h⟩ := any_toOption.mp h
  obtain ⟨rfl, hP, hkey⟩ := of_decide_eq_true h
  exact ⟨copy.getD c, hP, fun field hfield =>
    ⟨d, assets, c, copy, key, hc, hb, rfl, hkey field hfield, hv⟩⟩

/-- Zeros in both parts are kept. -/
theorem split_price_spells_padded :
    let values := RequestValues.ofList [("amount", .text "7002045")]
    ∃ t d p : Caption, t.BoundTo values .intPrice 7002045 ∧ d.BoundTo values .decimalPrice 7002045 ∧
      p.BoundTo values .price 7002045 ∧ d.intPrice.toInt * 1000 + d.decimalPrice.toInt = 7002045 ∧
      ∃ thousands decimals, t.texts 100 40 = .ok [thousands] ∧ d.texts 100 40 = .ok [decimals] ∧
        p.texts 100 40 = .ok [thousands ++ decimals] ∧ thousands ++ decimals = "7.002.045đ" := by
  intro values
  obtain ⟨t, ⟨htmode, htlocale⟩, ht⟩ := exists_boundTo thousandsCaption (.ofPictures []) values
    "amount" 7002045 [.intPrice] (fun b => b.mode = .thousands ∧ b.locale = .vi) (by decide +kernel)
  obtain ⟨d, ⟨hdmode, hdsuffix⟩, hd⟩ := exists_boundTo decimalCaption (.ofPictures []) values
    "amount" 7002045 [.intPrice, .decimalPrice] (fun b => b.mode = .decimal ∧ b.suffix = "đ")
    (by decide +kernel)
  obtain ⟨p, ⟨hpmode, hplocale, hpsuffix, hpromo, htext⟩, hp⟩ := exists_boundTo priceCaption
    (.ofPictures []) values "amount" 7002045 [.price] (fun b => b.mode = .price ∧ b.locale = .vi ∧
      b.suffix = "đ" ∧ ¬ (0 < b.promotionPrice ∧ b.promotionPrice < 7002045) ∧
      b.priceText 7002045 = "7.002.045đ") (by decide +kernel)
  have ht := ht .intPrice (by decide)
  have hint := hd .intPrice (by decide)
  have hdecimal := hd .decimalPrice (by decide)
  have hp := hp .price (by decide)
  obtain ⟨hsum, hspells⟩ := split_price_spells values 7002045
  obtain ⟨thousands, decimals, htd, hdd, hwhole, hpd⟩ := hspells (by decide) t d p ht htmode
    hdecimal hdmode hp hpmode (htlocale.trans hplocale.symm) (hdsuffix.trans hpsuffix.symm) 100 40
  refine ⟨t, d, p, ht, hdecimal, hp, hsum d hint hdecimal, thousands, decimals, htd, hdd, ?_,
    hwhole.trans htext⟩
  rw [hpd hpromo, hwhole]

/-! ## What a pair of prices comes to -/

theorem priceText_injective (c : Caption) : Function.Injective c.priceText := fun _ _ h =>
  Price.grouped_injective (String.append_left_inj _ |>.mp h)

/-- What a layout shows: nothing at all; one amount, and no rule; or an amount and after it another
one, with a rule through all of it. -/
def Shows (c : Caption) (l : CaptionLayout) : Pricing → Prop
  | .frameOnly => l.runs = [] ∧ l.rules = []
  | .single amount => ∃ run, l.runs = [run] ∧ l.rules = [] ∧ run.text = c.priceText amount
  | .promotion full promo => ∃ first second rule, l.runs = [first, second] ∧ l.rules = [rule] ∧
      first.text = c.priceText promo ∧ second.text = c.priceText full ∧
      rule.x₀ = second.x ∧ rule.x₁ = second.x + second.width

/-- A layout shows one thing only, with the same amounts. -/
theorem Shows.unique {l : CaptionLayout} {shown shown' : Pricing} (h : c.Shows l shown)
    (h' : c.Shows l shown') : shown = shown' := by
  cases shown with
  | frameOnly =>
      obtain ⟨hruns, -⟩ := h
      cases shown' with
      | frameOnly => rfl
      | single amount' =>
          obtain ⟨_, hruns', -⟩ := h'
          cases hruns.symm.trans hruns'
      | promotion full' promo' =>
          obtain ⟨_, _, _, hruns', -⟩ := h'
          cases hruns.symm.trans hruns'
  | single amount =>
      obtain ⟨run, hruns, -, htext⟩ := h
      cases shown' with
      | frameOnly => cases hruns.symm.trans h'.1
      | single amount' =>
          obtain ⟨run', hruns', -, htext'⟩ := h'
          cases hruns.symm.trans hruns'
          rw [c.priceText_injective (htext.symm.trans htext')]
      | promotion full' promo' =>
          obtain ⟨_, _, _, hruns', -⟩ := h'
          cases hruns.symm.trans hruns'
  | promotion full promo =>
      obtain ⟨first, second, _, hruns, -, hfirst, hsecond, -⟩ := h
      cases shown' with
      | frameOnly => cases hruns.symm.trans h'.1
      | single amount' =>
          obtain ⟨_, hruns', -⟩ := h'
          cases hruns.symm.trans hruns'
      | promotion full' promo' =>
          obtain ⟨_, _, _, hruns', -, hfirst', hsecond', -⟩ := h'
          cases hruns.symm.trans hruns'
          rw [c.priceText_injective (hfirst.symm.trans hfirst'),
            c.priceText_injective (hsecond.symm.trans hsecond')]

/-- What a caption shows of its prices.  Without a price it falls back to the promotional one. -/
theorem shows_priceLayout (face : FontFace) (hstrike : c.strikeFull = true) :
    c.Shows (c.priceLayout face) (if c.price ≤ 0 ∧ 0 < c.promotionPrice then .single c.promotionPrice
      else Pricing.ofPrices c.price c.promotionPrice) := by
  by_cases hprice : c.price ≤ 0
  · have hnone : ¬ (0 < c.promotionPrice ∧ c.promotionPrice < c.price) := fun h =>
      Int64.not_lt.mpr hprice (Int64.lt_trans h.1 h.2)
    rw [priceLayout, if_neg hnone, if_neg (Int64.not_lt.mpr hprice)]
    dsimp only
    by_cases hpromo : 0 < c.promotionPrice
    · rw [if_pos hpromo, if_pos ⟨hprice, hpromo⟩]
      exact ⟨_, rfl, rfl, rfl⟩
    · rw [if_neg hpromo, if_neg fun h => hpromo h.2, Pricing.ofPrices, if_pos hprice]
      exact ⟨rfl, rfl⟩
  · have hpos : 0 < c.price := Int64.not_le.mp hprice
    have hpair : ¬ (c.price ≤ 0 ∧ 0 < c.promotionPrice) := fun h => hprice h.1
    rw [if_neg hpair, Pricing.ofPrices, if_neg hprice, priceLayout]
    by_cases hpromo : 0 < c.promotionPrice ∧ c.promotionPrice < c.price
    · rw [if_pos hpromo, if_pos hpromo, if_pos hstrike]
      exact ⟨_, _, _, rfl, rfl, rfl, rfl, rfl, rfl⟩
    · rw [if_neg hpromo, if_neg hpromo, if_pos hpos]
      dsimp only
      rw [if_pos hpos]
      exact ⟨_, rfl, rfl, rfl⟩

/-- A configured caption that shows prices, with a rule, agrees with the price frames on what two
prices come to: for all prices, declared or asked for, if there is a price or no promotional one.
Where there is a promotional price only, a frame shows nothing and the caption shows that price. -/
theorem shown_prices (hc : d.configure assets = .ok c) (hmode : c.mode = .price)
    (hstrike : c.strikeFull = true) (text : String) (price promo decimal int : Int64)
    (width height : Nat) :
    let b := c.withBindable text price promo decimal int
    ∃ l, b.layout width height = .ok l ∧
      (0 < price ∨ promo ≤ 0 → ∀ shown, b.Shows l shown ↔ Pricing.ofPrices price promo = shown) ∧
      (price ≤ 0 → 0 < promo → Pricing.ofPrices price promo = .frameOnly ∧
        ∀ shown, b.Shows l shown ↔ .single promo = shown) := by
  intro b
  obtain ⟨face, hface⟩ := configure_face hc
  have hshows := shows_priceLayout (c := b) face hstrike
  have hiff : ∀ {shown}, b.Shows (b.priceLayout face) shown →
      ∀ shown', b.Shows (b.priceLayout face) shown' ↔ shown = shown' :=
    fun h shown' => ⟨h.unique, fun he => he ▸ h⟩
  refine ⟨b.priceLayout face, layout_price hface hmode, fun hagree => ?_, fun hprice hpromo => ?_⟩
  · rw [if_neg] at hshows
    · exact hiff hshows
    · rintro ⟨hle, hpos⟩
      exact hagree.elim (Int64.not_lt.mpr hle) (Int64.not_le.mpr hpos)
  · rw [if_pos ⟨hprice, hpromo⟩] at hshows
    exact ⟨if_pos hprice, hiff hshows⟩

/-- A declared caption of two prices. -/
def pairCaption (price promo : Int64) : Caption :=
  { fontUri := "builtin:spleen", fontSize := 24, strikeFull := true, price := price,
    promotionPrice := promo }

/-- A price below the declared one is a promotion, and a price that is asked for in its place is not
replaced by the same price. -/
theorem shown_prices_pair :
    ∃ c l l', (pairCaption 123456 100000).configure (.ofPictures []) = .ok c ∧
      (c.withBindable "" 123456 100000 0 0).layout 100 40 = .ok l ∧
      (c.withBindable "" 123456 100000 0 0).Shows l (.promotion 123456 100000) ∧
      (c.withBindable "" 100000 100000 0 0).layout 100 40 = .ok l' ∧
      (c.withBindable "" 100000 100000 0 0).Shows l' (.single 100000) := by
  have hchecked : (((pairCaption 123456 100000).configure (.ofPictures [])).toOption.any fun c =>
      decide (c.mode = .price ∧ c.strikeFull = true)) = true := by
    decide +kernel
  obtain ⟨c, hc, hchecked⟩ := any_toOption.mp hchecked
  obtain ⟨hmode, hstrike⟩ := of_decide_eq_true hchecked
  obtain ⟨l, hl, hshows, -⟩ := shown_prices hc hmode hstrike "" 123456 100000 0 0 100 40
  obtain ⟨l', hl', hshows', -⟩ := shown_prices hc hmode hstrike "" 100000 100000 0 0 100 40
  exact ⟨c, l, l', hc, hl, (hshows (.inl (by decide)) _).mpr (by decide), hl',
    (hshows' (.inl (by decide)) _).mpr (by decide)⟩

/-- A promotional price without a price: a frame shows nothing, a caption that price. -/
theorem shown_prices_without_price :
    ∃ c l, (pairCaption 0 5).configure (.ofPictures []) = .ok c ∧ c.mode = .price ∧
      c.strikeFull = true ∧ c.layout 20 30 = .ok l ∧
      Pricing.ofPrices c.price c.promotionPrice = .frameOnly ∧ ¬ c.Shows l .frameOnly ∧
      c.Shows l (.single 5) := by
  have hchecked : (((pairCaption 0 5).configure (.ofPictures [])).toOption.any fun c =>
      decide (c.mode = .price ∧ c.strikeFull = true ∧ c.price = 0 ∧ c.promotionPrice = 5)) =
        true := by
    decide +kernel
  obtain ⟨c, hc, hchecked⟩ := any_toOption.mp hchecked
  obtain ⟨hmode, hstrike, hprice, hpromo⟩ := of_decide_eq_true hchecked
  obtain ⟨face, hface⟩ := configure_face hc
  have hshows := shows_priceLayout face hstrike
  rw [hprice, hpromo, if_pos (by decide)] at hshows
  have hpair : Pricing.ofPrices c.price c.promotionPrice = .frameOnly := by
    rw [hprice, hpromo]
    decide
  exact ⟨c, c.priceLayout face, hc, hmode, hstrike, layout_price hface hmode, hpair,
    fun h => Pricing.noConfusion (h.unique hshows), hshows⟩

end Caption
end Placard
