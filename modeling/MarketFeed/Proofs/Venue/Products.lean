import MarketFeed.Proofs.Registration
import MarketFeed.Proofs.Text.Notation
import MarketFeed.Proofs.Venue.Books
import MarketFeed.Proofs.Venue.Subscription

namespace MarketFeed.Vertex

open Text

variable {d : Directory} {msg frame : Json} {venueId symbol v w : String} {m n : Nat}

def product? (frame : Json) : Option Json :=
  (frame.get? "stream").bind fun stream => stream.get? "product_id"

def IsNumeral (venueId : String) (n : Nat) : Prop :=
  n < UInt64.size ∧ ∃ ds, Signed ds false venueId.toList ∧ isDigits ds = true ∧ digitsValue ds = n

def IsPadded (venueId : String) : Prop :=
  ∃ c ds, (c = '+' ∨ c = '0') ∧ venueId.toList = c :: ds ∧ isDigits ds = true ∧
    digitsValue ds < UInt64.size

instance (venueId : String) : Decidable (IsPadded venueId) :=
  decidable_of_iff
    ((venueId.toList.head? = some '+' ∨ venueId.toList.head? = some '0') ∧
      isDigits venueId.toList.tail = true ∧ digitsValue venueId.toList.tail < UInt64.size) <| by
    rw [IsPadded]
    cases venueId.toList with
    | nil => simp
    | cons c ds =>
      simp only [List.head?_cons, Option.some.injEq, List.tail_cons, List.cons.injEq]
      exact ⟨fun ⟨hc, h⟩ => ⟨c, ds, hc, ⟨rfl, rfl⟩, h⟩,
        fun ⟨_, _, hc, ⟨rfl, rfl⟩, h⟩ => ⟨hc, h⟩⟩

structure ProductsReturn (d : Directory) : Prop where
  resolved : ∀ symbol venueId, d.venueId? symbol = some venueId → ∀ channel account msg,
    msg.get? "product_id" = product? (subscribeFrame channel account venueId) →
      readSymbol d msg = .ok symbol
  apart : ∀ v ∈ d.venueIds, ∀ w ∈ d.venueIds, v ≠ w → ∀ channel account channel' account',
    product? (subscribeFrame channel account v) ≠ product? (subscribeFrame channel' account' w)

lemma product?_subscribeFrame (channel : Channel) (account : Option String) (venueId : String) :
    product? (subscribeFrame channel account venueId) = some (productJson venueId) := by
  obtain ⟨_, stream, hstream, _, hproduct⟩ := fields_subscribeFrame channel account venueId
  rw [product?, hstream]
  exact hproduct

lemma IsNumeral.unique (hm : IsNumeral v m) (hn : IsNumeral v n) : m = n := by
  obtain ⟨_, ds, hs, hd, rfl⟩ := hm
  obtain ⟨_, ds', hs', hd', rfl⟩ := hn
  obtain ⟨rfl, _⟩ := hs.unique hs' (unsigned_of_isDigits hd) (unsigned_of_isDigits hd')
  rfl

lemma isNumeral_iff : IsNumeral v n ↔ naturalBelow? UInt64.size v.toList = some n := by
  rw [naturalBelow?, Option.filter_eq_some_iff, natural?_eq_some_iff, decide_eq_true_iff]
  constructor
  · rintro ⟨hlt, ds, hs, hd, rfl⟩
    exact ⟨⟨ds, hs, hd, rfl⟩, hlt⟩
  · rintro ⟨⟨ds, hs, hd, rfl⟩, hlt⟩
    exact ⟨hlt, ds, hs, hd, rfl⟩

lemma productJson_of_isNumeral (h : IsNumeral v n) : productJson v = .ofNat n := by
  rw [productJson, uint64?, isNumeral_iff.mp h, Option.map_some]
  exact congrArg Json.ofNat (UInt64.toNat_ofNat_of_lt' h.1)

lemma productJson_cases (v : String) :
    (∃ n, IsNumeral v n ∧ productJson v = .ofNat n) ∨
      (∀ n, ¬ IsNumeral v n) ∧ productJson v = .str v := by
  cases h : naturalBelow? UInt64.size v.toList with
  | some n =>
    have hn : IsNumeral v n := isNumeral_iff.mpr h
    exact Or.inl ⟨n, hn, productJson_of_isNumeral hn⟩
  | none =>
    refine Or.inr ⟨fun n hn => ?_, by rw [productJson, uint64?, h]; rfl⟩
    rw [isNumeral_iff, h] at hn
    cases hn

lemma ofNat_injective : Function.Injective Json.ofNat := by
  intro m n h
  have htext : toString m = toString n := Json.num.inj h
  rw [← digitsValue_toDigits m, ← toList_toString_nat, htext, toList_toString_nat,
    digitsValue_toDigits]

lemma productJson_eq_iff :
    productJson v = productJson w ↔ v = w ∨ ∃ n, IsNumeral v n ∧ IsNumeral w n := by
  constructor
  · intro h
    rcases productJson_cases v with ⟨m, hm, hv⟩ | ⟨-, hv⟩ <;>
      rcases productJson_cases w with ⟨n, hn, hw⟩ | ⟨-, hw⟩ <;> rw [hv, hw] at h
    · exact Or.inr ⟨n, ofNat_injective h ▸ hm, hn⟩
    · cases h
    · cases h
    · exact Or.inl (Json.str.inj h)
  · rintro (rfl | ⟨n, hv, hw⟩)
    · rfl
    · rw [productJson_of_isNumeral hv, productJson_of_isNumeral hw]

lemma IsPadded.exists_isNumeral (h : IsPadded v) : ∃ n, IsNumeral v n ∧ toString n ≠ v := by
  obtain ⟨c, ds, hc, hv, hd, hlt⟩ := h
  have hne : ∀ n : Nat, (toString n).toList ≠ c :: ds := by
    intro n h
    rw [toList_toString_nat] at h
    rcases hc with rfl | rfl
    · exact head?_ne_of_isDigits (isDigits_toDigits n) (c := '+') rfl (by rw [h]; rfl)
    · -- only zero is written with a zero in front, and with nothing behind it
      have hhead : (Nat.toDigits 10 n).head? = some '0' := by rw [h, List.head?_cons]
      have hzero : n = 0 := by_contra fun hn => head?_toDigits hn hhead
      rw [hzero] at h
      exact (isDigits_iff.mp hd).1 (List.cons.inj h).2.symm
  refine ⟨digitsValue ds, ⟨hlt, ?_⟩, fun h => hne (digitsValue ds) (by rw [h, hv])⟩
  rcases hc with rfl | rfl
  · exact ⟨ds, hv ▸ .plus, hd, rfl⟩
  · refine ⟨'0' :: ds, hv ▸ .bare, ?_, ?_⟩
    · exact isDigits_iff.mpr ⟨by simp, List.forall_mem_cons.mpr ⟨rfl, (isDigits_iff.mp hd).2⟩⟩
    · rw [digitsValue_cons, show digitValue '0' = 0 from rfl, Nat.zero_mul, Nat.zero_add]

lemma toString_eq_of_not_isPadded (h : ¬ IsPadded v) (hn : IsNumeral v n) : toString n = v := by
  obtain ⟨hlt, ds, hs, hd, rfl⟩ := hn
  refine String.toList_inj.mp ?_
  rw [toList_toString_nat]
  generalize hv : v.toList = cs at hs
  cases hs with
  | plus => exact absurd ⟨'+', ds, Or.inl rfl, hv, hd, hlt⟩ h
  | bare =>
    by_cases hz : ds.head? = some '0'
    · obtain ⟨r, rfl⟩ := List.head?_eq_some_iff.mp hz
      cases r with
      | nil => rfl
      | cons c r =>
        refine absurd ⟨'0', c :: r, Or.inr rfl, hv, ?_, ?_⟩ h
        · have hall := (isDigits_iff.mp hd).2
          exact isDigits_iff.mpr ⟨by simp, fun x hx => hall x (List.mem_cons_of_mem _ hx)⟩
        · rwa [digitsValue_cons, show digitValue '0' = 0 from rfl, Nat.zero_mul, Nat.zero_add]
            at hlt
    · exact toDigits_digitsValue hd hz

lemma readSymbol_of_product (h : msg.get? "product_id" = some (productJson v)) :
    readSymbol d msg = .ok symbol ↔ ∃ s, (productJson v).numberText? = some s ∧
      d.symbol? s = some symbol := by
  have hfield : ∀ x, msg.field? "product_id" = some x ↔ x = productJson v := by
    intro x
    have hnull : (productJson v).isNull = false := by
      rw [productJson]
      split <;> rfl
    rw [Json.field?, h, Option.filter_some, hnull]
    simp [eq_comm]
  simp only [readSymbol, bind_eq_ok_iff, Json.idField, Json.fieldBy_eq_ok_iff, hfield,
    Directory.resolve_eq_ok_iff]
  constructor
  · rintro ⟨s, ⟨_, rfl, hs⟩, hd⟩
    exact ⟨s, hs, hd⟩
  · rintro ⟨s, hs, hd⟩
    exact ⟨s, ⟨_, rfl, hs⟩, hd⟩

lemma readSymbol_iff_not_isPadded (hd : d.Orderly) (hv : d.venueId? symbol = some v)
    (h : msg.get? "product_id" = some (productJson v)) :
    readSymbol d msg = .ok symbol ↔ ¬ IsPadded v := by
  -- the symbol has no identifier but its own
  have hown : ∀ s, d.symbol? s = some symbol ↔ s = v := fun s => by
    rw [hd.twoWay.inverse, hv, Option.some.injEq, eq_comm]
  simp only [readSymbol_of_product h, hown, exists_eq_right]
  rcases productJson_cases v with ⟨n, hn, hp⟩ | ⟨hnone, hp⟩ <;> rw [hp]
  · change some (toString n) = some v ↔ _
    rw [Option.some.injEq]
    constructor
    · intro hs hpad
      obtain ⟨k, hk, hne⟩ := hpad.exists_isNumeral
      exact hne (hk.unique hn ▸ hs)
    · exact fun hpad => toString_eq_of_not_isPadded hpad hn
  · refine iff_of_true rfl fun hpad => ?_
    obtain ⟨k, hk, _⟩ := hpad.exists_isNumeral
    exact hnone k hk

lemma eq_of_isNumeral (hv : ¬ IsPadded v) (hw : ¬ IsPadded w) (hvn : IsNumeral v n)
    (hwn : IsNumeral w n) : v = w :=
  (toString_eq_of_not_isPadded hv hvn).symm.trans (toString_eq_of_not_isPadded hw hwn)

lemma exists_symbol (hd : d.Orderly) (hv : v ∈ d.venueIds) :
    ∃ symbol, d.venueId? symbol = some v := by
  obtain ⟨symbol, hs⟩ := Option.ne_none_iff_exists'.mp (mt Directory.symbol?_eq_none_iff.mp
    (not_not.mpr hv))
  exact ⟨symbol, (hd.twoWay.inverse v symbol).mp hs⟩

lemma productsReturn_iff (hd : d.Orderly) :
    ProductsReturn d ↔ ∀ v ∈ d.venueIds, ¬ IsPadded v := by
  constructor
  · intro h v hv
    obtain ⟨symbol, hs⟩ := exists_symbol hd hv
    have hecho : (Json.obj [("product_id", productJson v)]).get? "product_id" =
        some (productJson v) := rfl
    refine (readSymbol_iff_not_isPadded hd hs hecho).mp (h.resolved symbol v hs .trades none _ ?_)
    rw [hecho, product?_subscribeFrame]
  · intro h
    refine ⟨fun symbol v hs channel account msg hecho => ?_,
      fun v hv w hw hne channel account channel' account' heq => hne ?_⟩
    · rw [product?_subscribeFrame] at hecho
      have hv : v ∈ d.venueIds := by
        refine of_not_not (mt Directory.symbol?_eq_none_iff.mpr ?_)
        rw [(hd.twoWay.inverse v symbol).mpr hs]
        exact Option.some_ne_none symbol
      exact (readSymbol_iff_not_isPadded hd hs hecho).mpr (h v hv)
    · rw [product?_subscribeFrame, product?_subscribeFrame, Option.some.injEq,
        productJson_eq_iff] at heq
      exact heq.elim id fun ⟨n, hvn, hwn⟩ => eq_of_isNumeral (h v hv) (h w hw) hvn hwn

/-- After any calls to put entries in, the products of a directory return exactly if none of its
identifiers is padded. Each one that is not comes back as its own symbol, a padded one never does,
and two identifiers have one product exactly if they are one number. -/
theorem products_return_iff (exchange : Exchange) (calls : List (Instrument × String)) :
    let d := (Directory.insertEach Directory.insert (.empty exchange) calls).1
    (ProductsReturn d ↔ ∀ venueId ∈ d.venueIds, ¬ IsPadded venueId) ∧
      (∀ channel account ids, List.Forall₂ (fun venueId frame =>
        ∃ product, product? frame = some product ∧
          ∀ symbol, d.venueId? symbol = some venueId → ∀ msg,
            msg.get? "product_id" = some product →
              (readSymbol d msg = .ok symbol ↔ ¬ IsPadded venueId))
        ids (subscribeFrames channel ids account)) ∧
      ∀ v w, v ≠ w → ∀ channel account channel' account',
        (product? (subscribeFrame channel account v) =
          product? (subscribeFrame channel' account' w) ↔ ∃ n, IsNumeral v n ∧ IsNumeral w n) := by
  intro d
  have hd : d.Orderly := (Directory.orderly_empty exchange).insertEach
  refine ⟨productsReturn_iff hd, fun channel account ids => ?_, fun v w hne channel account
    channel' account' => ?_⟩
  · rw [subscribeFrames, List.forall₂_map_right_iff, List.forall₂_same]
    exact fun v _ => ⟨_, product?_subscribeFrame channel account v, fun symbol hs msg hecho =>
      readSymbol_iff_not_isPadded hd hs hecho⟩
  · rw [product?_subscribeFrame, product?_subscribeFrame, Option.some.injEq, productJson_eq_iff]
    exact or_iff_right hne

theorem products_return_at_the_limits :
    let d := (Directory.insertEach Directory.insert (.empty .vertex)
      [(⟨"BTC", "USDC", .perpetual⟩, "18446744073709551615"),
        (⟨"ETH", "USDC", .perpetual⟩, "018446744073709551616"),
        (⟨"SOL", "USDC", .perpetual⟩, "-02"), (⟨"WBTC", "USDC", .spot⟩, "")]).1
    (∀ venueId ∈ d.venueIds, ¬ IsPadded venueId) ∧ ProductsReturn d ∧
      readSymbol d (.obj [("product_id", .num "18446744073709551615")]) = .ok "BTC-USDC-PERP" := by
  intro d
  have hplain : ∀ venueId ∈ d.venueIds, ¬ IsPadded venueId := by decide
  obtain ⟨hreturn, _, _⟩ := products_return_iff .vertex
    [(⟨"BTC", "USDC", .perpetual⟩, "18446744073709551615"),
      (⟨"ETH", "USDC", .perpetual⟩, "018446744073709551616"),
      (⟨"SOL", "USDC", .perpetual⟩, "-02"), (⟨"WBTC", "USDC", .spot⟩, "")]
  have hreturns : ProductsReturn d := hreturn.mpr hplain
  have hnumeral : IsNumeral "18446744073709551615" 18446744073709551615 :=
    isNumeral_iff.mpr (by decide)
  refine ⟨hplain, hreturns, hreturns.resolved _ "18446744073709551615" (by decide) .trades none _ ?_⟩
  rw [product?_subscribeFrame, productJson_of_isNumeral hnumeral]
  rfl

theorem padded_product_taken_for_another :
    let d := (Directory.insertEach Directory.insert (.empty .vertex)
      [(⟨"BTC", "USDC", .perpetual⟩, "2"), (⟨"ETH", "USDC", .perpetual⟩, "02")]).1
    let frame := fun venueId => subscribeFrame .trades none venueId
    let echo := Json.obj [("product_id", .num "2"), ("type", .str "trade")]
    d.venueId? "ETH-USDC-PERP" = some "02" ∧
      echo.get? "product_id" = product? (frame "02") ∧ product? (frame "2") = product? (frame "02") ∧
        readSymbol d echo = .ok "BTC-USDC-PERP" ∧ ¬ ProductsReturn d := by
  intro d frame echo
  have hid : d.venueId? "ETH-USDC-PERP" = some "02" := by decide
  have hecho : echo.get? "product_id" = product? (frame "02") := rfl
  have hread : readSymbol d echo = .ok "BTC-USDC-PERP" := by decide
  refine ⟨hid, hecho, rfl, hread, fun h => ?_⟩
  have hother := h.resolved "ETH-USDC-PERP" "02" hid .trades none echo hecho
  rw [hread] at hother
  exact absurd (Except.ok.inj hother) (by decide)

end MarketFeed.Vertex
