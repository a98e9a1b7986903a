import MarketFeed.Proofs.Venue.Books

namespace MarketFeed.Vertex

variable {dir : Directory} {time : Int64} {entry response data : Json} {entries : List Json}
  {product currency : String} {amount : Decimal} {event : BalanceEvent} {events : List BalanceEvent}

def Holds (entry : Json) (product : String) (amount : Decimal) : Prop :=
  entry.idField "product_id" = .ok product ∧ ∃ balance, entry.field? "balance" = some balance ∧
    balance.scaledField places "amount" = .ok amount

inductive Pays (dir : Directory) : String → String → Prop
  | quote : Pays dir quoteProduct quoteCurrency
  | base {product symbol : String} {i : Instrument} (hne : product ≠ quoteProduct)
      (hs : dir.symbol? product = some symbol) (hi : dir.instrument? symbol = some i) :
      Pays dir product i.base

def IsKnown (dir : Directory) (product : String) : Prop :=
  product = quoteProduct ∨ ∃ symbol, dir.symbol? product = some symbol

def AllKnown (dir : Directory) (entries : List Json) : Prop :=
  ∀ entry ∈ entries, ∀ product amount, Holds entry product amount → IsKnown dir product

def balanceOf (time : Int64) (entry : Json) (currency : String) (amount : Decimal) :
    BalanceEvent where
  exchange := .vertex
  currency
  available := amount
  reserved := .zero
  account := none
  exchangeTime := none
  receiptTime := time
  raw := some entry

inductive Lists (dir : Directory) (time : Int64) : List Json → List BalanceEvent → Prop
  | nil : Lists dir time [] []
  | known {entry : Json} {product currency : String} {amount : Decimal} {entries : List Json}
      {events : List BalanceEvent} (he : Holds entry product amount)
      (hc : Pays dir product currency) (hr : Lists dir time entries events) :
      Lists dir time (entry :: entries) (balanceOf time entry currency amount :: events)
  | unknown {entry : Json} {product : String} {amount : Decimal} {entries : List Json}
      {events : List BalanceEvent} (he : Holds entry product amount) (hp : ¬ IsKnown dir product)
      (hr : Lists dir time entries events) : Lists dir time (entry :: entries) events

lemma Pays.isKnown (h : Pays dir product currency) : IsKnown dir product := by
  cases h with
  | quote => exact Or.inl rfl
  | base _ hs _ => exact Or.inr ⟨_, hs⟩

lemma IsKnown.exists_pays (h : IsKnown dir product) : ∃ currency, Pays dir product currency := by
  by_cases hq : product = quoteProduct
  · subst hq
    exact ⟨_, .quote⟩
  · obtain ⟨symbol, hs⟩ := h.resolve_left hq
    obtain ⟨i, hi⟩ := Directory.exists_instrument hs
    exact ⟨_, .base hq hs hi⟩

lemma currency_of_pays (h : Pays dir product currency) :
    Vertex.currency dir product = .ok currency := by
  cases h with
  | quote => exact if_pos rfl
  | base hne hs hi =>
    rw [Vertex.currency, if_neg hne, Directory.resolve, hs]
    simp [Except.map, hi]

lemma currency_of_unknown (h : ¬ IsKnown dir product) :
    Vertex.currency dir product = .error (.unknownSymbol product) := by
  obtain ⟨hne, hs⟩ := not_or.mp h
  have hnone : dir.symbol? product = none :=
    Option.eq_none_iff_forall_ne_some.mpr (not_exists.mp hs)
  rw [Vertex.currency, if_neg hne, Directory.resolve, hnone]
  rfl

lemma readAccount_of_holds (he : Holds entry product amount) (time : Int64) :
    readAccount dir time entry =
      (Vertex.currency dir product).map fun currency => balanceOf time entry currency amount := by
  obtain ⟨hp, balance, hb, ha⟩ := he
  rw [readAccount, Json.field_eq_ok_iff.mpr hb, hp]
  cases hc : Vertex.currency dir product with
  | error e => simp [bind, Except.bind, Except.map, hc]
  | ok currency => simp [bind, Except.bind, Except.map, hc, ha, balanceOf]

lemma readAccount_of_pays (he : Holds entry product amount) (hc : Pays dir product currency) :
    readAccount dir time entry = .ok (balanceOf time entry currency amount) := by
  rw [readAccount_of_holds he, currency_of_pays hc]
  rfl

lemma readAccount_of_unknown (he : Holds entry product amount) (hp : ¬ IsKnown dir product) :
    readAccount dir time entry = .error (.unknownSymbol product) := by
  rw [readAccount_of_holds he, currency_of_unknown hp]
  rfl

lemma exists_lists (h : ∀ entry ∈ entries, ∃ product amount, Holds entry product amount) :
    ∃ events, Lists dir time entries events := by
  induction entries with
  | nil => exact ⟨[], .nil⟩
  | cons entry r ih =>
    obtain ⟨⟨product, amount, he⟩, hr⟩ := List.forall_mem_cons.mp h
    obtain ⟨events, hevents⟩ := ih hr
    by_cases hp : IsKnown dir product
    · obtain ⟨currency, hc⟩ := hp.exists_pays
      exact ⟨_, .known he hc hevents⟩
    · exact ⟨_, .unknown he hp hevents⟩

lemma Lists.mapM_readAccount (h : Lists dir time entries events) (hall : AllKnown dir entries) :
    entries.mapM (readAccount dir time) = .ok events := by
  rw [mapM_eq_ok_iff]
  induction h with
  | nil => exact .nil
  | known he hc _ ih =>
    exact .cons (readAccount_of_pays he hc) (ih (List.forall_mem_cons.mp hall).2)
  | unknown he hp _ _ => exact absurd ((List.forall_mem_cons.mp hall).1 _ _ he) hp

lemma readBalances_of_entries (hdata : response.field? "data" = some data)
    (hentries : data.field? "spot_balances" = some (.arr entries)) :
    readBalances dir response time = entries.mapM (readAccount dir time) := by
  rw [readBalances, Json.field_eq_ok_iff.mpr hdata]
  change (data.itemsField "spot_balances" >>= _) = _
  rw [Json.itemsField_eq_ok_iff.mpr hentries]
  rfl

lemma isKnown_of_readAccount {event : BalanceEvent} (he : Holds entry product amount)
    (h : readAccount dir time entry = .ok event) : IsKnown dir product := by
  by_contra hp
  cases (readAccount_of_unknown he hp).symm.trans h

/-- A list whose entries can all be read gives their balances, without those of unknown products,
exactly if there is no such product. Otherwise the first of them is all that is reported. -/
theorem balances_listed_iff_all_known {dir : Directory} {time : Int64} {response data : Json}
    {entries : List Json} (hdata : response.field? "data" = some data)
    (hentries : data.field? "spot_balances" = some (.arr entries))
    (hholds : ∀ entry ∈ entries, ∃ product amount, Holds entry product amount) :
    (∃ events, Lists dir time entries events) ∧
      (∀ events, Lists dir time entries events →
        (readBalances dir response time = .ok events ↔ AllKnown dir entries)) ∧
      ∀ read entry rest product amount, entries = read ++ entry :: rest → AllKnown dir read →
        Holds entry product amount → ¬ IsKnown dir product →
          readBalances dir response time = .error (.unknownSymbol product) := by
  rw [readBalances_of_entries hdata hentries]
  refine ⟨exists_lists hholds, fun events hevents => ⟨fun hread entry hmem product amount he => ?_,
    hevents.mapM_readAccount⟩, fun read entry rest product amount hsplit hread he hp => ?_⟩
  · obtain ⟨event, hevent⟩ := exists_of_forall₂ (mapM_eq_ok_iff.mp hread) hmem
    exact isKnown_of_readAccount he hevent
  · subst hsplit
    refine mapM_eq_error_iff.mpr ⟨read, entry, rest, rfl, fun x hx => ?_,
      readAccount_of_unknown he hp⟩
    obtain ⟨p, a, hx'⟩ := hholds x (List.mem_append_left _ hx)
    obtain ⟨c, hc⟩ := (hread x hx p a hx').exists_pays
    exact ⟨_, readAccount_of_pays hx' hc⟩

section Listing

def oneProduct : Directory := ⟨.vertex, [("WBTC-USDC", ⟨⟨"WBTC", "USDC", .spot⟩, "1"⟩)]⟩

lemma two_lt_coeffBound : 2 < Decimal.coeffBound := by decide

def two : Decimal := { Decimal.zero with magnitude := 2, magnitude_lt := two_lt_coeffBound }

def twoOf (product : String) : Json :=
  .obj [("balance", .obj [("amount", .str "2000000000000000000")]), ("product_id", .num product)]

def listing (entries : List Json) : Json :=
  .obj [("data", .obj [("spot_balances", .arr entries)])]

lemma holds_twoOf (product : String) : Holds (twoOf product) product two := ⟨rfl, _, rfl, rfl⟩

lemma pays_oneProduct : Pays oneProduct "1" "WBTC" :=
  .base (i := ⟨"WBTC", "USDC", .spot⟩) (by decide) rfl rfl

lemma not_isKnown_oneProduct : ¬ IsKnown oneProduct "7" := by
  rintro (h | ⟨symbol, h⟩)
  · exact absurd h (by decide)
  · cases h

lemma exists_holds_of_mem_twoOf {products : List String} :
    ∀ entry ∈ products.map twoOf, ∃ product amount, Holds entry product amount := by
  intro entry h
  obtain ⟨product, _, rfl⟩ := List.mem_map.mp h
  exact ⟨product, two, holds_twoOf product⟩

lemma allKnown_twoOf {products : List String} (h : ∀ product ∈ products, IsKnown dir product) :
    AllKnown dir (products.map twoOf) := by
  intro entry hentry product amount he
  obtain ⟨product', hp, rfl⟩ := List.mem_map.mp hentry
  obtain rfl := Except.ok.inj ((holds_twoOf product').1.symm.trans he.1)
  exact h product' hp

end Listing

theorem balances_listed_over_known_products :
    readBalances oneProduct (listing (["1", "0"].map twoOf)) 5 =
        .ok [balanceOf 5 (twoOf "1") "WBTC" two, balanceOf 5 (twoOf "0") "USDC" two] ∧
      readBalances oneProduct (listing (["1", "7", "0"].map twoOf)) 5 =
        .error (.unknownSymbol "7") := by
  have hquote : IsKnown oneProduct "0" := Or.inl rfl
  have hread : AllKnown oneProduct (["1"].map twoOf) :=
    allKnown_twoOf (by simp [pays_oneProduct.isKnown])
  constructor
  · refine ((balances_listed_iff_all_known rfl rfl exists_holds_of_mem_twoOf).2.1 _
      (.known (holds_twoOf "1") pays_oneProduct (.known (holds_twoOf "0") .quote .nil))).mpr ?_
    exact allKnown_twoOf (by simp [pays_oneProduct.isKnown, hquote])
  · exact (balances_listed_iff_all_known rfl rfl exists_holds_of_mem_twoOf).2.2 [twoOf "1"] _ _ _ _
      rfl hread (holds_twoOf "7") not_isKnown_oneProduct

theorem unknown_product_suppresses_balances :
    Lists oneProduct 5 (["0", "7", "1"].map twoOf)
        [balanceOf 5 (twoOf "0") "USDC" two, balanceOf 5 (twoOf "1") "WBTC" two] ∧
      readBalances oneProduct (listing (["0", "7", "1"].map twoOf)) 5 =
        .error (.unknownSymbol "7") ∧
      ¬ ∃ events, readBalances oneProduct (listing (["0", "7", "1"].map twoOf)) 5 = .ok events := by
  have hread : readBalances oneProduct (listing (["0", "7", "1"].map twoOf)) 5 =
      .error (.unknownSymbol "7") := rfl
  refine ⟨.known (holds_twoOf "0") .quote (.unknown (holds_twoOf "7") not_isKnown_oneProduct
    (.known (holds_twoOf "1") pays_oneProduct .nil)), hread, fun ⟨events, hevents⟩ => ?_⟩
  cases hread.symm.trans hevents

end MarketFeed.Vertex
