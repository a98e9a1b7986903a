import MarketFeed.Proofs.Book.Window
import MarketFeed.Proofs.Event.Fields
import MarketFeed.Proofs.Json.Kept

namespace MarketFeed

structure BookEvent.Same (a b : BookEvent) : Prop where
  exchange : a.exchange = b.exchange
  symbol : a.symbol = b.symbol
  kind : a.kind = b.kind
  bids : a.bids.map Level.units = b.bids.map Level.units
  asks : a.asks.map Level.units = b.asks.map Level.units
  sequence : a.sequence = b.sequence
  exchangeTime : a.exchangeTime = b.exchangeTime
  receiptTime : a.receiptTime = b.receiptTime
  raw : a.raw = b.raw

structure TradeEvent.Same (a b : TradeEvent) : Prop where
  exchange : a.exchange = b.exchange
  symbol : a.symbol = b.symbol
  side : a.side = b.side
  price : a.price.units = b.price.units
  size : a.size.units = b.size.units
  tradeId : a.tradeId = b.tradeId
  exchangeTime : a.exchangeTime = b.exchangeTime
  receiptTime : a.receiptTime = b.receiptTime
  raw : a.raw = b.raw

structure OrderEvent.Same (a b : OrderEvent) : Prop where
  exchange : a.exchange = b.exchange
  symbol : a.symbol = b.symbol
  orderId : a.orderId = b.orderId
  side : a.side = b.side
  kind : a.kind = b.kind
  status : a.status = b.status
  price : a.price.map Decimal.units = b.price.map Decimal.units
  size : a.size.units = b.size.units
  remaining : a.remaining.units = b.remaining.units
  account : a.account = b.account
  exchangeTime : a.exchangeTime = b.exchangeTime
  receiptTime : a.receiptTime = b.receiptTime
  raw : a.raw = b.raw

structure BalanceEvent.Same (a b : BalanceEvent) : Prop where
  exchange : a.exchange = b.exchange
  currency : a.currency = b.currency
  available : a.available.units = b.available.units
  reserved : a.reserved.units = b.reserved.units
  account : a.account = b.account
  exchangeTime : a.exchangeTime = b.exchangeTime
  receiptTime : a.receiptTime = b.receiptTime
  raw : a.raw = b.raw

namespace FeedEvent

def Same : FeedEvent → FeedEvent → Prop
  | book a, book b => a.Same b
  | trade a, trade b => a.Same b
  | order a, order b => a.Same b
  | balance a, balance b => a.Same b
  | _, _ => False

def raw : FeedEvent → Option Json
  | book e => e.raw
  | trade e => e.raw
  | order e => e.raw
  | balance e => e.raw

def dropZeroSigns : FeedEvent → FeedEvent
  | book e => book e.dropZeroSigns
  | trade e => trade e.dropZeroSigns
  | order e => order e.dropZeroSigns
  | balance e => balance e.dropZeroSigns

def withRaw (raw : Option Json) : FeedEvent → FeedEvent
  | book e => book { e with raw }
  | trade e => trade { e with raw }
  | order e => order { e with raw }
  | balance e => balance { e with raw }

def parseAlike? (e : FeedEvent) (s : String) : Option FeedEvent :=
  match e with
  | book _ => ((Json.parse? s).bind BookEvent.ofJson).map book
  | trade _ => ((Json.parse? s).bind TradeEvent.ofJson).map trade
  | order _ => ((Json.parse? s).bind OrderEvent.ofJson).map order
  | balance _ => ((Json.parse? s).bind BalanceEvent.ofJson).map balance

end FeedEvent

lemma Level.units_dropZeroSigns (l : Level) : l.dropZeroSigns.units = l.units := by
  rw [units, dropZeroSigns, Decimal.units_dropZeroSign, Decimal.units_dropZeroSign, units]

namespace FeedEvent

variable {e : FeedEvent}

lemma same_dropZeroSigns (e : FeedEvent) : e.dropZeroSigns.Same e := by
  have hlevels : ∀ ls : List Level, (ls.map Level.dropZeroSigns).map Level.units =
      ls.map Level.units := by
    intro ls
    rw [List.map_map]
    exact List.map_congr_left fun l _ => l.units_dropZeroSigns
  have hprice : ∀ o : Option Decimal, (o.map Decimal.dropZeroSign).map Decimal.units =
      o.map Decimal.units := by
    intro o
    rw [Option.map_map]
    exact Option.map_congr fun d _ => d.units_dropZeroSign
  cases e with
  | book e => exact ⟨rfl, rfl, rfl, hlevels e.bids, hlevels e.asks, rfl, rfl, rfl, rfl⟩
  | trade e =>
    exact ⟨rfl, rfl, rfl, e.price.units_dropZeroSign, e.size.units_dropZeroSign, rfl, rfl, rfl, rfl⟩
  | order e =>
    exact ⟨rfl, rfl, rfl, rfl, rfl, rfl, hprice e.price, e.size.units_dropZeroSign,
      e.remaining.units_dropZeroSign, rfl, rfl, rfl, rfl⟩
  | balance e =>
    exact ⟨rfl, rfl, e.available.units_dropZeroSign, e.reserved.units_dropZeroSign, rfl, rfl, rfl,
      rfl⟩

lemma ofTagged_body (h : e.exchange = .kucoin ∨ e.exchange = .vertex) :
    ofTagged e.tag e.body = (readRaw e.raw).map fun raw => e.dropZeroSigns.withRaw raw := by
  cases e with
  | book e =>
    change (BookEvent.ofJson (.obj e.members)).map book = _
    rw [BookEvent.ofJson_members h, Option.map_map]
    rfl
  | trade e =>
    change (TradeEvent.ofJson (.obj e.members)).map trade = _
    rw [TradeEvent.ofJson_members h, Option.map_map]
    rfl
  | order e =>
    change (OrderEvent.ofJson (.obj e.members)).map order = _
    rw [OrderEvent.ofJson_members h, Option.map_map]
    rfl
  | balance e =>
    change (BalanceEvent.ofJson (.obj e.members)).map balance = _
    rw [BalanceEvent.ofJson_members h, Option.map_map]
    rfl

lemma parseAlike?_eq (e : FeedEvent) (s : String) :
    e.parseAlike? s = (Json.parse? s).bind (ofTagged e.tag) := by
  cases e <;> exact Option.map_bind ..

end FeedEvent

namespace Json

variable {v : Json} {level : Nat}

lemma fits_ofOption {α : Type} {write : α → Json} {o : Option α} (h : level ≤ maxDepth)
    (hw : ∀ a ∈ o, Fits level (write a)) : Fits level (ofOption write o) := by
  cases o with
  | none => exact fits_null h
  | some a => exact hw a rfl

lemma fits_level (l : Level) : Fits 2 l.toJson := by
  refine fits_obj_iff.mpr ⟨by decide, ?_⟩
  simp only [List.forall_mem_cons]
  exact ⟨fits_str (by decide) _, fits_str (by decide) _, by simp⟩

lemma fits_levels (ls : List Level) : Fits 1 (.arr (ls.map Level.toJson)) := by
  refine fits_arr_iff.mpr ⟨by decide, fun v hv => ?_⟩
  obtain ⟨l, _, rfl⟩ := List.mem_map.mp hv
  exact fits_level l

lemma Kept.fits (h : v.Kept) (hd : v.depth ≤ 126) : Fits 1 v :=
  ⟨h.printable, by
    rw [maxDepth]
    omega⟩

end Json

namespace FeedEvent

open Json

variable {e : FeedEvent}

lemma fits_members (hraw : ∀ v ∈ e.raw, v.Kept ∧ v.depth ≤ 126) :
    ∀ m ∈ e.members, Fits 1 m.2 := by
  have hle : 1 ≤ maxDepth := by decide
  have htext := fits_str hle
  have htexts : ∀ o : Option String, Fits 1 (.ofOption .str o) := fun o =>
    fits_ofOption hle fun s _ => htext s
  have htime : ∀ t, Fits 1 (.ofTime t) := fun t => fits_ofInt hle t.toInt
  have htimes : ∀ o, Fits 1 (.ofOption ofTime o) := fun o => fits_ofOption hle fun t _ => htime t
  have hsequence : ∀ o, Fits 1 (.ofOption ofSequence o) := fun o =>
    fits_ofOption hle fun n _ => fits_ofInt hle n.toNat
  have hpayload : Fits 1 (.ofOption id e.raw) := fits_ofOption hle fun v hv =>
    (hraw v hv).1.fits (hraw v hv).2
  have hlevels := fits_levels
  -- behind the last member of each record
  have hnone : ∀ m ∈ ([] : List (String × Json)), Fits 1 m.2 := by simp
  cases e with
  | book e =>
    simp only [members, BookEvent.members, List.forall_mem_cons]
    exact ⟨htext _, htext _, htext _, hlevels _, hlevels _, hsequence _, htimes _, htime _,
      hpayload, hnone⟩
  | trade e =>
    simp only [members, TradeEvent.members, List.forall_mem_cons]
    exact ⟨htext _, htext _, htext _, htext _, htext _, htexts _, htimes _, htime _, hpayload,
      hnone⟩
  | order e =>
    have hkind : Fits 1 (.ofOption (.str ·.text) e.kind) := fits_ofOption hle fun _ _ => htext _
    have hprice : Fits 1 (.ofOption Decimal.toJson e.price) := fits_ofOption hle fun _ _ => htext _
    simp only [members, OrderEvent.members, List.forall_mem_cons]
    exact ⟨htext _, htext _, htext _, htext _, hkind, htext _, hprice, htext _, htext _, htexts _,
      htimes _, htime _, hpayload, hnone⟩
  | balance e =>
    simp only [members, BalanceEvent.members, List.forall_mem_cons]
    exact ⟨htext _, htext _, htext _, htext _, htexts _, htimes _, htime _, hpayload, hnone⟩

lemma fits_body (hraw : ∀ v ∈ e.raw, v.Kept ∧ v.depth ≤ 126) : Fits 0 e.body :=
  fits_obj_iff.mpr ⟨by decide, fits_members hraw⟩

lemma fits_toJson (hraw : ∀ v ∈ e.raw, v.Kept ∧ v.depth ≤ 126) : Fits 0 e.toJson :=
  fits_obj_iff.mpr ⟨by decide, List.forall_mem_cons.mpr
    ⟨fits_str (by decide) e.tag, fits_members hraw⟩⟩

lemma name_ne_type : ∀ m ∈ e.members, m.1 ≠ "type" := by
  cases e with
  | book e => simp [members, BookEvent.members]
  | trade e => simp [members, TradeEvent.members]
  | order e => simp [members, OrderEvent.members]
  | balance e => simp [members, BalanceEvent.members]

lemma ofJson_toJson (h : e.toJson.isReadable = true) : ofJson e.toJson = ofTagged e.tag e.body := by
  have hnone : e.members.filter (·.1 == "type") = [] := by
    rw [List.filter_eq_nil_iff]
    exact fun m hm he => name_ne_type m hm (eq_of_beq he)
  have hall : e.members.filter (·.1 != "type") = e.members := by
    rw [List.filter_eq_self]
    exact fun m hm => bne_iff_ne.mpr (name_ne_type m hm)
  rw [FeedEvent.toJson] at h ⊢
  rw [ofJson, if_pos h]
  simp [hnone, hall, body]

lemma parse?_toJson (h : e.exchange = .kucoin ∨ e.exchange = .vertex)
    (hraw : ∀ v ∈ e.raw, v.Kept ∧ v.depth ≤ 126) :
    parse? e.toJson.compact = (readRaw e.raw).map fun raw => e.dropZeroSigns.withRaw raw := by
  have hfits := fits_toJson hraw
  rw [parse?, parse?_compact hfits, Option.bind_some, ofJson_toJson hfits.1.isReadable,
    ofTagged_body h]

lemma parseAlike?_body (h : e.exchange = .kucoin ∨ e.exchange = .vertex)
    (hraw : ∀ v ∈ e.raw, v.Kept ∧ v.depth ≤ 126) :
    e.parseAlike? e.body.compact =
      (readRaw e.raw).map fun raw => e.dropZeroSigns.withRaw raw := by
  rw [parseAlike?_eq, parse?_compact (fits_body hraw), Option.bind_some, ofTagged_body h]

lemma withRaw_dropZeroSigns (e : FeedEvent) : e.dropZeroSigns.withRaw e.raw = e.dropZeroSigns := by
  cases e <;> rfl

end FeedEvent

lemma readRaw_of_plain {raw : Option Json} (hraw : ∀ v ∈ raw, v.Kept ∧ v.isNull = false)
    (hp : ∀ v ∈ raw, v.Plain) : readRaw raw = some raw := by
  cases raw with
  | none => rfl
  | some v =>
    obtain ⟨hk, hn⟩ := hraw v rfl
    have hne : v ≠ .null := by
      rintro rfl
      cases hn
    have hv := Json.canonical?_of_plain hk (hp v rfl)
    rw [readRaw, Json.ofOption, id, Json.Slot.nullable_of_ne_null hne, hv, Option.map_some]

lemma readRaw_of_not_plain {raw : Option Json} (hraw : ∀ v ∈ raw, v.Kept ∧ v.isNull = false)
    (hp : ¬∀ v ∈ raw, v.Plain) : readRaw raw = none := by
  cases raw with
  | none => simp at hp
  | some v =>
    obtain ⟨hk, hn⟩ := hraw v rfl
    have hne : v ≠ .null := by
      rintro rfl
      cases hn
    have hv := Json.canonical?_of_not_plain hk fun h => hp (by simpa using h)
    rw [readRaw, Json.ofOption, id, Json.Slot.nullable_of_ne_null hne, hv, Option.map_none]

/-- An event with a payload that was decoded is read back from its text, with its tag and without.
Only a payload with an object that reads as a number makes it unreadable. -/
theorem FeedEvent.restored_iff_plain (e : FeedEvent)
    (hexchange : e.exchange = .kucoin ∨ e.exchange = .vertex)
    (hraw : ∀ v ∈ e.raw, (∃ s, Json.ofText? s = some v) ∧ v.isNull = false ∧ v.depth ≤ 126) :
    if ∀ v ∈ e.raw, v.Plain then
      (∃ e', parse? e.toJson.compact = some e' ∧ e'.Same e) ∧
        ∃ e', e.parseAlike? e.body.compact = some e' ∧ e'.Same e
    else parse? e.toJson.compact = none ∧ e.parseAlike? e.body.compact = none := by
  have hkept : ∀ v ∈ e.raw, v.Kept := fun v hv =>
    (hraw v hv).1.elim fun _ hs => Json.kept_of_ofText? hs
  have hfits : ∀ v ∈ e.raw, v.Kept ∧ v.depth ≤ 126 := fun v hv => ⟨hkept v hv, (hraw v hv).2.2⟩
  have hread : ∀ v ∈ e.raw, v.Kept ∧ v.isNull = false := fun v hv =>
    ⟨hkept v hv, (hraw v hv).2.1⟩
  rw [parse?_toJson hexchange hfits, parseAlike?_body hexchange hfits]
  split
  · rename_i hp
    rw [readRaw_of_plain hread hp, Option.map_some, withRaw_dropZeroSigns]
    have hsame := e.same_dropZeroSigns
    exact ⟨⟨_, rfl, hsame⟩, _, rfl, hsame⟩
  · rename_i hp
    rw [readRaw_of_not_plain hread hp, Option.map_none]
    exact ⟨rfl, rfl⟩

namespace FeedEvent

open Json

def overdrawn (raw : Json) : FeedEvent :=
  balance ⟨.kucoin, "USDT", ⟨true, 125, 2, by decide, by decide⟩,
    ⟨true, 0, 1, Decimal.zero.magnitude_lt, by decide⟩, some "main", none, -7, some raw⟩

theorem restored_with_nested_payload :
    let raw : Json := .obj [("a", .arr [.ofInt (-5), .null]), ("b", .str "\n")]
    (∃ s, Json.ofText? s = some raw) ∧ raw.Plain ∧
      (∃ e', parse? (overdrawn raw).toJson.compact = some e' ∧ e'.Same (overdrawn raw)) ∧
        ∃ e', (overdrawn raw).parseAlike? (overdrawn raw).body.compact = some e' ∧
          e'.Same (overdrawn raw) := by
  intro raw
  have hfits : Fits 0 raw := by
    refine fits_obj_iff.mpr ⟨by decide, List.forall_mem_cons.mpr ⟨?_, ?_⟩⟩
    · refine fits_arr_iff.mpr ⟨by decide, List.forall_mem_cons.mpr ⟨?_, ?_⟩⟩
      · exact fits_ofInt (by decide) _
      · simpa using fits_null (by decide)
    · simpa using fits_str (by decide) _
  have hdecoded : Json.ofText? raw.compact = some raw := by
    have hlt : ¬"b" < "a" := by decide
    rw [ofText?_compact hfits]
    simp [raw, canonical?, canonicalItems?, canonicalMembers?, standsForNumber, numberName, ofInt,
      record, Table.ofList, Table.insert, hlt]
  have hplain : raw.Plain := by decide
  have hraw : ∀ v ∈ (overdrawn raw).raw,
      (∃ s, Json.ofText? s = some v) ∧ v.isNull = false ∧ v.depth ≤ 126 := by
    rintro v ⟨⟩
    exact ⟨⟨_, hdecoded⟩, rfl, by decide⟩
  have hall : ∀ v ∈ (overdrawn raw).raw, v.Plain := by
    rintro v ⟨⟩
    exact hplain
  have h := restored_iff_plain (overdrawn raw) (.inl rfl) hraw
  rw [if_pos hall] at h
  exact ⟨⟨_, hdecoded⟩, hplain, h⟩

theorem marked_payload_not_restored :
    let raw : Json := .obj [("$serde_json::private::Number", .str "x"), ("a", .str "y")]
    Json.ofText? "\x7b\"a\":\"y\",\"$serde_json::private::Number\":\"x\"\x7d" = some raw ∧
      raw.isNull = false ∧ raw.depth ≤ 126 ∧
        parse? (overdrawn raw).toJson.compact = none ∧
          (overdrawn raw).parseAlike? (overdrawn raw).body.compact = none := by
  intro raw
  have hdecoded : Json.ofText? "\x7b\"a\":\"y\",\"$serde_json::private::Number\":\"x\"\x7d" =
      some raw := by
    let text : Json := .obj [("a", .str "y"), ("$serde_json::private::Number", .str "x")]
    have hfits : Fits 0 text := by
      refine fits_obj_iff.mpr ⟨by decide, ?_⟩
      simp only [List.forall_mem_cons]
      exact ⟨fits_str (by decide) _, fits_str (by decide) _, by simp⟩
    have hlt : "$serde_json::private::Number" < "a" := by decide
    change Json.ofText? text.compact = _
    rw [ofText?_compact hfits]
    simp [text, raw, canonical?, canonicalMembers?, standsForNumber, numberName, record,
      Table.ofList, Table.insert, hlt]
  have hdepth : raw.depth ≤ 126 := by decide
  have hraw : ∀ v ∈ (overdrawn raw).raw, v.Kept ∧ v.depth ≤ 126 := by
    rintro v ⟨⟩
    exact ⟨kept_of_ofText? hdecoded, hdepth⟩
  have hnone : readRaw (overdrawn raw).raw = none := rfl
  refine ⟨hdecoded, rfl, hdepth, ?_, ?_⟩
  · rw [parse?_toJson (.inl rfl) hraw, hnone, Option.map_none]
  · rw [parseAlike?_body (.inl rfl) hraw, hnone, Option.map_none]

end FeedEvent

end MarketFeed
