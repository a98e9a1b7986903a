import Mathlib.Data.List.Nodup
import MarketFeed.Event.Codec
import MarketFeed.Proofs.Decimal.Encoding
import MarketFeed.Proofs.Json.Literal

namespace MarketFeed

namespace Json

variable {α : Type} {read : Json → Option α} {write : α → Json} {f : α → α} {v : Json}
  {members : List (String × Json)}

lemma lookup_of_mem (hn : (members.map Prod.fst).Nodup) {m : String × Json} (hm : m ∈ members) :
    members.lookup m.1 = some m.2 := by
  obtain ⟨front, back, rfl⟩ := List.append_of_mem hm
  rw [List.map_append, List.nodup_append] at hn
  refine List.lookup_eq_some_iff.mpr ⟨front, back, rfl, fun e he => bne_iff_ne.mpr ?_⟩
  exact (hn.2.2 e.1 (List.mem_map_of_mem he) m.1 List.mem_cons_self).symm

lemma exists_slots {names : List String} (h : members.map Prod.fst = names) (hn : names.Nodup) :
    ∃ field, slots names (.obj members) = some field ∧ ∀ m ∈ members, field m.1 = .given m.2 := by
  subst h
  have hcount : ∀ n, members.countP (·.1 == n) ≤ 1 := by
    intro n
    have hc := List.nodup_iff_count_le_one.mp hn n
    rwa [List.count, List.countP_map] at hc
  refine ⟨_, if_pos (List.all_eq_true.mpr fun n _ => decide_eq_true (hcount n)), fun m hm => ?_⟩
  rw [lookup_of_mem hn hm, Option.elim_some]

@[simp] lemma text?_str (s : String) : (Json.str s).text? = some s := rfl

lemma uint64_ofSequence (n : UInt64) : uint64 (.ofSequence n) = some n := by
  have h : wholeNumber (.ofNat n.toNat) = some (n.toNat : Int) := wholeNumber_ofInt n.toNat
  have hlt : (n.toNat : Int) < (UInt64.size : Int) := Int.ofNat_lt.mpr n.toNat_lt
  rw [uint64, naturalBelow, ofSequence, h, Option.bind_some, if_pos, Option.map_some,
    Int.toNat_natCast, UInt64.ofNat_toNat]
  rw [Bool.and_eq_true, decide_eq_true_iff, decide_eq_true_iff]
  exact ⟨Int.natCast_nonneg _, hlt⟩

lemma int64_ofTime (t : Int64) : int64 (.ofTime t) = some t := by
  have hlo : -(Text.int64Bound : Int) ≤ t.toInt := t.le_toInt
  have hhi : t.toInt < Text.int64Bound := t.toInt_lt
  simp [int64, ofTime, wholeNumber_ofInt, hlo, hhi]

lemma listOf_map (hread : ∀ a, read (write a) = some (f a)) (as : List α) :
    listOf read (.arr (as.map write)) = some (as.map f) := by
  change (as.map write).mapM read = _
  induction as with
  | nil => rfl
  | cons a as ih => simp [hread, ih]

namespace Slot

variable {β : Type} {slot : Slot} {a : α} {b : Option α}

lemma bind_required {next : α → Option β} (hs : slot = given v) (hr : read v = some a) :
    (slot.required read >>= next) = next a := by
  rw [hs, required, hr]
  rfl

lemma bind_optional {next : Option α → Option β} (hs : slot = given v)
    (hr : nullable read v = some b) : (slot.optional read >>= next) = next b := by
  rw [hs, optional, hr]
  rfl

lemma nullable_of_ne_null (h : v ≠ .null) : nullable read v = (read v).map some := by
  cases v with
  | null => contradiction
  | _ => rfl

lemma nullable_ofOption (hread : ∀ a, read (write a) = some (f a)) (hnull : ∀ a, write a ≠ .null)
    (o : Option α) : nullable read (ofOption write o) = some (o.map f) := by
  cases o with
  | none => rfl
  | some a => rw [ofOption, nullable_of_ne_null (hnull a), hread, Option.map_some, Option.map_some]

lemma nullable_ofOption_id (hread : ∀ a, read (write a) = some a) (hnull : ∀ a, write a ≠ .null)
    (o : Option α) : nullable read (ofOption write o) = some o := by
  have h := nullable_ofOption (f := id) hread hnull o
  rwa [Option.map_id] at h

lemma nullable_sequence (o : Option UInt64) :
    nullable uint64 (ofOption ofSequence o) = some o :=
  nullable_ofOption_id uint64_ofSequence (fun _ => Json.noConfusion) o

lemma nullable_time (o : Option Int64) : nullable int64 (ofOption ofTime o) = some o :=
  nullable_ofOption_id int64_ofTime (fun _ => Json.noConfusion) o

lemma nullable_text (o : Option String) : nullable text? (ofOption .str o) = some o :=
  nullable_ofOption_id text?_str (fun _ => Json.noConfusion) o

end Slot

end Json

namespace Exchange

lemma ofJson_toJson {e : Exchange} (h : e = kucoin ∨ e = vertex) : ofJson e.toJson = some e := by
  rcases h with rfl | rfl <;> decide

end Exchange

lemma Side.ofJson_text (s : Side) : ofJson (.str s.text) = some s := by
  cases s <;> rfl

lemma BookEventKind.ofJson_text (k : BookEventKind) : ofJson (.str k.text) = some k := by
  cases k <;> rfl

lemma OrderKind.ofJson_text (k : OrderKind) : ofJson (.str k.text) = some k := by
  cases k <;> rfl

lemma OrderStatus.ofJson_text (s : OrderStatus) : ofJson (.str s.text) = some s := by
  cases s <;> rfl

open Json.Slot

lemma nullable_orderKind (o : Option OrderKind) :
    nullable OrderKind.ofJson (.ofOption (.str ·.text) o) = some o :=
  nullable_ofOption_id OrderKind.ofJson_text (fun _ => Json.noConfusion) o

lemma nullable_decimal (o : Option Decimal) :
    nullable Decimal.ofJson (.ofOption Decimal.toJson o) = some (o.map Decimal.dropZeroSign) :=
  nullable_ofOption Decimal.ofJson_toJson (fun _ => Json.noConfusion) o

namespace Level

def dropZeroSigns (l : Level) : Level := ⟨l.price.dropZeroSign, l.size.dropZeroSign⟩

lemma ofJson_toJson (l : Level) : ofJson l.toJson = some l.dropZeroSigns := by
  have hnames : [("price", l.price.toJson), ("size", l.size.toJson)].map Prod.fst =
    ["price", "size"] := rfl
  obtain ⟨field, hslots, hfield⟩ := Json.exists_slots hnames (by decide)
  simp only [List.forall_mem_cons] at hfield
  obtain ⟨hprice, hsize, _⟩ := hfield
  rw [toJson, ofJson, hslots, Option.bind_eq_bind, Option.bind_some,
    bind_required hprice l.price.ofJson_toJson, bind_required hsize l.size.ofJson_toJson]
  rfl

lemma listOf_toJson (ls : List Level) :
    Json.listOf ofJson (.arr (ls.map toJson)) = some (ls.map dropZeroSigns) :=
  Json.listOf_map ofJson_toJson ls

end Level

def readRaw (raw : Option Json) : Option (Option Json) :=
  nullable Json.canonical? (.ofOption id raw)

lemma bind_raw {α : Type} {slot : Json.Slot} {raw : Option Json} {f : Option Json → α}
    (hs : slot = given (.ofOption id raw)) :
    (slot.optional Json.canonical? >>= fun raw => some (f raw)) = (readRaw raw).map f := by
  rw [hs]
  exact Option.map_eq_bind.symm

namespace BookEvent

def dropZeroSigns (e : BookEvent) : BookEvent :=
  { e with bids := e.bids.map Level.dropZeroSigns, asks := e.asks.map Level.dropZeroSigns }

lemma ofJson_members {e : BookEvent} (h : e.exchange = .kucoin ∨ e.exchange = .vertex) :
    ofJson (.obj e.members) = (readRaw e.raw).map fun raw => { e.dropZeroSigns with raw } := by
  have hnames : e.members.map Prod.fst = ["exchange", "symbol", "kind", "bids", "asks", "sequence",
    "exchange_timestamp_ms", "receipt_timestamp_ms", "raw"] := rfl
  obtain ⟨field, hslots, hfield⟩ := Json.exists_slots hnames (by decide)
  simp only [members, List.forall_mem_cons] at hfield
  obtain ⟨hexchange, hsymbol, hkind, hbids, hasks, hsequence, htime, hreceipt, hraw, _⟩ := hfield
  rw [ofJson, hslots, Option.bind_eq_bind, Option.bind_some,
    bind_required hexchange (Exchange.ofJson_toJson h), bind_required hsymbol (Json.text?_str _),
    bind_required hkind e.kind.ofJson_text, bind_required hbids (Level.listOf_toJson _),
    bind_required hasks (Level.listOf_toJson _), bind_optional hsequence (nullable_sequence _),
    bind_optional htime (nullable_time _), bind_required hreceipt (Json.int64_ofTime _),
    bind_raw hraw]
  rfl

end BookEvent

namespace TradeEvent

def dropZeroSigns (e : TradeEvent) : TradeEvent :=
  { e with price := e.price.dropZeroSign, size := e.size.dropZeroSign }

lemma ofJson_members {e : TradeEvent} (h : e.exchange = .kucoin ∨ e.exchange = .vertex) :
    ofJson (.obj e.members) = (readRaw e.raw).map fun raw => { e.dropZeroSigns with raw } := by
  have hnames : e.members.map Prod.fst = ["exchange", "symbol", "side", "price", "size", "trade_id",
    "exchange_timestamp_ms", "receipt_timestamp_ms", "raw"] := rfl
  obtain ⟨field, hslots, hfield⟩ := Json.exists_slots hnames (by decide)
  simp only [members, List.forall_mem_cons] at hfield
  obtain ⟨hexchange, hsymbol, hside, hprice, hsize, htrade, htime, hreceipt, hraw, _⟩ := hfield
  rw [ofJson, hslots, Option.bind_eq_bind, Option.bind_some,
    bind_required hexchange (Exchange.ofJson_toJson h), bind_required hsymbol (Json.text?_str _),
    bind_required hside e.side.ofJson_text, bind_required hprice e.price.ofJson_toJson,
    bind_required hsize e.size.ofJson_toJson, bind_optional htrade (nullable_text _),
    bind_optional htime (nullable_time _), bind_required hreceipt (Json.int64_ofTime _),
    bind_raw hraw]
  rfl

end TradeEvent

namespace OrderEvent

def dropZeroSigns (e : OrderEvent) : OrderEvent :=
  { e with
    price := e.price.map Decimal.dropZeroSign
    size := e.size.dropZeroSign
    remaining := e.remaining.dropZeroSign }

lemma ofJson_members {e : OrderEvent} (h : e.exchange = .kucoin ∨ e.exchange = .vertex) :
    ofJson (.obj e.members) = (readRaw e.raw).map fun raw => { e.dropZeroSigns with raw } := by
  have hnames : e.members.map Prod.fst = ["exchange", "symbol", "order_id", "side", "order_type",
    "status", "price", "size", "remaining", "account", "exchange_timestamp_ms",
    "receipt_timestamp_ms", "raw"] := rfl
  obtain ⟨field, hslots, hfield⟩ := Json.exists_slots hnames (by decide)
  simp only [members, List.forall_mem_cons] at hfield
  obtain ⟨hexchange, hsymbol, horder, hside, hkind, hstatus, hprice, hsize, hremaining, haccount,
    htime, hreceipt, hraw, _⟩ := hfield
  rw [ofJson, hslots, Option.bind_eq_bind, Option.bind_some,
    bind_required hexchange (Exchange.ofJson_toJson h), bind_required hsymbol (Json.text?_str _),
    bind_required horder (Json.text?_str _), bind_required hside e.side.ofJson_text,
    bind_optional hkind (nullable_orderKind _), bind_required hstatus e.status.ofJson_text,
    bind_optional hprice (nullable_decimal _), bind_required hsize e.size.ofJson_toJson,
    bind_required hremaining e.remaining.ofJson_toJson, bind_optional haccount (nullable_text _),
    bind_optional htime (nullable_time _), bind_required hreceipt (Json.int64_ofTime _),
    bind_raw hraw]
  rfl

end OrderEvent

namespace BalanceEvent

def dropZeroSigns (e : BalanceEvent) : BalanceEvent :=
  { e with available := e.available.dropZeroSign, reserved := e.reserved.dropZeroSign }

lemma ofJson_members {e : BalanceEvent} (h : e.exchange = .kucoin ∨ e.exchange = .vertex) :
    ofJson (.obj e.members) = (readRaw e.raw).map fun raw => { e.dropZeroSigns with raw } := by
  have hnames : e.members.map Prod.fst = ["exchange", "currency", "available", "reserved",
    "account", "exchange_timestamp_ms", "receipt_timestamp_ms", "raw"] := rfl
  obtain ⟨field, hslots, hfield⟩ := Json.exists_slots hnames (by decide)
  simp only [members, List.forall_mem_cons] at hfield
  obtain ⟨hexchange, hcurrency, havailable, hreserved, haccount, htime, hreceipt, hraw, _⟩ := hfield
  rw [ofJson, hslots, Option.bind_eq_bind, Option.bind_some,
    bind_required hexchange (Exchange.ofJson_toJson h), bind_required hcurrency (Json.text?_str _),
    bind_required havailable e.available.ofJson_toJson,
    bind_required hreserved e.reserved.ofJson_toJson, bind_optional haccount (nullable_text _),
    bind_optional htime (nullable_time _), bind_required hreceipt (Json.int64_ofTime _),
    bind_raw hraw]
  rfl

end BalanceEvent

end MarketFeed
