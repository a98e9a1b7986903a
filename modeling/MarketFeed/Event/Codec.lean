import MarketFeed.Event.Basic
import MarketFeed.Json.Canonical

/-! The JSON form of events: a record of named fields, with a `type` beside them in a feed. -/

namespace MarketFeed

namespace Json

def ofOption {α : Type} (write : α → Json) : Option α → Json
  | none => .null
  | some a => write a

def ofTime (t : Int64) : Json := .ofInt t.toInt

def ofSequence (n : UInt64) : Json := .ofNat n.toNat

end Json

namespace BookEventKind

def text : BookEventKind → String
  | snapshot => "snapshot"
  | delta => "delta"

def ofJson : Json → Option BookEventKind :=
  Json.variant [("snapshot", snapshot), ("delta", delta)]

end BookEventKind

namespace OrderKind

def text : OrderKind → String
  | limit => "limit"
  | market => "market"

def ofJson : Json → Option OrderKind := Json.variant [("limit", limit), ("market", market)]

end OrderKind

namespace OrderStatus

def text : OrderStatus → String
  | new => "new"
  | partiallyFilled => "partially_filled"
  | filled => "filled"
  | canceled => "canceled"

def ofJson : Json → Option OrderStatus :=
  Json.variant ([new, partiallyFilled, filled, canceled].map fun s => (s.text, s))

end OrderStatus

namespace BookEvent

def members (e : BookEvent) : List (String × Json) :=
  [("exchange", e.exchange.toJson),
   ("symbol", .str e.symbol),
   ("kind", .str e.kind.text),
   ("bids", .arr (e.bids.map Level.toJson)),
   ("asks", .arr (e.asks.map Level.toJson)),
   ("sequence", .ofOption Json.ofSequence e.sequence),
   ("exchange_timestamp_ms", .ofOption Json.ofTime e.exchangeTime),
   ("receipt_timestamp_ms", .ofTime e.receiptTime),
   ("raw", .ofOption id e.raw)]

def ofJson (v : Json) : Option BookEvent := do
  let field ← v.slots ["exchange", "symbol", "kind", "bids", "asks", "sequence",
    "exchange_timestamp_ms", "receipt_timestamp_ms", "raw"]
  let exchange ← (field "exchange").required Exchange.ofJson
  let symbol ← (field "symbol").required Json.text?
  let kind ← (field "kind").required BookEventKind.ofJson
  let bids ← (field "bids").required (Json.listOf Level.ofJson)
  let asks ← (field "asks").required (Json.listOf Level.ofJson)
  let sequence ← (field "sequence").optional Json.uint64
  let exchangeTime ← (field "exchange_timestamp_ms").optional Json.int64
  let receiptTime ← (field "receipt_timestamp_ms").required Json.int64
  let raw ← (field "raw").optional Json.canonical?
  some { exchange, symbol, kind, bids, asks, sequence, exchangeTime, receiptTime, raw }

end BookEvent

namespace TradeEvent

def members (e : TradeEvent) : List (String × Json) :=
  [("exchange", e.exchange.toJson),
   ("symbol", .str e.symbol),
   ("side", .str e.side.text),
   ("price", e.price.toJson),
   ("size", e.size.toJson),
   ("trade_id", .ofOption .str e.tradeId),
   ("exchange_timestamp_ms", .ofOption Json.ofTime e.exchangeTime),
   ("receipt_timestamp_ms", .ofTime e.receiptTime),
   ("raw", .ofOption id e.raw)]

def ofJson (v : Json) : Option TradeEvent := do
  let field ← v.slots ["exchange", "symbol", "side", "price", "size", "trade_id",
    "exchange_timestamp_ms", "receipt_timestamp_ms", "raw"]
  let exchange ← (field "exchange").required Exchange.ofJson
  let symbol ← (field "symbol").required Json.text?
  let side ← (field "side").required Side.ofJson
  let price ← (field "price").required Decimal.ofJson
  let size ← (field "size").required Decimal.ofJson
  let tradeId ← (field "trade_id").optional Json.text?
  let exchangeTime ← (field "exchange_timestamp_ms").optional Json.int64
  let receiptTime ← (field "receipt_timestamp_ms").required Json.int64
  let raw ← (field "raw").optional Json.canonical?
  some { exchange, symbol, side, price, size, tradeId, exchangeTime, receiptTime, raw }

end TradeEvent

namespace OrderEvent

def members (e : OrderEvent) : List (String × Json) :=
  [("exchange", e.exchange.toJson),
   ("symbol", .str e.symbol),
   ("order_id", .str e.orderId),
   ("side", .str e.side.text),
   ("order_type", .ofOption (.str ·.text) e.kind),
   ("status", .str e.status.text),
   ("price", .ofOption Decimal.toJson e.price),
   ("size", e.size.toJson),
   ("remaining", e.remaining.toJson),
   ("account", .ofOption .str e.account),
   ("exchange_timestamp_ms", .ofOption Json.ofTime e.exchangeTime),
   ("receipt_timestamp_ms", .ofTime e.receiptTime),
   ("raw", .ofOption id e.raw)]

def ofJson (v : Json) : Option OrderEvent := do
  let field ← v.slots ["exchange", "symbol", "order_id", "side", "order_type", "status", "price",
    "size", "remaining", "account", "exchange_timestamp_ms", "receipt_timestamp_ms", "raw"]
  let exchange ← (field "exchange").required Exchange.ofJson
  let symbol ← (field "symbol").required Json.text?
  let orderId ← (field "order_id").required Json.text?
  let side ← (field "side").required Side.ofJson
  let kind ← (field "order_type").optional OrderKind.ofJson
  let status ← (field "status").required OrderStatus.ofJson
  let price ← (field "price").optional Decimal.ofJson
  let size ← (field "size").required Decimal.ofJson
  let remaining ← (field "remaining").required Decimal.ofJson
  let account ← (field "account").optional Json.text?
  let exchangeTime ← (field "exchange_timestamp_ms").optional Json.int64
  let receiptTime ← (field "receipt_timestamp_ms").required Json.int64
  let raw ← (field "raw").optional Json.canonical?
  some { exchange, symbol, orderId, side, kind, status, price, size, remaining, account,
         exchangeTime, receiptTime, raw }

end OrderEvent

namespace BalanceEvent

def members (e : BalanceEvent) : List (String × Json) :=
  [("exchange", e.exchange.toJson),
   ("currency", .str e.currency),
   ("available", e.available.toJson),
   ("reserved", e.reserved.toJson),
   ("account", .ofOption .str e.account),
   ("exchange_timestamp_ms", .ofOption Json.ofTime e.exchangeTime),
   ("receipt_timestamp_ms", .ofTime e.receiptTime),
   ("raw", .ofOption id e.raw)]

def ofJson (v : Json) : Option BalanceEvent := do
  let field ← v.slots ["exchange", "currency", "available", "reserved", "account",
    "exchange_timestamp_ms", "receipt_timestamp_ms", "raw"]
  let exchange ← (field "exchange").required Exchange.ofJson
  let currency ← (field "currency").required Json.text?
  let available ← (field "available").required Decimal.ofJson
  let reserved ← (field "reserved").required Decimal.ofJson
  let account ← (field "account").optional Json.text?
  let exchangeTime ← (field "exchange_timestamp_ms").optional Json.int64
  let receiptTime ← (field "receipt_timestamp_ms").required Json.int64
  let raw ← (field "raw").optional Json.canonical?
  some { exchange, currency, available, reserved, account, exchangeTime, receiptTime, raw }

end BalanceEvent

namespace FeedEvent

def tag : FeedEvent → String
  | book _ => "order_book"
  | trade _ => "trade"
  | order _ => "order_status"
  | balance _ => "balance"

def members : FeedEvent → List (String × Json)
  | book e => e.members
  | trade e => e.members
  | order e => e.members
  | balance e => e.members

def body (e : FeedEvent) : Json := .obj e.members

def toJson (e : FeedEvent) : Json := .obj (("type", .str e.tag) :: e.members)

def ofTagged (tag : String) (body : Json) : Option FeedEvent :=
  match tag with
  | "order_book" => (BookEvent.ofJson body).map book
  | "trade" => (TradeEvent.ofJson body).map trade
  | "order_status" => (OrderEvent.ofJson body).map order
  | "balance" => (BalanceEvent.ofJson body).map balance
  | _ => none

def ofJson (v : Json) : Option FeedEvent :=
  if v.isReadable then
    match v with
    | .obj members =>
      match members.filter (·.1 == "type") with
      | [(_, .str tag)] => ofTagged tag (.obj (members.filter (·.1 != "type")))
      | _ => none
    | .arr (.str tag :: items) => ofTagged tag (.arr items)
    | _ => none
  else none

def parse? (s : String) : Option FeedEvent := (Json.parse? s).bind ofJson

end FeedEvent

end MarketFeed
