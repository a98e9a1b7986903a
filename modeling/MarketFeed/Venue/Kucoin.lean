import MarketFeed.Venue.Basic

/-! The messages of KuCoin: sequenced book changes, prices and sizes as decimals. -/

namespace MarketFeed.Kucoin

def topicOf : Channel → String
  | .book => "/market/level2"
  | .trades => "/market/match"
  | .orders => "/spotMarket/tradeOrders"
  | .balances => "/account/balance"

def channel? (topic : String) : Option Channel :=
  let head := String.ofList (topic.toList.takeWhile (· != ':'))
  Channel.all.find? fun c => topicOf c == head

def symbolsPerFrame : Nat := 100

def symbolsPerConnection : Nat := 300

def successCode : String := "200000"

def inspect (msg : Json) : Frame :=
  match msg.textField? "topic" with
  | some topic => .data topic
  | none =>
    match msg.textField? "type" with
    | some "welcome" => .control
    | some "ack" => .control
    | some "pong" => .control
    | some "error" => .refusal (((msg.get? "data").getD msg).compact)
    | some other => .data other
    | none => .unrecognized msg

def side (s : String) : Except ReadError Side :=
  match Side.ofText? (Text.lower s) with
  | some side => .ok side
  | none => .error (.invalid "side" (Text.lower s))

def orderStatus (event : String) (remaining : Decimal) : Except ReadError OrderStatus :=
  match event with
  | "open" => .ok .new
  | "update" => .ok .new
  | "match" => .ok (if remaining.isZero then .filled else .partiallyFilled)
  | "filled" => .ok .filled
  | "canceled" => .ok .canceled
  | other => .error (.invalid "type" other)

def orderKind? (s : String) : Option OrderKind :=
  let small := String.ofList (s.toList.map Char.toLower)
  [("limit", OrderKind.limit), ("market", .market)].lookup small

def readSpan (data : Json) : Except ReadError Span := do
  let first ← data.uint64Field "sequenceStart"
  let last ← data.uint64Field "sequenceEnd"
  if last < first then
    .error (.invalid "sequenceStart" (toString first.toNat ++ " > " ++ toString last.toNat))
  else .ok ⟨first, last⟩

def readUpdate (dir : Directory) (msg : Json) : Except ReadError Update := do
  let data ← msg.field "data"
  let symbol ← dir.resolve (← data.textField "symbol")
  let span ← readSpan data
  let changes ← data.field "changes"
  let bids ← changes.levelsField Json.decimalValue "bids"
  let asks ← changes.levelsField Json.decimalValue "asks"
  let exchangeTime ← data.int64Field? "time"
  .ok ⟨symbol, bookChanges bids asks, some span, exchangeTime, none⟩

def checkCode (response : Json) : Except ReadError Unit :=
  match response.field? "code" with
  | none => .ok ()
  | some code =>
    if code.plainText = successCode then .ok () else .error (.invalid "code" code.plainText)

def readSnapshot (response : Json) : Except ReadError Snapshot := do
  checkCode response
  let data ← response.field "data"
  let bids ← data.levelsField Json.decimalValue "bids"
  let asks ← data.levelsField Json.decimalValue "asks"
  let sequence ← data.uint64Field "sequence"
  let exchangeTime ← data.int64Field? "time"
  .ok ⟨bids, asks, some sequence, exchangeTime, none⟩

def readTradeId (data : Json) : Except ReadError (Option String) :=
  match data.field? "tradeId" with
  | none => .ok none
  | some _ => (data.idField "tradeId").map some

def readTrade (dir : Directory) (msg : Json) (receiptTime : Int64) :
    Except ReadError TradeEvent := do
  let data ← msg.field "data"
  let symbol ← dir.resolve (← data.textField "symbol")
  let side ← side (← data.textField "side")
  let price ← data.decimalField "price"
  let size ← data.decimalField "size"
  let tradeId ← readTradeId data
  let time ← data.int64Field? "time"
  .ok { exchange := .kucoin, symbol, side, price, size, tradeId,
        exchangeTime := time.map millisOfNanos, receiptTime, raw := none }

def readLimitPrice (data : Json) : Except ReadError (Option Decimal) :=
  match data.field? "price" with
  | none => .ok none
  | some v => (Json.decimalValue "price" v).map some

def readOrder (dir : Directory) (msg : Json) (receiptTime : Int64) :
    Except ReadError OrderEvent := do
  let data ← msg.field "data"
  let symbol ← dir.resolve (← data.textField "symbol")
  let remaining ← data.decimalField "remainSize"
  let kind := (data.textField? "orderType").bind orderKind?
  let price ← readLimitPrice data
  let orderId ← data.idField "orderId"
  let side ← side (← data.textField "side")
  let status ← orderStatus (← data.textField "type") remaining
  let size ← data.decimalField "size"
  let time ← data.int64Field? "ts"
  .ok { exchange := .kucoin, symbol, orderId, side, kind, status, price, size, remaining,
        account := none, exchangeTime := time.map millisOfNanos, receiptTime, raw := none }

def readHolding (v : Json) (totalName : String) :
    Except (Fault ReadError) (String × Decimal × Decimal) := do
  let available ← Fault.lift (v.decimalField "available")
  let total ← Fault.lift (v.decimalField totalName)
  let currency ← Fault.lift (v.textField "currency")
  match total.sub available with
  | some reserved => .ok (currency, available, reserved)
  | none => .error .overflow

def readBalance (msg : Json) (receiptTime : Int64) : Except (Fault ReadError) BalanceEvent := do
  let data ← Fault.lift (msg.field "data")
  let (currency, available, reserved) ← readHolding data "total"
  let exchangeTime ← Fault.lift (data.int64Field? "time")
  .ok { exchange := .kucoin, currency, available, reserved, account := none, exchangeTime,
        receiptTime, raw := none }

def readAccount (receiptTime : Int64) (entry : Json) : Except (Fault ReadError) BalanceEvent := do
  let (currency, available, reserved) ← readHolding entry "balance"
  .ok { exchange := .kucoin, currency, available, reserved, account := entry.textField? "type",
        exchangeTime := none, receiptTime, raw := some entry }

def readBalances (response : Json) (receiptTime : Int64) :
    Except (Fault ReadError) (List BalanceEvent) := do
  let entries ← Fault.lift (response.itemsField "data")
  entries.mapM (readAccount receiptTime)

def snapshotPath (venueId : String) : String :=
  "/api/v3/market/orderbook/level2?symbol=" ++ venueId

def balancePath : String := "/api/v1/accounts"

def subscribeFrame (topic : String) (isPrivate : Bool) : Json :=
  .record [("type", .str "subscribe"), ("topic", .str topic), ("privateChannel", .bool isPrivate),
    ("response", .bool true)]

def subscribeFrames (channel : Channel) (venueIds : List String) : List Json :=
  if channel.isPrivate then [subscribeFrame (topicOf channel) true]
  else (chunks symbolsPerFrame venueIds).map fun ids =>
    subscribeFrame (topicOf channel ++ ":" ++ String.intercalate "," ids) false

def heartbeat : Json := .obj [("type", .str "ping")]

end MarketFeed.Kucoin
