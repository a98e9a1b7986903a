import MarketFeed.Venue.Basic

/-! The messages of Vertex: products by number, prices and sizes as integers of 18 places. -/

namespace MarketFeed.Vertex

def topicOf : Channel → String
  | .book => "book_depth"
  | .trades => "trade"
  | .orders => "fill"
  | .balances => "position_change"

def channel? (topic : String) : Option Channel := Channel.all.find? fun c => topicOf c == topic

def places : Nat := 18

def quoteProduct : String := "0"

def quoteCurrency : String := "USDC"

def inspect (msg : Json) : Frame :=
  match msg.textField? "type" with
  | some kind => .data kind
  | none =>
    match msg.field? "error" with
    | some e => .refusal e.plainText
    | none =>
      match msg.get? "result" with
      | some .null => .control
      | _ => .unrecognized msg

def readSymbol (dir : Directory) (msg : Json) : Except ReadError String := do
  dir.resolve (← msg.idField "product_id")

def currency (dir : Directory) (product : String) : Except ReadError String :=
  if product = quoteProduct then .ok quoteCurrency
  else (dir.resolve product).map fun symbol => ((dir.instrument? symbol).map (·.base)).getD symbol

def readTime (v : Json) (name : String) : Except ReadError (Option Int64) :=
  (v.int64Field? name).map (·.map millisOfNanos)

def sideOf (buys : Bool) : Side := if buys then .buy else .sell

def readUpdate (dir : Directory) (msg : Json) : Except ReadError Update := do
  let symbol ← readSymbol dir msg
  let bids ← msg.levelsField (Json.scaledValue places) "bids"
  let asks ← msg.levelsField (Json.scaledValue places) "asks"
  let exchangeTime ← readTime msg "max_timestamp"
  .ok ⟨symbol, bookChanges bids asks, none, exchangeTime, none⟩

def checkStatus (response : Json) : Except ReadError Unit :=
  match response.textField? "status" with
  | none => .ok ()
  | some status => if status = "success" then .ok () else .error (.invalid "status" status)

def readSnapshot (response : Json) : Except ReadError Snapshot := do
  checkStatus response
  let data ← response.field "data"
  let bids ← data.levelsField (Json.scaledValue places) "bids"
  let asks ← data.levelsField (Json.scaledValue places) "asks"
  let exchangeTime ← readTime data "timestamp"
  .ok ⟨bids, asks, none, exchangeTime, none⟩

def readTrade (dir : Directory) (msg : Json) (receiptTime : Int64) :
    Except ReadError TradeEvent := do
  let side := sideOf (← msg.boolField "is_taker_buyer")
  let symbol ← readSymbol dir msg
  let price ← msg.scaledField places "price"
  let size ← msg.scaledField places "taker_qty"
  let exchangeTime ← readTime msg "timestamp"
  .ok { exchange := .vertex, symbol, side, price, size, tradeId := none, exchangeTime, receiptTime,
        raw := none }

def readOrder (dir : Directory) (msg : Json) (receiptTime : Int64) :
    Except ReadError OrderEvent := do
  let side := sideOf (← msg.boolField "is_bid")
  let remaining ← msg.scaledField places "remaining_qty"
  let symbol ← readSymbol dir msg
  let orderId ← msg.textField "order_digest"
  let price ← msg.scaledField places "price"
  let size ← msg.scaledField places "original_qty"
  let exchangeTime ← readTime msg "timestamp"
  .ok { exchange := .vertex, symbol, orderId, side, kind := none,
        status := if remaining.isZero then .filled else .partiallyFilled,
        price := some price, size, remaining, account := msg.textField? "subaccount",
        exchangeTime, receiptTime, raw := none }

def readBalance (dir : Directory) (msg : Json) (receiptTime : Int64) :
    Except ReadError BalanceEvent := do
  let currency ← currency dir (← msg.idField "product_id")
  let available ← msg.scaledField places "amount"
  let exchangeTime ← readTime msg "timestamp"
  .ok { exchange := .vertex, currency, available, reserved := .zero,
        account := msg.textField? "subaccount", exchangeTime, receiptTime, raw := none }

def readAccount (dir : Directory) (receiptTime : Int64) (entry : Json) :
    Except ReadError BalanceEvent := do
  let balance ← entry.field "balance"
  let currency ← currency dir (← entry.idField "product_id")
  let available ← balance.scaledField places "amount"
  .ok { exchange := .vertex, currency, available, reserved := .zero, account := none,
        exchangeTime := none, receiptTime, raw := some entry }

def readBalances (dir : Directory) (response : Json) (receiptTime : Int64) :
    Except ReadError (List BalanceEvent) := do
  let data ← response.field "data"
  let entries ← data.itemsField "spot_balances"
  entries.mapM (readAccount dir receiptTime)

def snapshotPath (venueId : String) (depth : Nat) : String :=
  "/query?type=market_liquidity&product_id=" ++ venueId ++ "&depth=" ++ toString depth

def balancePath (account : String) : String :=
  "/query?type=subaccount_info&subaccount=" ++ account

def productJson (venueId : String) : Json :=
  match Text.uint64? venueId.toList with
  | some n => .ofNat n.toNat
  | none => .str venueId

def accountMember (channel : Channel) (account : Option String) : List (String × Json) :=
  if channel.isPrivate then account.toList.map fun a => ("subaccount", .str a) else []

def subscribeFrame (channel : Channel) (account : Option String) (venueId : String) : Json :=
  .record [("method", .str "subscribe"),
    ("stream", .record ([("type", .str (topicOf channel)), ("product_id", productJson venueId)] ++
      accountMember channel account))]

def subscribeFrames (channel : Channel) (venueIds : List String) (account : Option String) :
    List Json :=
  venueIds.map (subscribeFrame channel account)

end MarketFeed.Vertex
