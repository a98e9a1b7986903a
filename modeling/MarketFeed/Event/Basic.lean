import MarketFeed.Decimal.Arithmetic
import MarketFeed.Exchange
import MarketFeed.Level

/-! What consumers of the feed receive. -/

namespace MarketFeed

inductive BookEventKind where
  | snapshot
  | delta
  deriving DecidableEq

structure BookEvent where
  exchange : Exchange
  symbol : String
  kind : BookEventKind
  bids : List Level
  asks : List Level
  sequence : Option UInt64
  exchangeTime : Option Int64
  receiptTime : Int64
  raw : Option Json

structure TradeEvent where
  exchange : Exchange
  symbol : String
  side : Side
  price : Decimal
  size : Decimal
  tradeId : Option String
  exchangeTime : Option Int64
  receiptTime : Int64
  raw : Option Json

def TradeEvent.notional (e : TradeEvent) : Option Decimal := e.price.mul e.size

inductive OrderKind where
  | limit
  | market
  deriving DecidableEq

inductive OrderStatus where
  | new
  | partiallyFilled
  | filled
  | canceled
  deriving DecidableEq

def OrderStatus.isTerminal : OrderStatus → Bool
  | new => false
  | partiallyFilled => false
  | filled => true
  | canceled => true

structure OrderEvent where
  exchange : Exchange
  symbol : String
  orderId : String
  side : Side
  kind : Option OrderKind
  status : OrderStatus
  price : Option Decimal
  size : Decimal
  remaining : Decimal
  account : Option String
  exchangeTime : Option Int64
  receiptTime : Int64
  raw : Option Json

def OrderEvent.filled (e : OrderEvent) : Option Decimal := e.size.sub e.remaining

structure BalanceEvent where
  exchange : Exchange
  currency : String
  available : Decimal
  reserved : Decimal
  account : Option String
  exchangeTime : Option Int64
  receiptTime : Int64
  raw : Option Json

def BalanceEvent.total (e : BalanceEvent) : Option Decimal := e.available.add e.reserved

inductive FeedEvent where
  | book (e : BookEvent)
  | trade (e : TradeEvent)
  | order (e : OrderEvent)
  | balance (e : BalanceEvent)

namespace FeedEvent

def exchange : FeedEvent → Exchange
  | book e => e.exchange
  | trade e => e.exchange
  | order e => e.exchange
  | balance e => e.exchange

def symbol : FeedEvent → Option String
  | book e => some e.symbol
  | trade e => some e.symbol
  | order e => some e.symbol
  | balance _ => none

def receiptTime : FeedEvent → Int64
  | book e => e.receiptTime
  | trade e => e.receiptTime
  | order e => e.receiptTime
  | balance e => e.receiptTime

end FeedEvent

def millisOfNanos (t : Int64) : Int64 := t / 1000000

end MarketFeed
