import MarketFeed.Decimal.Reading
import MarketFeed.Json.Schema

/-! Price levels, changes of levels, and what a venue says about a book. -/

namespace MarketFeed

inductive BookSide where
  | bid
  | ask
  deriving DecidableEq

namespace BookSide

def text : BookSide → String
  | bid => "bid"
  | ask => "ask"

def ofJson : Json → Option BookSide := Json.variant [("bid", bid), ("ask", ask)]

end BookSide

inductive Side where
  | buy
  | sell
  deriving DecidableEq

namespace Side

def text : Side → String
  | buy => "buy"
  | sell => "sell"

def opposite : Side → Side
  | buy => sell
  | sell => buy

def bookSide : Side → BookSide
  | buy => .bid
  | sell => .ask

def ofText? (s : String) : Option Side := [("buy", buy), ("sell", sell)].lookup s

def ofJson : Json → Option Side := Json.variant [("buy", buy), ("sell", sell)]

end Side

namespace Decimal

def toJson (d : Decimal) : Json := .str d.text

def ofJson : Json → Option Decimal
  | .str s => ofEncoded? s
  | v => (Json.wholeNumber v).bind fun n =>
    if -(Text.int64Bound : Int) ≤ n && n < UInt64.size then of? n 0 else none

end Decimal

structure Level where
  price : Decimal
  size : Decimal
  deriving DecidableEq

namespace Level

def isRemoval (l : Level) : Bool := l.size.isZero

def same (a b : Level) : Bool := a.price.same b.price && a.size.same b.size

def toJson (l : Level) : Json := .obj [("price", l.price.toJson), ("size", l.size.toJson)]

def ofJson (v : Json) : Option Level := do
  let field ← v.slots ["price", "size"]
  let price ← (field "price").required Decimal.ofJson
  let size ← (field "size").required Decimal.ofJson
  some ⟨price, size⟩

end Level

structure Change where
  side : BookSide
  price : Decimal
  size : Decimal
  deriving DecidableEq

namespace Change

def level (c : Change) : Level := ⟨c.price, c.size⟩

def isRemoval (c : Change) : Bool := c.level.isRemoval

def onSide (side : BookSide) (l : Level) : Change := ⟨side, l.price, l.size⟩

end Change

structure Span where
  first : UInt64
  last : UInt64
  deriving DecidableEq

def Span.text (s : Span) : String := toString s.first.toNat ++ ".." ++ toString s.last.toNat

structure Update where
  symbol : String
  changes : List Change
  span : Option Span
  exchangeTime : Option Int64
  raw : Option Json

structure Snapshot where
  bids : List Level
  asks : List Level
  sequence : Option UInt64
  exchangeTime : Option Int64
  raw : Option Json

end MarketFeed
