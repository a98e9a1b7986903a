import MarketFeed.Json.Schema

/-! The kinds of data a venue streams. -/

namespace MarketFeed

inductive Channel where
  | book
  | trades
  | orders
  | balances
  deriving DecidableEq

namespace Channel

def all : List Channel := [book, trades, orders, balances]

def text : Channel → String
  | book => "l2_book"
  | trades => "trades"
  | orders => "order_info"
  | balances => "balances"

def isPrivate : Channel → Bool
  | book => false
  | trades => false
  | orders => true
  | balances => true

def ofJson : Json → Option Channel := Json.variant (all.map fun c => (c.text, c))

end Channel

end MarketFeed
