import MarketFeed.Json.Basic
import MarketFeed.Text.Casing

/-! Exchanges and their markets. -/

namespace MarketFeed

structure Exchange where
  name : String
  deriving DecidableEq, Inhabited

namespace Exchange

def named (s : String) : Exchange := ⟨Text.lower s⟩

def kucoin : Exchange := ⟨"kucoin"⟩

def vertex : Exchange := ⟨"vertex"⟩

def toJson (e : Exchange) : Json := .str e.name

def ofJson (v : Json) : Option Exchange := v.text?.map named

end Exchange

structure Market where
  exchange : Exchange
  symbol : String
  deriving DecidableEq

namespace Market

def of (exchange : Exchange) (symbol : String) : Market := ⟨exchange, Text.upper symbol⟩

def text (m : Market) : String := m.exchange.name ++ ":" ++ m.symbol

end Market

end MarketFeed
