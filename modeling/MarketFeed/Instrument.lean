import MarketFeed.Json.Schema
import MarketFeed.Text.Casing

/-! Instruments and the canonical symbols made from them. -/

namespace MarketFeed

inductive InstrumentKind where
  | spot
  | perpetual
  | future
  deriving DecidableEq, Inhabited

namespace InstrumentKind

def text : InstrumentKind → String
  | spot => "spot"
  | perpetual => "perpetual"
  | future => "future"

def ending : InstrumentKind → String
  | spot => ""
  | perpetual => "-PERP"
  | future => "-FUT"

def all : List InstrumentKind := [spot, perpetual, future]

def ofJson : Json → Option InstrumentKind := Json.variant (all.map fun k => (k.text, k))

end InstrumentKind

structure Instrument where
  base : String
  quote : String
  kind : InstrumentKind
  deriving DecidableEq

namespace Instrument

def of (base quote : String) (kind : InstrumentKind) : Instrument :=
  ⟨Text.upper base, Text.upper quote, kind⟩

def symbol (i : Instrument) : String := i.base ++ "-" ++ i.quote ++ i.kind.ending

def toJson (i : Instrument) : Json :=
  .obj [("base", .str i.base), ("quote", .str i.quote), ("instrument_type", .str i.kind.text)]

def ofJson (v : Json) : Option Instrument := do
  let field ← v.slots ["base", "quote", "instrument_type"]
  let base ← (field "base").required Json.text?
  let quote ← (field "quote").required Json.text?
  let kind ← (field "instrument_type").required InstrumentKind.ofJson
  some ⟨base, quote, kind⟩

end Instrument

end MarketFeed
