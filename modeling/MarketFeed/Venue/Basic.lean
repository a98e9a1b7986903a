import MarketFeed.Channel
import MarketFeed.Directory
import MarketFeed.Event.Basic
import MarketFeed.Payload

/-! What the formats of all venues have in common. -/

namespace MarketFeed

inductive Venue where
  | kucoin
  | vertex
  deriving DecidableEq

inductive Frame where
  | data (topic : String)
  | control
  | refusal (text : String)
  deriving DecidableEq

namespace Frame

def unrecognized (msg : Json) : Frame := refusal ("unrecognized frame: " ++ msg.compact)

end Frame

namespace Json

def plainText (v : Json) : String := v.text?.getD v.compact

def textField? (v : Json) (name : String) : Option String := (v.get? name).bind text?

end Json

def bookChanges (bids asks : List Level) : List Change :=
  bids.map (.onSide .bid) ++ asks.map (.onSide .ask)

def chunksFrom {α : Type} : Nat → Nat → List α → List (List α)
  | 0, _, _ => []
  | _, _, [] => []
  | fuel + 1, n, xs => xs.take n :: chunksFrom fuel n (xs.drop n)

def chunks {α : Type} (n : Nat) (xs : List α) : List (List α) := chunksFrom xs.length n xs

end MarketFeed
