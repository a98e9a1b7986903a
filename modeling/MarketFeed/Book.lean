import MarketFeed.Event.Basic
import MarketFeed.Ladder

/-! Order books and the changes a consumer of their visible part has to hear about. -/

namespace MarketFeed

/-- A book holds every level it knows; `maxDepth` bounds how many of a side are shown. -/
structure Book where
  exchange : Exchange
  symbol : String
  bids : Ladder .bid
  asks : Ladder .ask
  sequence : Option UInt64
  exchangeTime : Option Int64
  receiptTime : Int64
  maxDepth : Option Nat

namespace Book

def empty (exchange : Exchange) (symbol : String) (maxDepth : Option Nat) : Book where
  exchange
  symbol
  bids := .empty
  asks := .empty
  sequence := none
  exchangeTime := none
  receiptTime := 0
  maxDepth

def load (b : Book) (s : Snapshot) (receiptTime : Int64) : Book :=
  { b with
    bids := .ofLevels s.bids
    asks := .ofLevels s.asks
    sequence := s.sequence
    exchangeTime := s.exchangeTime
    receiptTime }

def change (b : Book) (c : Change) : Book :=
  match c.side with
  | .bid => { b with bids := b.bids.set c.level }
  | .ask => { b with asks := b.asks.set c.level }

def alters (b : Book) (c : Change) : Bool :=
  match c.side with
  | .bid => b.bids.alters c.level
  | .ask => b.asks.alters c.level

def changeAll (b : Book) (cs : List Change) : Book := cs.foldl change b

def altering (b : Book) : List Change → List Change
  | [] => []
  | c :: r => if b.alters c then c :: altering (b.change c) r else altering (b.change c) r

def shown (b : Book) (ls : List Level) : List Level :=
  match b.maxDepth with
  | none => ls
  | some d => ls.take d

def shownBids (b : Book) : List Level := b.shown b.bids.levels

def shownAsks (b : Book) : List Level := b.shown b.asks.levels

def ladder (b : Book) : (side : BookSide) → Ladder side
  | .bid => b.bids
  | .ask => b.asks

def size? (b : Book) (side : BookSide) (price : Decimal) : Option Decimal :=
  (b.ladder side).size? price

def best? (b : Book) (side : BookSide) : Option Level := (b.ladder side).best?

def top (b : Book) (side : BookSide) (n : Nat) : List Level := (b.ladder side).levels.take n

def heldCount (b : Book) (side : BookSide) : Nat := (b.ladder side).levels.length

def shownCount (b : Book) (side : BookSide) : Nat :=
  b.maxDepth.elim (b.heldCount side) (min (b.heldCount side))

def windowChanges (side : BookSide) (before after : List Level) : List Change :=
  ((before.filter fun x => !after.any (·.price.same x.price)).map fun x =>
      ⟨side, x.price, .zero⟩) ++
    (after.filter fun x => !before.any (·.same x)).map (.onSide side)

def report (b : Book) (cs : List Change) : List Change :=
  match b.maxDepth with
  | none => b.altering cs
  | some _ =>
    if (b.altering cs).isEmpty then []
    else
      let after := b.changeAll cs
      windowChanges .bid b.shownBids after.shownBids ++
        windowChanges .ask b.shownAsks after.shownAsks

def stamp (b : Book) (exchangeTime : Option Int64) (receiptTime : Int64) : Book :=
  { b with exchangeTime := exchangeTime.or b.exchangeTime, receiptTime }

def apply (b : Book) (u : Update) (receiptTime : Int64) : Book :=
  let b := b.changeAll u.changes
  { b with sequence := (u.span.map Span.last).or b.sequence }.stamp u.exchangeTime receiptTime

def touch? (b : Book) : Option (Decimal × Decimal) :=
  b.bids.best?.bind fun bid => b.asks.best?.map fun ask => (bid.price, ask.price)

def mid (b : Book) : Option (Option Decimal) := b.touch?.map fun (bid, ask) => bid.midpoint ask

def spread (b : Book) : Option (Option Decimal) := b.touch?.map fun (bid, ask) => ask.sub bid

def isEmpty (b : Book) : Bool := b.bids.levels.isEmpty && b.asks.levels.isEmpty

def event (b : Book) (kind : BookEventKind) (bids asks : List Level) (raw : Option Json) :
    BookEvent where
  exchange := b.exchange
  symbol := b.symbol
  kind
  bids
  asks
  sequence := b.sequence
  exchangeTime := b.exchangeTime
  receiptTime := b.receiptTime
  raw

def snapshotEvent (b : Book) (raw : Option Json) : BookEvent :=
  b.event .snapshot b.shownBids b.shownAsks raw

def deltaEvent (b : Book) (cs : List Change) (raw : Option Json) : BookEvent :=
  b.event .delta ((cs.filter (·.side = .bid)).map (·.level))
    ((cs.filter (·.side = .ask)).map (·.level)) raw

end Book

end MarketFeed
