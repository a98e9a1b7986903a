import MarketFeed.Event.Basic
import MarketFeed.Table

/-! Events for any number of readers, none of whom can hold up the others. -/

namespace MarketFeed

structure Inbox where
  market : Option Market
  waiting : List FeedEvent
  lost : Nat

inductive Delivery where
  | event (e : FeedEvent)
  | empty
  | lagged (lost : Nat)
  | closed

def Delivery.message? : Delivery → Option String
  | lagged n => some ("Subscriber lagged, " ++ toString n ++ " events dropped")
  | closed => some "Publisher closed"
  | _ => none

namespace Inbox

def fresh (market : Option Market) : Inbox := ⟨market, [], 0⟩

def wants (b : Inbox) (e : FeedEvent) : Bool :=
  match b.market with
  | none => true
  | some m => e.symbol.any fun s => Market.of e.exchange s = m

def put (b : Inbox) (capacity : Nat) (e : FeedEvent) : Inbox :=
  let waiting := b.waiting ++ [e]
  if capacity < waiting.length then { b with waiting := waiting.tail, lost := b.lost + 1 }
  else { b with waiting }

def offer (b : Inbox) (capacity : Nat) (e : FeedEvent) : Inbox :=
  if b.wants e then b.put capacity e else b

def take (b : Inbox) (isOpen : Bool) : Inbox × Delivery :=
  if 0 < b.lost then ({ b with lost := 0 }, .lagged b.lost)
  else
    match b.waiting with
    | e :: r => ({ b with waiting := r }, .event e)
    | [] => (b, if isOpen then .empty else .closed)

end Inbox

structure Bus where
  capacity : Nat
  published : Nat
  isOpen : Bool
  inboxes : Table Inbox

namespace Bus

def defaultCapacity : Nat := 4096

/-- A bus whose readers may fall behind by the capacity, rounded up to a power of two. Room for
nothing is refused. Capacities above half of the machine word, which a channel refuses as well, are
left out. -/
def new? (capacity : Nat) : Option Bus :=
  if capacity = 0 then none else some ⟨capacity.nextPowerOfTwo, 0, true, []⟩

def join (b : Bus) (reader : String) (market : Option Market) : Bus :=
  { b with inboxes := b.inboxes.insert reader (.fresh market) }

def leave (b : Bus) (reader : String) : Bus := { b with inboxes := b.inboxes.erase reader }

def publish (b : Bus) (e : FeedEvent) : Bus :=
  { b with
    published := b.published + 1
    inboxes := b.inboxes.map fun (n, i) => (n, i.offer b.capacity e) }

def publishAll (b : Bus) (es : List FeedEvent) : Bus := es.foldl publish b

def take (b : Bus) (reader : String) : Option (Bus × Delivery) :=
  (b.inboxes.lookup reader).map fun i =>
    let (i, d) := i.take b.isOpen
    ({ b with inboxes := b.inboxes.insert reader i }, d)

def close (b : Bus) : Bus := { b with isOpen := false }

def readers (b : Bus) : Nat := b.inboxes.countP (·.2.market.isNone)

end Bus

end MarketFeed
