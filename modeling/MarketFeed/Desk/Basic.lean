import MarketFeed.Failure
import MarketFeed.Shelf
import MarketFeed.Tracker

/-! The books of one exchange, kept in step with the venue: every symbol has a tracker, and a book
while its tracker is live. -/

namespace MarketFeed

/-- The book synchronizer of an exchange: its books, and how far each symbol is in step. -/
structure Desk where
  shelf : Shelf
  trackers : Table Tracker

inductive UpdateOutcome where
  | applied (changes : Nat)
  | stale
  | gap
  | pending
  | ignored
  deriving DecidableEq

inductive SnapshotOutcome where
  | installed
  | discarded
  | failed (cause : FetchError)
  deriving DecidableEq

structure Step (α : Type) where
  desk : Desk
  result : α
  events : List BookEvent
  fetches : List Fetch

namespace Desk

def empty (exchange : Exchange) (maxDepth : Option Nat) : Desk := ⟨.empty exchange maxDepth, []⟩

def exchange (d : Desk) : Exchange := d.shelf.exchange

def tracker? (d : Desk) (symbol : String) : Option Tracker := d.trackers.lookup symbol

def tracker (d : Desk) (symbol : String) : Tracker := (d.tracker? symbol).getD (.fresh symbol)

def phase (d : Desk) (symbol : String) : Phase := (d.tracker symbol).phase

def epoch? (d : Desk) (symbol : String) : Option Nat := (d.tracker? symbol).map (·.epoch)

def book? (d : Desk) (symbol : String) : Option Book := d.shelf.book? symbol

def setTracker (d : Desk) (symbol : String) (t : Tracker) : Desk :=
  { d with trackers := d.trackers.insert symbol t }

def removeBook (d : Desk) (symbol : String) : Desk := { d with shelf := d.shelf.remove symbol }

def setBooks (d : Desk) (shelf : Shelf) : Desk := { d with shelf }

def subscribe (d : Desk) (symbol : String) : Step Unit :=
  let (t, fetch) := (d.tracker symbol).subscribe
  ⟨d.setTracker symbol t, (), [], fetch.toList⟩

def close (d : Desk) (symbol : String) : Desk :=
  (d.setTracker symbol (d.tracker symbol).close).removeBook symbol

def isOpen (d : Desk) (symbol : String) : Bool :=
  (d.tracker? symbol).any (·.phase != .closed)

def unsubscribe (d : Desk) (symbol : String) : Desk :=
  if (d.tracker? symbol).isSome then d.close symbol else d

def reset (d : Desk) (symbols : List String) : Desk × List String :=
  let due := Table.sortNames (symbols.filter d.isOpen)
  (due.foldl close d, due)

def resetAll (d : Desk) : Desk × List String := d.reset d.trackers.names

def applyUpdate (d : Desk) (u : Update) (t : Tracker) (receiptTime : Int64) : Step UpdateOutcome :=
  match d.shelf.apply u receiptTime with
  | none => ⟨d.setTracker u.symbol t.close, .ignored, [], []⟩
  | some (shelf, changes) =>
    let events :=
      if changes.isEmpty then []
      else (shelf.book? u.symbol).toList.map (·.deltaEvent changes u.raw)
    ⟨(d.setTracker u.symbol t).setBooks shelf, .applied changes.length, events, []⟩

def update (d : Desk) (u : Update) (receiptTime : Int64) : Step UpdateOutcome :=
  let (t, action) := (d.tracker u.symbol).update u.span
  let next := d.setTracker u.symbol t
  match action with
  | .apply => d.applyUpdate u t receiptTime
  | .stale _ _ => ⟨next, .stale, [], []⟩
  | .gap _ _ fetch => ⟨next.removeBook u.symbol, .gap, [], [fetch]⟩
  | .fetch fetch => ⟨next, .pending, [], [fetch]⟩
  | .pending => ⟨next, .pending, [], []⟩
  | .ignore => ⟨next, .ignored, [], []⟩

def install (d : Desk) (f : Fetch) (s : Snapshot) (t : Tracker) (receiptTime : Int64) :
    Step SnapshotOutcome :=
  let shelf := d.shelf.load f.symbol s receiptTime
  ⟨(d.setTracker f.symbol t).setBooks shelf, .installed,
    (shelf.book? f.symbol).toList.map (·.snapshotEvent s.raw), []⟩

def answer (d : Desk) (f : Fetch) (result : Except FetchError Snapshot) (receiptTime : Int64) :
    Step SnapshotOutcome :=
  match d.tracker? f.symbol with
  | none => ⟨d, .discarded, [], []⟩
  | some t =>
    match result with
    | .ok s =>
      match t.loaded f.epoch s.sequence with
      | (t, .install) => d.install f s t receiptTime
      | _ => ⟨d, .discarded, [], []⟩
    | .error e =>
      match t.failed f.epoch with
      | (t, .failed) => ⟨d.setTracker f.symbol t, .failed e, [], []⟩
      | _ => ⟨d, .discarded, [], []⟩

def allLive (d : Desk) : Bool := d.trackers.all (·.2.phase == .live)

def notLive (d : Desk) : List String := (d.trackers.filter (·.2.phase != .live)).map (·.1)

end Desk

end MarketFeed
