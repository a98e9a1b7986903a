import MarketFeed.Book
import MarketFeed.Table

/-! The books of one exchange, by symbol. -/

namespace MarketFeed

/-- The order book store of an exchange. -/
structure Shelf where
  exchange : Exchange
  maxDepth : Option Nat
  books : Table Book

namespace Shelf

def empty (exchange : Exchange) (maxDepth : Option Nat) : Shelf := ⟨exchange, maxDepth, []⟩

def book? (s : Shelf) (symbol : String) : Option Book := s.books.lookup symbol

def symbols (s : Shelf) : List String := s.books.names

def put (s : Shelf) (symbol : String) (b : Book) : Shelf :=
  { s with books := s.books.insert symbol b }

def remove (s : Shelf) (symbol : String) : Shelf := { s with books := s.books.erase symbol }

def bookOrNew (s : Shelf) (symbol : String) : Book :=
  (s.book? symbol).getD (.empty s.exchange symbol s.maxDepth)

def load (s : Shelf) (symbol : String) (snapshot : Snapshot) (receiptTime : Int64) : Shelf :=
  s.put symbol ((s.bookOrNew symbol).load snapshot receiptTime)

def apply (s : Shelf) (u : Update) (receiptTime : Int64) : Option (Shelf × List Change) :=
  (s.book? u.symbol).map fun b => (s.put u.symbol (b.apply u receiptTime), b.report u.changes)

end Shelf

end MarketFeed
