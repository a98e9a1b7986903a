import MarketFeed.Exchange
import MarketFeed.Failure
import MarketFeed.Instrument

/-! The symbols of an exchange and the identifiers its messages use for them. -/

namespace MarketFeed

structure Listing where
  instrument : Instrument
  venueId : String

/-- The symbol registry of an exchange: its two maps as one table by symbol. -/
structure Directory where
  exchange : Exchange
  listings : Table Listing

inductive ListingError where
  | symbolTaken (exchange : Exchange) (symbol : String)
  | venueIdTaken (exchange : Exchange) (venueId : String)
  deriving DecidableEq

def ListingError.message : ListingError → String
  | symbolTaken exchange symbol => "Duplicate symbol " ++ symbol ++ " on " ++ exchange.name
  | venueIdTaken exchange venueId =>
    "Duplicate venue identifier " ++ venueId ++ " on " ++ exchange.name

namespace Directory

def empty (exchange : Exchange) : Directory := ⟨exchange, []⟩

def symbol? (d : Directory) (venueId : String) : Option String :=
  (List.find? (fun (_, l) => l.venueId == venueId) d.listings).map (·.1)

def venueId? (d : Directory) (symbol : String) : Option String :=
  (d.listings.lookup symbol).map (·.venueId)

def instrument? (d : Directory) (symbol : String) : Option Instrument :=
  (d.listings.lookup symbol).map (·.instrument)

def resolve (d : Directory) (venueId : String) : Except ReadError String :=
  match d.symbol? venueId with
  | some s => .ok s
  | none => .error (.unknownSymbol venueId)

def symbols (d : Directory) : List String := d.listings.names

def venueIds (d : Directory) : List String := d.listings.map (·.2.venueId)

def insert (d : Directory) (i : Instrument) (venueId : String) : Except ListingError Directory :=
  if d.listings.contains i.symbol then .error (.symbolTaken d.exchange i.symbol)
  else if (d.symbol? venueId).isSome then .error (.venueIdTaken d.exchange venueId)
  else .ok { d with listings := d.listings.insert i.symbol ⟨i, venueId⟩ }

def insertAll (d : Directory) : List (Instrument × String) → Except ListingError Directory
  | [] => .ok d
  | (i, v) :: r => (d.insert i v).bind (insertAll · r)

def ofList (exchange : Exchange) (entries : List (Instrument × String)) :
    Except ListingError Directory :=
  (empty exchange).insertAll entries

end Directory

end MarketFeed
