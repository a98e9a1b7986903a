/-! Why data cannot be read, fetched or used. -/

namespace MarketFeed

inductive ReadError where
  | json (detail : String)
  | missing (field : String)
  | invalid (field value : String)
  | decimal (field value : String)
  | unknownSymbol (name : String)
  | unhandled (text : String)
  deriving DecidableEq

def ReadError.message : ReadError → String
  | json detail => "Invalid JSON: " ++ detail
  | missing field => "Missing field: " ++ field
  | invalid field value => "Invalid value for " ++ field ++ ": " ++ value
  | decimal field value => "Invalid decimal for " ++ field ++ ": " ++ value
  | unknownSymbol name => "Unknown symbol: " ++ name
  | unhandled text => "Unhandled message: " ++ text

inductive Fault (ε : Type) where
  | error (cause : ε)
  | overflow
  deriving DecidableEq

namespace Fault

def lift {ε α : Type} : Except ε α → Except (Fault ε) α := Except.mapError error

def map {ε ε' : Type} (f : ε → ε') : Fault ε → Fault ε'
  | error cause => error (f cause)
  | overflow => overflow

end Fault

inductive FetchError where
  | network (detail : String)
  | api (code text : String)
  | unreadable (detail : String)
  | unknownSymbol (name : String)
  deriving DecidableEq

namespace FetchError

def message : FetchError → String
  | network detail => "Network error: " ++ detail
  | api code text => "API error " ++ code ++ ": " ++ text
  | unreadable detail => "Parse error: " ++ detail
  | unknownSymbol name => "Unknown symbol: " ++ name

def ofRead (e : ReadError) : FetchError := unreadable e.message

end FetchError

inductive FeedError where
  | unreadable (cause : ReadError)
  | unknownChannel (topic : String)
  | unknownSymbol (name : String)
  | fetch (symbol : String) (cause : FetchError)
  | venue (text : String)
  | config (text : String)
  deriving DecidableEq

namespace FeedError

def message : FeedError → String
  | unreadable cause => "Parse error: " ++ cause.message
  | unknownChannel topic => "Unknown channel: " ++ topic
  | unknownSymbol name => "Unknown symbol: " ++ name
  | fetch symbol cause => "Snapshot fetch failed for " ++ symbol ++ ": " ++ cause.message
  | venue text => "Venue error: " ++ text
  | config text => "Configuration error: " ++ text

def isFatal : FeedError → Bool
  | config _ => true
  | _ => false

def ofRead : ReadError → FeedError
  | .unknownSymbol name => unknownSymbol name
  | e => unreadable e

end FeedError

end MarketFeed
