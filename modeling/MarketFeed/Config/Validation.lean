import MarketFeed.Config.Basic
import MarketFeed.Directory
import MarketFeed.Url.Address
import MarketFeed.Venue.Dialect

/-! Which settings a gateway can be started with. -/

namespace MarketFeed

inductive ConfigError where
  | unreadableFile (detail : String)
  | unreadableText (detail : String)
  | noEnabledExchanges
  | exchangeNotFound (id : String)
  | unsupportedVenue (id : String)
  | invalidMaxDepth (id : String)
  | symbolLimitExceeded (id : String) (count limit : Nat)
  | duplicateSymbol (exchange symbol : String)
  | emptySymbolTable (id : String)
  | invalidUrl (id url : String)
  deriving DecidableEq

namespace ConfigError

def message : ConfigError → String
  | unreadableFile detail => "Failed to read config file: " ++ detail
  | unreadableText detail => "Failed to parse config: " ++ detail
  | noEnabledExchanges => "No enabled exchanges in config"
  | exchangeNotFound id => "Exchange not found: " ++ id
  | unsupportedVenue id => "Unsupported venue: " ++ id
  | invalidMaxDepth id => id ++ ": max_depth must be positive"
  | symbolLimitExceeded id count limit =>
    id ++ ": " ++ toString count ++ " symbols exceed the limit of " ++ toString limit ++
      " per connection"
  | duplicateSymbol exchange symbol => exchange ++ ": duplicate symbol " ++ symbol
  | emptySymbolTable id => id ++ ": empty symbol table"
  | invalidUrl id url => id ++ ": invalid URL " ++ url

def ofListing : ListingError → ConfigError
  | .symbolTaken exchange symbol => duplicateSymbol exchange.name symbol
  | .venueIdTaken exchange venueId => duplicateSymbol exchange.name venueId

def toFeed (e : ConfigError) : FeedError := .config e.message

end ConfigError

namespace ExchangeConfig

def directory (c : ExchangeConfig) : Except ConfigError Directory :=
  if c.symbols.isEmpty then .error (.emptySymbolTable c.id)
  else
    (Directory.ofList (.named c.id) (c.symbols.map fun s => (s.instrument, s.venueId))).mapError
      .ofListing

def venue (c : ExchangeConfig) : Except ConfigError Venue :=
  match Venue.ofName? c.id with
  | some v => .ok v
  | none => .error (.unsupportedVenue c.id)

def checkUrl (c : ExchangeConfig) (url : String) (allowed : Url.Scheme → Bool) :
    Except ConfigError Unit :=
  if (Url.Address.ofText? url).any (allowed ·.scheme) then .ok () else .error (.invalidUrl c.id url)

def checkLimit (c : ExchangeConfig) (venue : Venue) (count : Nat) : Except ConfigError Unit :=
  match c.books.connectionLimit venue.symbolsPerConnection with
  | none => .ok ()
  | some limit =>
    if limit = 0 || limit < count && !c.books.shardConnections then
      .error (.symbolLimitExceeded c.id count limit)
    else .ok ()

def checkDepth (c : ExchangeConfig) : Except ConfigError Unit :=
  if c.books.maxDepth = some 0 then .error (.invalidMaxDepth c.id) else .ok ()

def validate (c : ExchangeConfig) : Except ConfigError Unit := do
  c.checkUrl c.restUrl Url.Scheme.isRequest
  c.checkUrl c.wsUrl Url.Scheme.isStream
  let dir ← c.directory
  let venue ← c.venue
  c.checkDepth
  c.checkLimit venue dir.listings.length

end ExchangeConfig

namespace GatewayConfig

def ofText (s : String) : Except ConfigError GatewayConfig :=
  match (Json.parse? s).bind ofJson with
  | some c => .ok c
  | none => .error (.unreadableText "not a gateway configuration")

def exchange (c : GatewayConfig) (id : String) : Except ConfigError ExchangeConfig :=
  match c.exchanges.find? (·.id == id) with
  | some e => .ok e
  | none => .error (.exchangeNotFound id)

def validate (c : GatewayConfig) : Except ConfigError Unit :=
  if c.enabled.isEmpty then .error .noEnabledExchanges
  else c.enabled.forM ExchangeConfig.validate

end GatewayConfig

end MarketFeed
