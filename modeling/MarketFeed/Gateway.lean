import MarketFeed.Config.Validation
import MarketFeed.Connection

/-! The gateway: every configured exchange with its books, its connections and the common bus. -/

namespace MarketFeed

def shardSymbols (symbols : List String) (limit : Option Nat) : List (List String) :=
  match limit with
  | none => [symbols]
  | some n => if 0 < n && n < symbols.length then chunks n symbols else [symbols]

/-- An exchange as the feed manager runs it: settings, adapter and registry, book synchronizer, and
the symbols of each connection. -/
structure Station where
  config : ExchangeConfig
  service : Service
  desk : Desk
  shards : List (List String)

namespace Station

def venue (s : Station) : Venue := s.service.venue

def directory (s : Station) : Directory := s.service.directory

def of (c : ExchangeConfig) : Except ConfigError Station := do
  let directory ← c.directory
  let venue ← c.venue
  let client := { RestClient.of c.restUrl with
    headers := c.headers
    retries := c.books.snapshotRetries
    retryDelay := c.books.snapshotRetryDelay }
  .ok {
    config := c
    service := ⟨client, venue, directory, c.books.snapshotDepth⟩
    desk := .empty venue.exchange c.books.maxDepth
    shards := shardSymbols directory.symbols
      (c.books.connectionLimit venue.symbolsPerConnection) }

def connection (s : Station) (global : GlobalConfig) (index : Nat) (symbols : List String) :
    Connection where
  index
  account := s.config.account
  channels := s.config.channels
  symbols
  venue := s.venue
  directory := s.directory
  maxAttempts := global.maxReconnectAttempts
  heartbeatInterval := global.heartbeatInterval

def connections (s : Station) (global : GlobalConfig) : List Connection :=
  s.shards.mapIdx (s.connection global)

def summary (s : Station) : String :=
  s.venue.exchange.name ++ ": " ++ toString s.directory.listings.length ++ " symbols over " ++
    toString s.shards.length ++ " connection(s)"

end Station

inductive StartError where
  | config (cause : ConfigError)
  | noRoom
  deriving DecidableEq

def StartError.message : StartError → String
  | config cause => cause.message
  | noRoom => "No room for events"

structure Gateway where
  global : GlobalConfig
  bus : Bus
  stations : Table Station

namespace Gateway

def addAll (stations : Table Station) : List ExchangeConfig → Except ConfigError (Table Station)
  | [] => .ok stations
  | c :: r => (Station.of c).bind fun s => addAll (stations.insert s.venue.exchange.name s) r

def start (c : GatewayConfig) : Except StartError Gateway := do
  c.validate.mapError .config
  match Bus.new? c.global.eventBufferSize with
  | none => .error .noRoom
  | some bus =>
    let stations ← (addAll [] c.enabled).mapError .config
    .ok ⟨c.global, bus, stations⟩

def station? (g : Gateway) (e : Exchange) : Option Station := g.stations.lookup e.name

def exchanges (g : Gateway) : List String := g.stations.names

def connectionCount (g : Gateway) (e : Exchange) : Nat :=
  ((g.station? e).map (·.shards.length)).getD 0

def book? (g : Gateway) (e : Exchange) (symbol : String) : Option Book :=
  (g.station? e).bind (·.desk.book? symbol)

def bookSymbols (g : Gateway) (e : Exchange) : List String :=
  ((g.station? e).map (·.desk.shelf.symbols)).getD []

def plan (g : Gateway) : List String :=
  g.stations.flatMap fun (_, s) =>
    s.summary :: (s.connections g.global).flatMap fun c =>
      c.frames.mapIdx fun i frame => (Outbox.stamp (i + 1) frame).compact

end Gateway

end MarketFeed
