import MarketFeed.Channel
import MarketFeed.Instrument
import MarketFeed.Json.Reader
import MarketFeed.Table

/-! The settings of the gateway and their JSON form. -/

namespace MarketFeed

structure SymbolConfig where
  base : String
  quote : String
  kind : InstrumentKind
  venueId : String

def SymbolConfig.instrument (s : SymbolConfig) : Instrument := .of s.base s.quote s.kind

structure BookConfig where
  maxDepth : Option Nat := some 2
  snapshotDepth : Nat := 100
  maxSymbolsPerConnection : Option Nat := none
  shardConnections : Bool := false
  snapshotRetries : Nat := 1
  snapshotRetryDelay : Nat := 1000

def BookConfig.connectionLimit (c : BookConfig) (venueLimit : Option Nat) : Option Nat :=
  match c.maxSymbolsPerConnection, venueLimit with
  | some a, some b => some (min a b)
  | a, b => a.or b

structure ExchangeConfig where
  id : String
  name : String
  enabled : Bool
  restUrl : String
  wsUrl : String
  headers : Table String
  account : Option String
  symbols : List SymbolConfig
  channels : List Channel
  books : BookConfig

def ExchangeConfig.subscribes (c : ExchangeConfig) (channel : Channel) : Bool :=
  c.channels.contains channel

structure GlobalConfig where
  reconnectDelay : Nat := 5000
  maxReconnectAttempts : Nat := 10
  heartbeatInterval : Nat := 20000
  eventBufferSize : Nat := 4096

structure GatewayConfig where
  exchanges : List ExchangeConfig
  global : GlobalConfig

namespace Json

def nat64 : Json → Option Nat := naturalBelow UInt64.size

def textMember : String × Json → Option (String × String)
  | (n, v) => v.text?.map fun s => (n, s)

def textTable : Json → Option (Table String)
  | .obj members => (members.mapM textMember).map Table.ofList
  | _ => none

end Json

namespace SymbolConfig

def toJson (c : SymbolConfig) : Json :=
  .obj [("base", .str c.base), ("quote", .str c.quote), ("instrument_type", .str c.kind.text),
    ("venue_id", .str c.venueId)]

def ofJson (v : Json) : Option SymbolConfig := do
  let field ← v.slots ["base", "quote", "instrument_type", "venue_id"]
  let base ← (field "base").required Json.text?
  let quote ← (field "quote").required Json.text?
  let kind ← (field "instrument_type").orElse InstrumentKind.ofJson .spot
  let venueId ← (field "venue_id").required Json.text?
  some { base, quote, kind, venueId }

end SymbolConfig

namespace BookConfig

def toJson (c : BookConfig) : Json :=
  .obj [("max_depth", (c.maxDepth.map .ofNat).getD .null),
    ("snapshot_depth", .ofNat c.snapshotDepth),
    ("max_symbols_per_connection", (c.maxSymbolsPerConnection.map .ofNat).getD .null),
    ("shard_connections", .bool c.shardConnections),
    ("snapshot_retries", .ofNat c.snapshotRetries),
    ("snapshot_retry_delay_ms", .ofNat c.snapshotRetryDelay)]

def ofJson (v : Json) : Option BookConfig := do
  let usual : BookConfig := {}
  let field ← v.slots ["max_depth", "snapshot_depth", "max_symbols_per_connection",
    "shard_connections", "snapshot_retries", "snapshot_retry_delay_ms"]
  let maxDepth ← (field "max_depth").orElse (Json.Slot.nullable Json.nat64) usual.maxDepth
  let snapshotDepth ← (field "snapshot_depth").orElse Json.nat64 usual.snapshotDepth
  let maxSymbolsPerConnection ← (field "max_symbols_per_connection").orElse
    (Json.Slot.nullable Json.nat64) usual.maxSymbolsPerConnection
  let shardConnections ← (field "shard_connections").orElse Json.bool? usual.shardConnections
  let snapshotRetries ← (field "snapshot_retries").orElse Json.uint32 usual.snapshotRetries
  let snapshotRetryDelay ←
    (field "snapshot_retry_delay_ms").orElse Json.nat64 usual.snapshotRetryDelay
  some { maxDepth, snapshotDepth, maxSymbolsPerConnection, shardConnections, snapshotRetries,
         snapshotRetryDelay }

end BookConfig

namespace ExchangeConfig

def toJson (c : ExchangeConfig) : Json :=
  .obj [("id", .str c.id), ("name", .str c.name), ("enabled", .bool c.enabled),
    ("rest_url", .str c.restUrl), ("ws_url", .str c.wsUrl),
    ("headers", .obj (c.headers.map fun (n, s) => (n, .str s))),
    ("account", (c.account.map .str).getD .null),
    ("symbols", .arr (c.symbols.map SymbolConfig.toJson)),
    ("channels", .arr (c.channels.map (.str ·.text))), ("market_data", c.books.toJson)]

def ofJson (v : Json) : Option ExchangeConfig := do
  let field ← v.slots ["id", "name", "enabled", "rest_url", "ws_url", "headers", "account",
    "symbols", "channels", "market_data"]
  let id ← (field "id").required Json.text?
  let name ← (field "name").required Json.text?
  let enabled ← (field "enabled").orElse Json.bool? true
  let restUrl ← (field "rest_url").required Json.text?
  let wsUrl ← (field "ws_url").required Json.text?
  let headers ← (field "headers").orElse Json.textTable []
  let account ← (field "account").orElse (Json.Slot.nullable Json.text?) none
  let symbols ← (field "symbols").orElse (Json.listOf SymbolConfig.ofJson) []
  let channels ← (field "channels").orElse (Json.listOf Channel.ofJson) [.book]
  let books ← (field "market_data").orElse BookConfig.ofJson {}
  some { id, name, enabled, restUrl, wsUrl, headers, account, symbols, channels, books }

end ExchangeConfig

namespace GlobalConfig

def toJson (c : GlobalConfig) : Json :=
  .obj [("reconnect_delay_ms", .ofNat c.reconnectDelay),
    ("max_reconnect_attempts", .ofNat c.maxReconnectAttempts),
    ("heartbeat_interval_ms", .ofNat c.heartbeatInterval),
    ("event_buffer_size", .ofNat c.eventBufferSize)]

def ofJson (v : Json) : Option GlobalConfig := do
  let usual : GlobalConfig := {}
  let field ← v.slots ["reconnect_delay_ms", "max_reconnect_attempts", "heartbeat_interval_ms",
    "event_buffer_size"]
  let reconnectDelay ← (field "reconnect_delay_ms").orElse Json.nat64 usual.reconnectDelay
  let maxReconnectAttempts ←
    (field "max_reconnect_attempts").orElse Json.uint32 usual.maxReconnectAttempts
  let heartbeatInterval ← (field "heartbeat_interval_ms").orElse Json.nat64 usual.heartbeatInterval
  let eventBufferSize ← (field "event_buffer_size").orElse Json.nat64 usual.eventBufferSize
  some { reconnectDelay, maxReconnectAttempts, heartbeatInterval, eventBufferSize }

end GlobalConfig

namespace GatewayConfig

def toJson (c : GatewayConfig) : Json :=
  .obj [("exchanges", .arr (c.exchanges.map ExchangeConfig.toJson)), ("global", c.global.toJson)]

def ofJson (v : Json) : Option GatewayConfig := do
  let field ← v.slots ["exchanges", "global"]
  let exchanges ← (field "exchanges").required (Json.listOf ExchangeConfig.ofJson)
  let global ← (field "global").orElse GlobalConfig.ofJson {}
  some { exchanges, global }

def enabled (c : GatewayConfig) : List ExchangeConfig := c.exchanges.filter (·.enabled)

end GatewayConfig

end MarketFeed
