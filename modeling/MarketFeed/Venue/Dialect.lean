import MarketFeed.Venue.Kucoin
import MarketFeed.Venue.Vertex

/-! Reading and writing in the format of a given venue. -/

namespace MarketFeed.Venue

def ofName? (name : String) : Option Venue :=
  [("kucoin", kucoin), ("vertex", vertex)].lookup (Text.lower name)

def exchange : Venue → Exchange
  | kucoin => .kucoin
  | vertex => .vertex

def inspect : Venue → Json → Frame
  | kucoin => Kucoin.inspect
  | vertex => Vertex.inspect

def channel? : Venue → String → Option Channel
  | kucoin => Kucoin.channel?
  | vertex => Vertex.channel?

def topicOf : Venue → Channel → String
  | kucoin => Kucoin.topicOf
  | vertex => Vertex.topicOf

def readUpdate : Venue → Directory → Json → Except ReadError Update
  | kucoin => Kucoin.readUpdate
  | vertex => Vertex.readUpdate

def readSnapshot : Venue → Json → Except ReadError Snapshot
  | kucoin => Kucoin.readSnapshot
  | vertex => Vertex.readSnapshot

def readTrade : Venue → Directory → Json → Int64 → Except ReadError TradeEvent
  | kucoin => Kucoin.readTrade
  | vertex => Vertex.readTrade

def readOrder : Venue → Directory → Json → Int64 → Except ReadError OrderEvent
  | kucoin => Kucoin.readOrder
  | vertex => Vertex.readOrder

def readBalance : Venue → Directory → Json → Int64 → Except (Fault ReadError) BalanceEvent
  | kucoin, _, msg, time => Kucoin.readBalance msg time
  | vertex, dir, msg, time => Fault.lift (Vertex.readBalance dir msg time)

def readBalances : Venue → Directory → Json → Int64 → Except (Fault ReadError) (List BalanceEvent)
  | kucoin, _, response, time => Kucoin.readBalances response time
  | vertex, dir, response, time => Fault.lift (Vertex.readBalances dir response time)

def snapshotPath : Venue → String → Nat → String
  | kucoin, venueId, _ => Kucoin.snapshotPath venueId
  | vertex, venueId, depth => Vertex.snapshotPath venueId depth

def balancePath : Venue → Option String → Option String
  | kucoin, _ => some Kucoin.balancePath
  | vertex, account => account.map Vertex.balancePath

def subscribeFrames : Venue → Channel → List String → Option String → List Json
  | kucoin, channel, venueIds, _ => Kucoin.subscribeFrames channel venueIds
  | vertex, channel, venueIds, account => Vertex.subscribeFrames channel venueIds account

def heartbeat : Venue → Option Json
  | kucoin => some Kucoin.heartbeat
  | vertex => none

def symbolsPerConnection : Venue → Option Nat
  | kucoin => some Kucoin.symbolsPerConnection
  | vertex => none

end MarketFeed.Venue
