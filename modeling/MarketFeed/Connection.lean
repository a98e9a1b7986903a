import MarketFeed.Bus
import MarketFeed.Config.Basic
import MarketFeed.Desk.Frames
import MarketFeed.Rest

/-! Stream connections: what is subscribed, what happens while a session lasts, and when a
connection is given up. -/

namespace MarketFeed

structure Outbox where
  sent : List Json
  nextId : Nat
  room : Option Nat

namespace Outbox

def fresh (room : Option Nat) : Outbox := ⟨[], 1, room⟩

def stamp (id : Nat) : Json → Json
  | .obj members => .obj (Table.insert members "id" (.ofNat id))
  | v => v

def isFull (o : Outbox) : Bool := o.room.any (· ≤ o.sent.length)

def send (o : Outbox) (frame : Json) : Outbox × Bool :=
  if o.isFull then ({ o with nextId := o.nextId + 1 }, false)
  else ({ o with sent := o.sent ++ [stamp o.nextId frame], nextId := o.nextId + 1 }, true)

end Outbox

structure Connection where
  index : Nat
  account : Option String
  channels : List Channel
  symbols : List String
  venue : Venue
  directory : Directory
  maxAttempts : Nat
  heartbeatInterval : Nat

inductive Act where
  | publishBalances
  | send (frame : Json)
  | track (symbol : String)

inductive Signal where
  | text (frame : String) (time : Int64)
  | trouble (detail : String)
  | tick
  | answered (fetch : Fetch) (result : Except FetchError Snapshot) (time : Int64)
  | disconnected

/-- What the connections of an exchange share: its book synchronizer, the event publisher, and the
snapshot requests under way. -/
structure Hub where
  desk : Desk
  bus : Bus
  fetches : List Fetch

namespace Hub

def publish (h : Hub) (es : List FeedEvent) : Hub := { h with bus := h.bus.publishAll es }

def subscribe (h : Hub) (symbol : String) : Hub :=
  let s := h.desk.subscribe symbol
  { h with desk := s.desk, fetches := h.fetches ++ s.fetches }

def react (h : Hub) (r : Reaction) : Hub :=
  { h.publish r.events with desk := r.desk, fetches := h.fetches ++ r.fetches }

def answer (h : Hub) (f : Fetch) (result : Except FetchError Snapshot) (time : Int64) : Hub :=
  let s := h.desk.answer f result time
  { h.publish (s.events.map .book) with desk := s.desk, fetches := h.fetches.erase f }

def reset (h : Hub) (symbols : List String) : Hub := { h with desk := (h.desk.reset symbols).1 }

end Hub

inductive Ending where
  | over
  | crashed
  deriving DecidableEq

structure Session where
  hub : Hub
  outbox : Outbox

structure Script where
  balances : Except (Fault FetchError) (List BalanceEvent)
  room : Option Nat
  signals : List Signal

inductive Attempt where
  | refused
  | connected (script : Script)

namespace Connection

def venueIds (c : Connection) : List String := c.symbols.filterMap c.directory.venueId?

def carries (c : Connection) (channel : Channel) : Bool := !channel.isPrivate || c.index = 0

def channelActs (c : Connection) (channel : Channel) : List Act :=
  if c.carries channel then
    (if channel = .balances then [.publishBalances] else []) ++
      (c.venue.subscribeFrames channel c.venueIds c.account).map .send
  else []

def trackActs (c : Connection) : List Act :=
  if c.channels.contains .book then c.symbols.map .track else []

def acts (c : Connection) : List Act := c.channels.flatMap c.channelActs ++ c.trackActs

def frames (c : Connection) : List Json :=
  (c.channels.filter c.carries).flatMap fun channel =>
    c.venue.subscribeFrames channel c.venueIds c.account

def heartbeat? (c : Connection) : Option Json :=
  if c.heartbeatInterval = 0 then none else c.venue.heartbeat

def begin (balances : Except (Fault FetchError) (List BalanceEvent)) (s : Session) :
    List Act → Session × Option Ending
  | [] => (s, none)
  | .publishBalances :: r =>
    match balances with
    | .ok es => begin balances { s with hub := s.hub.publish (es.map .balance) } r
    | .error (.error _) => begin balances s r
    | .error .overflow => (s, some .crashed)
  | .send frame :: r =>
    match s.outbox.send frame with
    | (outbox, true) => begin balances { s with outbox } r
    | (outbox, false) => ({ s with outbox }, some .over)
  | .track symbol :: r => begin balances { s with hub := s.hub.subscribe symbol } r

def listen (c : Connection) (s : Session) : List Signal → Session × Ending
  | [] => (s, .over)
  | .text frame time :: r =>
    let reaction := s.hub.desk.handle c.venue c.directory frame time
    match reaction.result with
    | .overflow => (s, .crashed)
    | _ => listen c { s with hub := s.hub.react reaction } r
  | .trouble _ :: r => listen c s r
  | .tick :: r =>
    match c.heartbeat? with
    | none => listen c s r
    | some ping =>
      match s.outbox.send ping with
      | (outbox, true) => listen c { s with outbox } r
      | (outbox, false) => ({ s with outbox }, .over)
  | .answered f result time :: r => listen c { s with hub := s.hub.answer f result time } r
  | .disconnected :: _ => (s, .over)

def session (c : Connection) (hub : Hub) (script : Script) : Session × Ending :=
  match begin script.balances ⟨hub, .fresh script.room⟩ c.acts with
  | (s, some ending) => (s, ending)
  | (s, none) => c.listen s script.signals

structure Progress where
  hub : Hub
  attempts : Nat
  ended : Bool

def runFrom (c : Connection) (hub : Hub) (attempts refusals : Nat) : List Attempt → Progress
  | [] => ⟨hub, attempts, false⟩
  | .refused :: r =>
    if c.maxAttempts ≤ refusals + 1 then ⟨hub, attempts + 1, true⟩
    else runFrom c hub (attempts + 1) (refusals + 1) r
  | .connected script :: r =>
    match c.session hub script with
    | (s, .crashed) => ⟨s.hub, attempts + 1, true⟩
    | (s, .over) => runFrom c (s.hub.reset c.symbols) (attempts + 1) 0 r

def run (c : Connection) (hub : Hub) (outcomes : List Attempt) : Progress :=
  c.runFrom hub 0 0 outcomes

end Connection

end MarketFeed
