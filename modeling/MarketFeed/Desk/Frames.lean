import MarketFeed.Desk.Basic
import MarketFeed.Json.Canonical
import MarketFeed.Venue.Dialect

/-! From the text of a frame to the books and events it changes. -/

namespace MarketFeed

inductive Handled where
  | book (outcome : UpdateOutcome)
  | trade
  | order
  | balance
  | control
  deriving DecidableEq

inductive FrameResult where
  | handled (what : Handled)
  | refused (cause : FeedError)
  | overflow
  deriving DecidableEq

structure Reaction where
  desk : Desk
  result : FrameResult
  events : List FeedEvent
  fetches : List Fetch

namespace Reaction

def quiet (d : Desk) (result : FrameResult) : Reaction := ⟨d, result, [], []⟩

def refused (d : Desk) (e : FeedError) : Reaction := quiet d (.refused e)

def published (d : Desk) (what : Handled) (e : FeedEvent) : Reaction := ⟨d, .handled what, [e], []⟩

def ofStep (s : Step UpdateOutcome) : Reaction :=
  ⟨s.desk, .handled (.book s.result), s.events.map .book, s.fetches⟩

end Reaction

namespace Desk

open Reaction

def handleData (d : Desk) (venue : Venue) (dir : Directory) (channel : Channel) (msg : Json)
    (time : Int64) : Reaction :=
  match channel with
  | .book =>
    match venue.readUpdate dir msg with
    | .error e => refused d (.ofRead e)
    | .ok u => ofStep (d.update { u with raw := some msg } time)
  | .trades =>
    match venue.readTrade dir msg time with
    | .error e => refused d (.ofRead e)
    | .ok t => published d .trade (.trade { t with raw := some msg })
  | .orders =>
    match venue.readOrder dir msg time with
    | .error e => refused d (.ofRead e)
    | .ok o => published d .order (.order { o with raw := some msg })
  | .balances =>
    match venue.readBalance dir msg time with
    | .error (.error e) => refused d (.ofRead e)
    | .error .overflow => quiet d .overflow
    | .ok b => published d .balance (.balance { b with raw := some msg })

def handleJson (d : Desk) (venue : Venue) (dir : Directory) (msg : Json) (time : Int64) :
    Reaction :=
  match venue.inspect msg with
  | .control => quiet d (.handled .control)
  | .refusal text => refused d (.venue text)
  | .data topic =>
    match venue.channel? topic with
    | none => refused d (.unknownChannel topic)
    | some channel => d.handleData venue dir channel msg time

def handle (d : Desk) (venue : Venue) (dir : Directory) (text : String) (time : Int64) :
    Reaction :=
  match Json.ofText? text with
  | none => refused d (.unreadable (.json "not a JSON text"))
  | some msg => d.handleJson venue dir msg time

end Desk

end MarketFeed
