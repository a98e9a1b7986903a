import MarketFeed.Json.Canonical
import MarketFeed.Table
import MarketFeed.Venue.Dialect

/-! Questions to a venue over HTTP, asked again while it makes sense. -/

namespace MarketFeed

inductive RestError where
  | transport (detail : String)
  | api (code text : String)
  | status (code : Nat) (body : String)
  | unreadable (detail : String)
  deriving DecidableEq

namespace RestError

def message : RestError → String
  | transport detail => "HTTP error: " ++ detail
  | api code text => "API error: " ++ code ++ " - " ++ text
  | status code body => "HTTP status " ++ toString code ++ ": " ++ body
  | unreadable detail => "Parse error: " ++ detail

def isRetryable : RestError → Bool
  | transport _ => true
  | status code _ => 500 ≤ code || code = 429
  | api _ _ => false
  | unreadable _ => false

def toFetch : RestError → FetchError
  | transport detail => .network detail
  | api code text => .api code text
  | status code body => .api (toString code) body
  | unreadable detail => .unreadable detail

end RestError

inductive Reply where
  | answer (status : Nat) (body : String)
  | lost
  deriving DecidableEq

namespace Reply

def isSuccess (status : Nat) : Bool := 200 ≤ status && status < 300

def isTransient (status : Nat) : Bool := 500 ≤ status && status < 600 || status = 429

def venueError? (body : String) : Option (String × String) := do
  let v ← Json.ofText? body
  let code ← (v.get? "code").or (v.get? "error_code")
  let text := ((v.get? "msg").or (v.get? "error")).bind Json.text?
  some (code.plainText, text.getD "")

def statusError (status : Nat) (body : String) : RestError :=
  match venueError? body with
  | some (code, text) => if isTransient status then .status status body else .api code text
  | none => .status status body

def read : Reply → Except RestError Json
  | lost => .error (.transport "no answer")
  | answer status body =>
    if isSuccess status then
      match Json.ofText? body with
      | some v => .ok v
      | none => .error (.unreadable "not a JSON text")
    else .error (statusError status body)

end Reply

abbrev Network := String → Nat → Reply

def Network.silent : Network := fun _ _ => .lost

structure RestClient where
  base : String
  headers : Table String
  retries : Nat
  retryDelay : Nat

namespace RestClient

def trimSlashes (s : String) : String :=
  String.ofList ((s.toList.reverse.dropWhile (· = '/')).reverse)

def of (base : String) : RestClient := ⟨trimSlashes base, [], 0, 1000⟩

def attempt {α : Type} (outcome : Nat → Except RestError α) (done : Nat) :
    Nat → Except RestError α × Nat
  | 0 => (outcome done, done + 1)
  | left + 1 =>
    match outcome done with
    | .ok a => (.ok a, done + 1)
    | .error e => if e.isRetryable then attempt outcome (done + 1) left else (.error e, done + 1)

def get (c : RestClient) (net : Network) (path : String) : Except RestError Json × Nat :=
  attempt (fun n => (net path n).read) 0 c.retries

end RestClient

structure Fetched (ε α : Type) where
  result : Except ε α
  requests : List String

structure Service where
  client : RestClient
  venue : Venue
  directory : Directory
  depth : Nat

namespace Service

def readSnapshot (s : Service) (response : Json) : Except FetchError Snapshot :=
  match s.venue.readSnapshot response with
  | .ok shot => .ok { shot with raw := some response }
  | .error e => .error (.ofRead e)

def snapshot (s : Service) (net : Network) (symbol : String) : Fetched FetchError Snapshot :=
  match s.directory.venueId? symbol with
  | none => ⟨.error (.unknownSymbol symbol), []⟩
  | some venueId =>
    let path := s.venue.snapshotPath venueId s.depth
    let (answer, count) := s.client.get net path
    ⟨(answer.mapError RestError.toFetch).bind s.readSnapshot, List.replicate count path⟩

def balances (s : Service) (net : Network) (account : Option String) (time : Int64) :
    Fetched (Fault FetchError) (List BalanceEvent) :=
  match s.venue.balancePath account with
  | none => ⟨.ok [], []⟩
  | some path =>
    let (answer, count) := s.client.get net path
    ⟨(answer.mapError fun e => .error e.toFetch).bind fun v =>
        (s.venue.readBalances s.directory v time).mapError (.map FetchError.ofRead),
      List.replicate count path⟩

end Service

end MarketFeed
