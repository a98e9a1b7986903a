import MarketFeed.Level

/-! How far the book of one symbol is known, and when it has to be fetched anew. -/

namespace MarketFeed

inductive Phase where
  | idle
  | awaiting
  | live
  | closed
  deriving DecidableEq

namespace Phase

def text : Phase → String
  | idle => "uninitialized"
  | awaiting => "pending"
  | live => "synced"
  | closed => "closed"

def isReady : Phase → Bool
  | live => true
  | _ => false

def needsSnapshot : Phase → Bool
  | idle => true
  | awaiting => true
  | _ => false

end Phase

structure Fetch where
  symbol : String
  epoch : Nat
  deriving DecidableEq

/-- The sync state of a symbol. The cursor is the last sequence number the book holds; an epoch ends
with each close, of which fewer than `2 ^ 64` are assumed. -/
structure Tracker where
  symbol : String
  phase : Phase
  epoch : Nat
  cursor : Option UInt64
  fetching : Bool
  deriving DecidableEq

inductive UpdateAction where
  | apply
  | stale (cursor last : UInt64)
  | gap (cursor first : UInt64) (fetch : Fetch)
  | fetch (f : Fetch)
  | pending
  | ignore
  deriving DecidableEq

inductive AnswerAction where
  | install
  | discard
  | failed
  deriving DecidableEq

def nextSequence (n : UInt64) : UInt64 := if n = 0xFFFFFFFFFFFFFFFF then n else n + 1

namespace Tracker

def fresh (symbol : String) : Tracker := ⟨symbol, .idle, 0, none, false⟩

def fetch (t : Tracker) : Fetch := ⟨t.symbol, t.epoch⟩

def request (t : Tracker) : Tracker × Fetch := ({ t with fetching := true }, t.fetch)

def subscribe (t : Tracker) : Tracker × Option Fetch :=
  match t.phase with
  | .idle | .closed =>
    ({ t with phase := .awaiting, cursor := none, fetching := true }, some t.fetch)
  | .awaiting => if t.fetching then (t, none) else ({ t with fetching := true }, some t.fetch)
  | .live => (t, none)

def updateLive (t : Tracker) (span : Option Span) : Tracker × UpdateAction :=
  match span with
  | none => (t, .apply)
  | some s =>
    match t.cursor with
    | none => ({ t with cursor := some s.last }, .apply)
    | some c =>
      if s.last < c then (t, .stale c s.last)
      else if nextSequence c < s.first then
        ({ t with phase := .awaiting, cursor := none, fetching := true }, .gap c s.first t.fetch)
      else ({ t with cursor := some s.last }, .apply)

def update (t : Tracker) (span : Option Span) : Tracker × UpdateAction :=
  match t.phase with
  | .closed => (t, .ignore)
  | .idle => ({ t with phase := .awaiting, fetching := true }, .fetch t.fetch)
  | .awaiting =>
    if t.fetching then (t, .pending) else ({ t with fetching := true }, .fetch t.fetch)
  | .live => t.updateLive span

def expects (t : Tracker) (epoch : Nat) : Bool :=
  epoch == t.epoch && t.phase == .awaiting && t.fetching

def loaded (t : Tracker) (epoch : Nat) (sequence : Option UInt64) : Tracker × AnswerAction :=
  if t.expects epoch then
    ({ t with fetching := false, phase := .live, cursor := sequence }, .install)
  else (t, .discard)

def failed (t : Tracker) (epoch : Nat) : Tracker × AnswerAction :=
  if t.expects epoch then ({ t with fetching := false }, .failed) else (t, .discard)

def close (t : Tracker) : Tracker :=
  { t with phase := .closed, epoch := t.epoch + 1, cursor := none, fetching := false }

end Tracker

end MarketFeed
