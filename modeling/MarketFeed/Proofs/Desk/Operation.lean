import Mathlib.Tactic.Lemma
import MarketFeed.Desk.Basic

namespace MarketFeed

inductive Operation where
  | subscribe (symbol : String)
  | unsubscribe (symbol : String)
  | reset (symbols : List String)
  | resetAll
  | update (u : Update) (time : Int64)
  | answer (f : Fetch) (result : Except FetchError Snapshot) (time : Int64)

inductive Outcome where
  | done
  | closed (symbols : List String)
  | update (o : UpdateOutcome)
  | answer (o : SnapshotOutcome)
  deriving DecidableEq

def Step.map {α β : Type} (f : α → β) (n : Step α) : Step β :=
  ⟨n.desk, f n.result, n.events, n.fetches⟩

namespace Desk

def perform (d : Desk) : Operation → Step Outcome
  | .subscribe symbol => (d.subscribe symbol).map fun _ => .done
  | .unsubscribe symbol => ⟨d.unsubscribe symbol, .done, [], []⟩
  | .reset symbols => ⟨(d.reset symbols).1, .closed (d.reset symbols).2, [], []⟩
  | .resetAll => ⟨d.resetAll.1, .closed d.resetAll.2, [], []⟩
  | .update u time => (d.update u time).map .update
  | .answer f result time => (d.answer f result time).map .answer

def closedBy (d : Desk) : Operation → List String
  | .unsubscribe symbol => if (d.tracker? symbol).isSome then [symbol] else []
  | .reset symbols => (d.reset symbols).2
  | .resetAll => d.resetAll.2
  | _ => []

def run (d : Desk) : List Operation → Step (List Outcome)
  | [] => ⟨d, [], [], []⟩
  | o :: r =>
    let first := d.perform o
    let rest := run first.desk r
    ⟨rest.desk, first.result :: rest.result, first.events ++ rest.events,
      first.fetches ++ rest.fetches⟩

variable (d : Desk) (o : Operation) (os : List Operation)

@[simp] lemma events_run_cons :
    (d.run (o :: os)).events = (d.perform o).events ++ ((d.perform o).desk.run os).events := rfl

@[simp] lemma fetches_run_cons :
    (d.run (o :: os)).fetches = (d.perform o).fetches ++ ((d.perform o).desk.run os).fetches := rfl

lemma desk_run_append (os' : List Operation) :
    (d.run (os ++ os')).desk = ((d.run os).desk.run os').desk := by
  induction os generalizing d with
  | nil => rfl
  | cons o r ih => exact ih (d.perform o).desk

lemma events_run_append (os' : List Operation) :
    (d.run (os ++ os')).events = (d.run os).events ++ ((d.run os).desk.run os').events := by
  induction os generalizing d with
  | nil => rfl
  | cons o r ih =>
    rw [List.cons_append, events_run_cons, events_run_cons, ih, List.append_assoc]
    rfl

lemma run_invariant {P : Desk → Prop} {d : Desk} (h : P d) {os : List Operation}
    (hs : ∀ d, ∀ o ∈ os, P d → P (d.perform o).desk) : P (d.run os).desk := by
  induction os generalizing d with
  | nil => exact h
  | cons o r ih =>
    obtain ⟨ho, hr⟩ := List.forall_mem_cons.mp fun x hx d => hs d x hx
    exact ih (ho d h) fun d x hx => hr x hx d

end Desk

end MarketFeed
