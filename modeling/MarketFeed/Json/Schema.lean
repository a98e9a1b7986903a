import MarketFeed.Json.Basic
import MarketFeed.Text.Digits

/-! Typed reading of JSON: records by name or by position, unit variants, bounded integers. -/

namespace MarketFeed.Json

inductive Slot where
  | given (v : Json)
  | unnamed
  | beyond

namespace Slot

def required {α : Type} (read : Json → Option α) : Slot → Option α
  | given v => read v
  | _ => none

def nullable {α : Type} (read : Json → Option α) : Json → Option (Option α)
  | .null => some none
  | v => (read v).map some

def optional {α : Type} (read : Json → Option α) : Slot → Option (Option α)
  | given v => nullable read v
  | unnamed => some none
  | beyond => none

def orElse {α : Type} (read : Json → Option α) (default : α) : Slot → Option α
  | given v => read v
  | _ => some default

end Slot

def slots (names : List String) : Json → Option (String → Slot)
  | .obj members =>
    if names.all fun n => members.countP (·.1 == n) ≤ 1 then
      some fun n => (members.lookup n).elim .unnamed .given
    else none
  | .arr items =>
    if items.length ≤ names.length then
      some fun n => ((names.zip items).lookup n).elim .beyond .given
    else none
  | _ => none

def variant {α : Type} (table : List (String × α)) : Json → Option α
  | .str s => table.lookup s
  | .obj [(s, .null)] => table.lookup s
  | _ => none

def listOf {α : Type} (read : Json → Option α) : Json → Option (List α)
  | .arr items => items.mapM read
  | _ => none

def wholeNumber : Json → Option Int
  | .num literal => if literal = "-0" then none else Text.integer? literal.toList
  | _ => none

def naturalBelow (bound : Nat) (v : Json) : Option Nat :=
  (wholeNumber v).bind fun n => if 0 ≤ n && n < bound then some n.toNat else none

def uint64 (v : Json) : Option UInt64 := (naturalBelow UInt64.size v).map UInt64.ofNat

def uint32 : Json → Option Nat := naturalBelow UInt32.size

def int64 (v : Json) : Option Int64 :=
  (wholeNumber v).bind fun n =>
    if -(Text.int64Bound : Int) ≤ n && n < Text.int64Bound then some (Int64.ofInt n) else none

end MarketFeed.Json
