import MarketFeed.Failure
import MarketFeed.Json.Printer
import MarketFeed.Level

/-! Readers for the fields of venue messages. A null field counts as missing, and a number may be
written as a string. -/

namespace MarketFeed.Json

def invalid {α : Type} (name : String) (v : Json) : Except ReadError α :=
  .error (.invalid name v.compact)

def field? (v : Json) (name : String) : Option Json := (v.get? name).filter (!·.isNull)

def field (v : Json) (name : String) : Except ReadError Json :=
  match v.field? name with
  | some x => .ok x
  | none => .error (.missing name)

def fieldBy {α : Type} (read : Json → Option α) (v : Json) (name : String) :
    Except ReadError α := do
  let x ← v.field name
  match read x with
  | some a => .ok a
  | none => invalid name x

def textField : Json → String → Except ReadError String := fieldBy text?

def boolField : Json → String → Except ReadError Bool := fieldBy bool?

def itemsField : Json → String → Except ReadError (List Json) := fieldBy items?

def numberText? : Json → Option String
  | .str s => some s
  | .num literal => some literal
  | _ => none

def idField : Json → String → Except ReadError String := fieldBy numberText?

def numberBy {α : Type} (read : List Char → Option α) (name : String) (v : Json) :
    Except ReadError α :=
  match v.numberText?.bind fun s => read s.toList with
  | some a => .ok a
  | none => invalid name v

def uint64Value : String → Json → Except ReadError UInt64 := numberBy Text.uint64?

def int64Value : String → Json → Except ReadError Int64 := numberBy Text.int64?

def uint64Field (v : Json) (name : String) : Except ReadError UInt64 := do
  uint64Value name (← v.field name)

def int64Field? (v : Json) (name : String) : Except ReadError (Option Int64) :=
  match v.field? name with
  | none => .ok none
  | some x => (int64Value name x).map some

def decimalBy (read : String → Option Decimal) (name : String) (v : Json) :
    Except ReadError Decimal :=
  match v.numberText? with
  | none => invalid name v
  | some s =>
    match read s with
    | some d => .ok d
    | none => .error (.decimal name s)

def decimalValue : String → Json → Except ReadError Decimal := decimalBy Decimal.ofText?

def scaledValue (scale : Nat) : String → Json → Except ReadError Decimal :=
  decimalBy (Decimal.ofScaledText? scale)

def decimalField (v : Json) (name : String) : Except ReadError Decimal := do
  decimalValue name (← v.field name)

def scaledField (scale : Nat) (v : Json) (name : String) : Except ReadError Decimal := do
  scaledValue scale name (← v.field name)

def levelValue (read : String → Json → Except ReadError Decimal) (name : String) :
    Json → Except ReadError Level
  | .arr (p :: s :: _) => do
    let price ← read name p
    let size ← read name s
    .ok ⟨price, size⟩
  | v => invalid name v

def levelsField (read : String → Json → Except ReadError Decimal) (v : Json) (name : String) :
    Except ReadError (List Level) := do
  (← v.itemsField name).mapM (levelValue read name)

end MarketFeed.Json
