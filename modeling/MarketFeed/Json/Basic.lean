import MarketFeed.Table

/-! JSON values whose numbers keep their digits. -/

namespace MarketFeed

/-- A JSON value. Numbers are literals with a small `e` and a signed exponent; `refused` stands for
text of valid form that no value holds: a lone surrogate, or nesting beyond the limit. -/
inductive Json where
  | null
  | bool (b : Bool)
  | num (literal : String)
  | str (s : String)
  | arr (items : List Json)
  | obj (members : List (String × Json))
  | refused
  deriving Inhabited

namespace Json

def record (members : List (String × Json)) : Json :=
  .obj (Table.ofList members)

mutual

def isReadable : Json → Bool
  | .arr items => areReadable items
  | .obj members => areReadableMembers members
  | .refused => false
  | _ => true

def areReadable : List Json → Bool
  | [] => true
  | v :: r => isReadable v && areReadable r

def areReadableMembers : List (String × Json) → Bool
  | [] => true
  | (_, v) :: r => isReadable v && areReadableMembers r

end

def get? : Json → String → Option Json
  | .obj members, name => members.lookup name
  | _, _ => none

def isNull : Json → Bool
  | .null => true
  | _ => false

def text? : Json → Option String
  | .str s => some s
  | _ => none

def bool? : Json → Option Bool
  | .bool b => some b
  | _ => none

def items? : Json → Option (List Json)
  | .arr items => some items
  | _ => none

def ofNat (n : Nat) : Json := .num (toString n)

def ofInt (n : Int) : Json := .num (toString n)

end Json

end MarketFeed
