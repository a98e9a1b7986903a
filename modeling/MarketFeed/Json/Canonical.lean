import MarketFeed.Json.Reader

/-! Values in the one form in which they are kept: members sorted by name, no name twice. -/

namespace MarketFeed.Json

/-- The name that makes an object stand for a number, whose literal the member holds as a string. -/
def numberName : String := "$serde_json::private::Number"

def literal? (s : String) : Option String :=
  match readNumber s.toList with
  | some (ds, []) => some (String.ofList ds)
  | _ => none

def standsForNumber (members : List (String × Json)) : Bool :=
  members.head?.any (·.1 == numberName)

def number? : List (String × Json) → Option Json
  | [(_, .str s)] => (literal? s).map .num
  | _ => none

mutual

def canonical? : Json → Option Json
  | .arr items => (canonicalItems? items).map .arr
  | .obj members =>
    if standsForNumber members then number? members else (canonicalMembers? members).map record
  | .refused => none
  | v => some v

def canonicalItems? : List Json → Option (List Json)
  | [] => some []
  | v :: r => (canonical? v).bind fun v => (canonicalItems? r).map (v :: ·)

def canonicalMembers? : List (String × Json) → Option (List (String × Json))
  | [] => some []
  | (n, v) :: r => (canonical? v).bind fun v => (canonicalMembers? r).map ((n, v) :: ·)

end

def ofText? (s : String) : Option Json := (parse? s).bind canonical?

end MarketFeed.Json
