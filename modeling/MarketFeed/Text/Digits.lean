/-! Rows of decimal digits and the integers they stand for. -/

namespace MarketFeed.Text

def digitValue (c : Char) : Nat := c.toNat - '0'.toNat

def digitsValue (cs : List Char) : Nat := cs.foldl (fun n c => 10 * n + digitValue c) 0

def hexValue? (c : Char) : Option Nat :=
  if c.isDigit then some (digitValue c)
  else if 'a' ≤ c && c ≤ 'f' then some (c.toNat - 'a'.toNat + 10)
  else if 'A' ≤ c && c ≤ 'F' then some (c.toNat - 'A'.toNat + 10)
  else none

def isHex (c : Char) : Bool := (hexValue? c).isSome

def valueIn (base : Nat) (cs : List Char) : Nat :=
  cs.foldl (fun n c => base * n + (hexValue? c).getD 0) 0

def isDigits (cs : List Char) : Bool := !cs.isEmpty && cs.all Char.isDigit

def natural? (cs : List Char) : Option Nat :=
  let body := match cs with
    | '+' :: r => r
    | r => r
  if isDigits body then some (digitsValue body) else none

def integer? (cs : List Char) : Option Int :=
  match cs with
  | '-' :: r => if isDigits r then some (-(digitsValue r : Int)) else none
  | r => (natural? r).map Int.ofNat

def naturalBelow? (bound : Nat) (cs : List Char) : Option Nat :=
  (natural? cs).filter (· < bound)

def integerWithin? (bound : Nat) (cs : List Char) : Option Int :=
  (integer? cs).filter fun n => -(bound : Int) ≤ n && n < bound

def int64Bound : Nat := 0x8000000000000000

def int128Bound : Nat := 0x80000000000000000000000000000000

def uint64? (cs : List Char) : Option UInt64 := (naturalBelow? UInt64.size cs).map UInt64.ofNat

def uint32? (cs : List Char) : Option Nat := naturalBelow? UInt32.size cs

def int64? (cs : List Char) : Option Int64 := (integerWithin? int64Bound cs).map Int64.ofInt

end MarketFeed.Text
