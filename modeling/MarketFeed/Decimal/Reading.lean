import MarketFeed.Decimal.Basic

/-! Text forms of decimals: plain digits read exactly or rounded, and scientific notation. -/

namespace MarketFeed.Decimal

structure Scan where
  value : Nat
  seen : Bool
  fraction : Option Nat

def Scan.start : Scan := ⟨0, false, none⟩

def Scan.scale (s : Scan) : Nat := s.fraction.getD 0

def Scan.digit (s : Scan) (c : Char) : Scan :=
  ⟨10 * s.value + Text.digitValue c, true, s.fraction.map (· + 1)⟩

def Scan.result (s : Scan) (negative : Bool) : Option Decimal :=
  if s.seen then of? (if negative then -(s.value : Int) else s.value) s.scale else none

def splitSign : List Char → Bool × List Char
  | '-' :: r => (true, r)
  | '+' :: r => (false, r)
  | r => (false, r)

def isSeparator (c : Char) : Bool := c = '_'

def scanExact (s : Scan) : List Char → Option Scan
  | [] => some s
  | c :: r =>
    if s.fraction = some 28 then none
    else if c.isDigit then
      if (s.digit c).value < coeffBound then scanExact (s.digit c) r else none
    else if c = '.' && s.fraction.isNone then scanExact { s with fraction := some 0 } r
    else if isSeparator c && s.seen then scanExact s r
    else none

def readExact (cs : List Char) : Option Decimal :=
  let (negative, body) := splitSign cs
  (scanExact .start body).bind (·.result negative)

def Scan.roundUp (s : Scan) : Option Scan :=
  if s.value + 1 < coeffBound then some { s with value := s.value + 1 }
  else match s.scale with
    | 0 => none
    | k + 1 => some { s with value := (s.value + 5) / 10, fraction := some k }

/-- Ends a reading at the first digit that finds no room, which counts one up from five on. Behind
it stand only digits and separators; a separator in its place counts as a zero. -/
def Scan.roundAt (s : Scan) : List Char → Option Scan
  | [] => some s
  | c :: r =>
    if r.all fun x => x.isDigit || isSeparator x then
      if c.isDigit then if 5 ≤ Text.digitValue c then s.roundUp else some s
      else if isSeparator c then some s
      else none
    else none

def wordLimit : Nat := 1844674407370954906

/-- Ends a reading behind the last possible fraction digit. Separators there are passed over where
the digits before that one fill 64 bits; elsewhere the first of them counts as a zero. -/
def Scan.finish (s : Scan) (cs : List Char) : Option Scan :=
  s.roundAt (if s.value / 10 < wordLimit then cs else cs.dropWhile isSeparator)

def scanRounded (s : Scan) : List Char → Option Scan
  | [] => some s
  | c :: r =>
    if s.fraction = some 28 then s.finish (c :: r)
    else if c.isDigit then
      if (s.digit c).value < coeffBound then scanRounded (s.digit c) r
      else if s.fraction.isSome then s.roundAt (c :: r)
      else none
    else if c = '.' && s.fraction.isNone then scanRounded { s with fraction := some 0 } r
    else if isSeparator c && s.seen then scanRounded s r
    else none

def readRounded (cs : List Char) : Option Decimal :=
  let (negative, body) := splitSign cs
  (scanRounded .start body).bind (·.result negative)

def isExponentMark (c : Char) : Bool := c = 'e' || c = 'E'

def hasExponent (cs : List Char) : Bool := cs.any isExponentMark

def splitExponent (cs : List Char) : Option (List Char × List Char) :=
  match cs.dropWhile (!isExponentMark ·) with
  | [] => none
  | _ :: r => some (cs.takeWhile (!isExponentMark ·), r)

inductive Beyond where
  | refuse
  | round

def roundHalfUp (n unit : Nat) : Nat := (n + unit / 2) / unit

def shrink (beyond : Beyond) (base : Decimal) (e : Nat) : Option Decimal :=
  if 28 < e then none
  else if base.scale + e ≤ 28 then signed? base.negative base.magnitude (base.scale + e)
  else match beyond with
    | .refuse => none
    | .round =>
      signed? base.negative (roundHalfUp base.magnitude (tenPow (base.scale + e - 28))) 28

def grow (base : Decimal) (e : Nat) : Option Decimal :=
  if e ≤ base.scale then signed? base.negative base.magnitude (base.scale - e)
  else if 28 < e then none
  else signed? base.negative (base.magnitude * tenPow (e - base.scale)) 0

def readScientific (beyond : Beyond) (cs : List Char) : Option Decimal :=
  (splitExponent cs).bind fun (base, exponent) =>
    (readRounded base).bind fun b =>
      match exponent with
      | '-' :: r => (Text.uint32? r).bind (shrink beyond b)
      | r => (Text.uint32? r).bind (grow b)

def ofText? (s : String) : Option Decimal :=
  let cs := s.toList
  (if hasExponent cs then readScientific .refuse cs else readExact cs).map strip

def ofScaledText? (scale : Nat) (s : String) : Option Decimal :=
  (Text.integerWithin? Text.int128Bound s.toList).bind fun n => (of? n scale).map strip

def ofEncoded? (s : String) : Option Decimal :=
  let cs := s.toList
  match readRounded cs with
  | some d => some d
  | none => if hasExponent cs then readScientific .round cs else none

end MarketFeed.Decimal
