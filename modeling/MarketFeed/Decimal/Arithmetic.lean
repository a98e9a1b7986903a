import MarketFeed.Decimal.Basic

/-! Sums, products and midpoints; `none` where no decimal is close enough. -/

namespace MarketFeed.Decimal

def roundHalfEven (n unit : Nat) : Nat :=
  let q := n / unit
  let r := n % unit
  if unit < 2 * r || (2 * r == unit && q % 2 == 1) then q + 1 else q

def fit (negative : Bool) (magnitude scale : Nat) : Option Decimal :=
  (List.range (scale + 1)).findSome? fun k =>
    signed? negative (roundHalfEven magnitude (tenPow k)) (scale - k)

def coeffAt (d : Decimal) (scale : Nat) : Int := d.coeff * tenPow (scale - d.scale)

def add (a b : Decimal) : Option Decimal :=
  if a.isZero then some b
  else if b.isZero then some a
  else
    let s := max a.scale b.scale
    let c := a.coeffAt s + b.coeffAt s
    fit (c < 0) c.natAbs s

def sub (a b : Decimal) : Option Decimal := a.add b.neg

def isShort (d : Decimal) : Bool := d.magnitude < UInt32.size

def dropZeroSign (d : Decimal) : Decimal := { d with negative := d.negative && !d.isZero }

/-- Two short factors with more than 47 fraction digits leave nothing of their product, whose digits
then all lie behind the 28th place. A product that is rounded to zero loses its sign if both factors
are short and keeps it otherwise. -/
def mul (a b : Decimal) : Option Decimal :=
  let product := fit (a.negative != b.negative) (a.magnitude * b.magnitude) (a.scale + b.scale)
  if a.isZero || b.isZero then some zero
  else if a.isShort && b.isShort then
    if 47 < a.scale + b.scale then some zero else product.map dropZeroSign
  else product

def thin (m : Nat) (s : Nat) : Nat × Nat :=
  let (m, s) := eights 4 m s
  let (m, s) := if 4 ≤ s && m % 10000 == 0 then (m / 10000, s - 4) else (m, s)
  let (m, s) := if 2 ≤ s && m % 100 == 0 then (m / 100, s - 2) else (m, s)
  if 1 ≤ s && m % 10 == 0 then (m / 10, s - 1) else (m, s)
where
  eights : Nat → Nat → Nat → Nat × Nat
    | 0, m, s => (m, s)
    | k + 1, m, s =>
      if m % UInt32.size == 0 && 8 ≤ s && m % 100000000 == 0 then
        eights k (m / 100000000) (s - 8)
      else (m, s)

def halfParts (m s : Nat) : Nat × Nat :=
  let q := m / 2
  if m % 2 == 0 then (q, s)
  else
    let fits p := q * tenPow p + 5 * tenPow p / 10 < coeffBound
    match ((List.range (min 9 (28 - s) + 1)).filter (fits ·)).getLastD 0 with
    | 0 => thin (if q % 2 == 1 then q + 1 else q) s
    | p + 1 => thin (q * tenPow (p + 1) + 5 * tenPow p) (s + p + 1)

def half (d : Decimal) : Option Decimal :=
  if d.isZero then some zero
  else
    let (m, s) := halfParts d.magnitude d.scale
    (signed? d.negative m s).map dropZeroSign

def midpoint (a b : Decimal) : Option Decimal := (a.add b).bind half

end MarketFeed.Decimal
