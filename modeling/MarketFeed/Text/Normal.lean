import MarketFeed.Text.NormalTable

/-! The composed form of text: marks in the order of their ranks, and joined to the letter in front
of them wherever one character stands for both. -/

namespace MarketFeed.Text

def rank (n : Nat) : Nat := ((rangeValue? ranks n).map (·.1)).getD 0

def isSyllable (n : Nat) : Bool := 0xAC00 ≤ n && n < 0xD7A4

def splitSyllable (n : Nat) : List Nat :=
  let k := n - 0xAC00
  if k % 28 = 0 then [0x1100 + k / 588, 0x1161 + k % 588 / 28] else [n - k % 28, 0x11A7 + k % 28]

def joinSyllable? (a b : Nat) : Option Nat :=
  if 0x1100 ≤ a && a < 0x1113 && 0x1161 ≤ b && b < 0x1176 then
    some (0xAC00 + 588 * (a - 0x1100) + 28 * (b - 0x1161))
  else if isSyllable a && (a - 0xAC00) % 28 = 0 && 0x11A7 < b && b < 0x11C3 then
    some (a + (b - 0x11A7))
  else none

def parts? (n : Nat) : Option (List Nat) :=
  if isSyllable n then some (splitSyllable n)
  else ((composites.find? (·.1 == n)).map fun (_, a, b) => [a, b]).or (parted.lookup n)

def joined? (a b : Nat) : Option Nat :=
  (joinSyllable? a b).or ((composites.find? (·.2 == (a, b))).map (·.1))

def takeApart : Nat → Nat → List Nat
  | 0, n => [n]
  | depth + 1, n =>
    match parts? n with
    | some ns => ns.flatMap (takeApart depth)
    | none => [n]

def maxSteps : Nat := 4

def placeMark (n : Nat) : List Nat → List Nat
  | [] => [n]
  | m :: r => if 0 < rank m && rank m < rank n then m :: placeMark n r else n :: m :: r

def orderMarks (ns : List Nat) : List Nat := ns.foldr placeMark []

def joinFrom (letter : Nat) (kept : List Nat) : List Nat → List Nat
  | [] => letter :: kept.reverse
  | n :: r =>
    match if kept.head?.all fun m => rank m < rank n then joined? letter n else none with
    | some whole => joinFrom whole kept r
    | none =>
      if rank n = 0 then letter :: kept.reverse ++ joinFrom n [] r
      else joinFrom letter (n :: kept) r

def joinMarks : List Nat → List Nat
  | [] => []
  | n :: r => if rank n = 0 then joinFrom n [] r else n :: joinMarks r

def composed (cs : List Char) : List Char :=
  (joinMarks (orderMarks (cs.flatMap fun c => takeApart maxSteps c.toNat))).map Char.ofNat

end MarketFeed.Text
