import MarketFeed.Text.Casing
import MarketFeed.Text.Normal
import MarketFeed.Url.DomainTable
import MarketFeed.Url.Label
import MarketFeed.Url.Punycode

/-! Domains in their plain form, and the labels they consist of. -/

namespace MarketFeed.Url

def splitAt (separator : Char) : List Char → List (List Char)
  | [] => [[]]
  | c :: r =>
    if c = separator then [] :: splitAt separator r
    else
      match splitAt separator r with
      | [] => [[c]]
      | p :: ps => (c :: p) :: ps

def isForbidden (c : Char) : Bool :=
  c.toNat ≤ 32 || c.toNat = 127 || "#/:<>?@[\\]^|%".toList.contains c

def isAscii (c : Char) : Bool := c.toNat < 128

def plainChar? (c : Char) : Option (List Char) :=
  let n := c.toNat
  if isAscii c then some [c.toLower]
  else if Text.inRanges refusedRanges n then none
  else if Text.inRanges ignoredRanges n then some []
  else
    match Text.rangeValue? images n, spelled.lookup n with
    | some (image, place), _ => some [Char.ofNat (image + place)]
    | none, some word => some (word.map Char.ofNat)
    | none, none => some (Text.lowerChar c)

def isPlain (cs : List Char) : Bool :=
  cs.all (fun c => plainChar? c = some [c]) && Text.composed cs = cs

def decodeLabel? (coded : List Char) : Option (List Char) :=
  if coded.all isAscii && coded.length ≤ 2000 && !coded.isEmpty && coded.getLast? != some '-' then
    (Punycode.decode coded).filter fun label => isPlain label && isWellFormed label
  else none

def label? (label : List Char) : Option (List Char) :=
  match label with
  | 'x' :: 'n' :: '-' :: '-' :: coded => decodeLabel? coded
  | _ =>
    if label.all isAscii || label.length ≤ 1000 && isWellFormed label then some label else none

def directionsFit (labels : List (List Char)) : Bool :=
  !labels.any (·.any turnsLeft) || labels.all keepsDirection

def plainDomain? (cs : List Char) : Option (List Char) := do
  let plain := Text.composed (← cs.mapM plainChar?).flatten
  let labels ← (splitAt '.' plain).mapM label?
  if plain.isEmpty || plain.any isForbidden || !directionsFit labels then none else some plain

end MarketFeed.Url
