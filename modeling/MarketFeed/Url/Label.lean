import MarketFeed.Text.Normal
import MarketFeed.Url.LabelTable

/-! Which characters may stand side by side in a label of a domain. -/

namespace MarketFeed.Url

inductive Direction where
  | left
  | right
  | arabicNumber
  | number
  | neutral
  | mark
  deriving DecidableEq

def direction (c : Char) : Direction :=
  let n := c.toNat
  if Text.inRanges rightRanges n then .right
  else if Text.inRanges arabicNumberRanges n then .arabicNumber
  else if Text.inRanges numberRanges n then .number
  else if Text.inRanges neutralRanges n then .neutral
  else if Text.inRanges nonspacingRanges n then .mark
  else .left

def turnsLeft (c : Char) : Bool :=
  match direction c with
  | .right => true
  | .arabicNumber => true
  | _ => false

def lastDirection? (ds : List Direction) : Option Direction :=
  (ds.reverse.dropWhile (· = .mark)).head?

def keepsDirection (label : List Char) : Bool :=
  let ds := label.map direction
  match ds with
  | [] => true
  | .right :: _ =>
    !ds.contains .left && !(ds.contains .number && ds.contains .arabicNumber) &&
      (lastDirection? ds).any fun d => d = .right || d = .number || d = .arabicNumber
  | .left :: _ =>
    !ds.contains .right && !ds.contains .arabicNumber &&
      (lastDirection? ds).any fun d => d = .left || d = .number
  | _ => false

def isMark (c : Char) : Bool := Text.inRanges markRanges c.toNat

def isVirama (c : Char) : Bool := Text.rank c.toNat = 9

def isJoinedThrough (c : Char) : Bool :=
  Text.inRanges nonspacingRanges c.toNat || Text.inRanges joinedThroughRanges c.toNat

def meetsJoining (joining : List (Nat × Nat)) (cs : List Char) : Bool :=
  match cs.dropWhile isJoinedThrough with
  | [] => false
  | c :: _ => Text.inRanges joining c.toNat

def joinersFit (before : List Char) : List Char → Bool
  | [] => true
  | c :: r =>
    let fits :=
      if c = '\u200D' then before.head?.any isVirama
      else if c = '\u200C' then
        before.head?.any isVirama ||
          meetsJoining joinsNextRanges before && meetsJoining joinsPreviousRanges r
      else true
    fits && joinersFit (c :: before) r

def isWellFormed (label : List Char) : Bool := !label.head?.any isMark && joinersFit [] label

end MarketFeed.Url
