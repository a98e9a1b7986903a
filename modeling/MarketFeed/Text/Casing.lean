import MarketFeed.Text.CaseTable
import MarketFeed.Text.Rows

/-! Capital and small forms of text, with the full mappings of Unicode. -/

namespace MarketFeed.Text

def mapCode (runs : List (Nat × Nat × Nat × Int)) (words : List (Nat × List Nat)) (n : Nat) :
    List Nat :=
  match words.find? (·.1 == n) with
  | some (_, w) => w
  | none =>
    match runs.find? fun (first, last, step, _) =>
        first ≤ n && n ≤ last && (n - first) % step == 0 with
    | some (_, _, _, shift) => [((n : Int) + shift).toNat]
    | none => [n]

def upperChar (c : Char) : List Char :=
  if c.toNat < 128 then [c.toUpper]
  else (mapCode upperRuns upperWords c.toNat).map Char.ofNat

def lowerChar (c : Char) : List Char :=
  if c.toNat < 128 then [c.toLower]
  else (mapCode lowerRuns lowerWords c.toNat).map Char.ofNat

def isMark (c : Char) : Bool := inRanges markRanges c.toNat

def isLetter (c : Char) : Bool := inRanges letterRanges c.toNat

def touchesLetter (cs : List Char) : Bool :=
  match cs.dropWhile isMark with
  | [] => false
  | c :: _ => isLetter c

def lowerFrom (before : List Char) : List Char → List Char
  | [] => []
  | c :: rest =>
    let small :=
      if c = 'Σ' then
        if touchesLetter before && !touchesLetter rest then ['ς'] else ['σ']
      else lowerChar c
    small ++ lowerFrom (c :: before) rest

def upper (s : String) : String := String.ofList (s.toList.flatMap upperChar)

def lower (s : String) : String := String.ofList (lowerFrom [] s.toList)

end MarketFeed.Text
