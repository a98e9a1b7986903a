import MarketFeed.Json.Basic
import MarketFeed.Text.Digits

/-! Strict JSON reading. A value is read together with the text behind it. -/

namespace MarketFeed.Json

def isBlank (c : Char) : Bool := c = ' ' || c = '\t' || c = '\n' || c = '\r'

def skipBlanks (cs : List Char) : List Char := cs.dropWhile isBlank

inductive Piece where
  | plain (c : Char)
  | unit (n : Nat)

def readUnit (a b c d : Char) : Option Nat := do
  let a ← Text.hexValue? a
  let b ← Text.hexValue? b
  let c ← Text.hexValue? c
  let d ← Text.hexValue? d
  some (((a * 16 + b) * 16 + c) * 16 + d)

def escaped? (c : Char) : Option Char :=
  match c with
  | '"' => some '"'
  | '\\' => some '\\'
  | '/' => some '/'
  | 'b' => some '\x08'
  | 'f' => some '\x0c'
  | 'n' => some '\n'
  | 'r' => some '\r'
  | 't' => some '\t'
  | _ => none

def readPieces : List Char → Option (List Piece × List Char)
  | [] => none
  | '"' :: r => some ([], r)
  | '\\' :: 'u' :: a :: b :: c :: d :: r =>
    (readUnit a b c d).bind fun n => (readPieces r).map fun (ps, r) => (.unit n :: ps, r)
  | '\\' :: e :: r =>
    (escaped? e).bind fun x => (readPieces r).map fun (ps, r) => (.plain x :: ps, r)
  | c :: r =>
    if c.toNat < 32 then none else (readPieces r).map fun (ps, r) => (.plain c :: ps, r)

def isLeading (n : Nat) : Bool := 0xD800 ≤ n && n < 0xDC00

def isTrailing (n : Nat) : Bool := 0xDC00 ≤ n && n < 0xE000

def joinPieces : List Piece → Option (List Char)
  | [] => some []
  | .plain c :: r => (joinPieces r).map (c :: ·)
  | .unit n :: r =>
    if isLeading n then
      match r with
      | .unit m :: r =>
        if isTrailing m then
          (joinPieces r).map (Char.ofNat (0x10000 + (n - 0xD800) * 0x400 + (m - 0xDC00)) :: ·)
        else none
      | _ => none
    else if isTrailing n then none
    else (joinPieces r).map (Char.ofNat n :: ·)

def readString (cs : List Char) : Option (Option String × List Char) :=
  (readPieces cs).map fun (ps, r) => ((joinPieces ps).map String.ofList, r)

def readDigits (cs : List Char) : Option (List Char × List Char) :=
  match cs.takeWhile Char.isDigit with
  | [] => none
  | ds => some (ds, cs.dropWhile Char.isDigit)

def readWhole : List Char → Option (List Char × List Char)
  | '0' :: r => some (['0'], r)
  | r => readDigits r

def readFraction : List Char → Option (List Char × List Char)
  | '.' :: r => (readDigits r).map fun (ds, r) => ('.' :: ds, r)
  | r => some ([], r)

def readExponent : List Char → Option (List Char × List Char)
  | c :: r =>
    if c = 'e' || c = 'E' then
      let (sign, r) := match r with
        | '-' :: r => ('-', r)
        | '+' :: r => ('+', r)
        | r => ('+', r)
      (readDigits r).map fun (ds, r) => ('e' :: sign :: ds, r)
    else some ([], c :: r)
  | [] => some ([], [])

/-- A number and the text behind it. Its digits stay as they stand: `1.50`, and `-0`, which the
gateway's answers show with its sign (`Invalid value for p: -0`). -/
def readNumber (cs : List Char) : Option (List Char × List Char) := do
  let (sign, r) := match cs with
    | '-' :: r => (['-'], r)
    | r => ([], r)
  let (whole, r) ← readWhole r
  let (fraction, r) ← readFraction r
  let (exponent, r) ← readExponent r
  some (sign ++ whole ++ fraction ++ exponent, r)

def maxDepth : Nat := 127

def namedMembers : List (Option String × Json) → Option (List (String × Json))
  | [] => some []
  | (n, v) :: r => n.bind fun n => (namedMembers r).map ((n, v) :: ·)

def ofItems (depth : Nat) (items : List Json) : Json :=
  if depth < maxDepth then .arr items else .refused

def ofMembers (depth : Nat) (members : List (Option String × Json)) : Json :=
  match namedMembers members with
  | some ms => if depth < maxDepth then .obj ms else .refused
  | none => .refused

mutual

def readValue : Nat → Nat → List Char → Option (Json × List Char)
  | 0, _, _ => none
  | fuel + 1, depth, cs =>
    match skipBlanks cs with
    | '"' :: r => (readString r).map fun (s, r) => (s.elim .refused .str, r)
    | '[' :: r =>
      match skipBlanks r with
      | ']' :: r => some (ofItems depth [], r)
      | r => (readItems fuel (depth + 1) r).map fun (vs, r) => (ofItems depth vs, r)
    | '\x7b' :: r =>
      match skipBlanks r with
      | '\x7d' :: r => some (ofMembers depth [], r)
      | r => (readMembers fuel (depth + 1) r).map fun (ms, r) => (ofMembers depth ms, r)
    | 'n' :: 'u' :: 'l' :: 'l' :: r => some (.null, r)
    | 't' :: 'r' :: 'u' :: 'e' :: r => some (.bool true, r)
    | 'f' :: 'a' :: 'l' :: 's' :: 'e' :: r => some (.bool false, r)
    | r => (readNumber r).map fun (ds, r) => (.num (String.ofList ds), r)

def readItems : Nat → Nat → List Char → Option (List Json × List Char)
  | 0, _, _ => none
  | fuel + 1, depth, cs =>
    (readValue fuel depth cs).bind fun (v, r) =>
      match skipBlanks r with
      | ',' :: r => (readItems fuel depth r).map fun (vs, r) => (v :: vs, r)
      | ']' :: r => some ([v], r)
      | _ => none

def readMembers : Nat → Nat → List Char → Option (List (Option String × Json) × List Char)
  | 0, _, _ => none
  | fuel + 1, depth, cs =>
    match skipBlanks cs with
    | '"' :: r =>
      (readString r).bind fun (n, r) =>
        match skipBlanks r with
        | ':' :: r =>
          (readValue fuel depth r).bind fun (v, r) =>
            match skipBlanks r with
            | ',' :: r => (readMembers fuel depth r).map fun (ms, r) => ((n, v) :: ms, r)
            | '\x7d' :: r => some ([(n, v)], r)
            | _ => none
        | _ => none
    | _ => none

end

def parse? (s : String) : Option Json :=
  (readValue (2 * s.length + 2) 0 s.toList).bind fun (v, r) =>
    if (skipBlanks r).isEmpty then some v else none

end MarketFeed.Json
