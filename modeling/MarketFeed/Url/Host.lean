import MarketFeed.Url.Domain

/-! Hosts of web addresses: domains, IPv4 addresses in their many spellings, IPv6 addresses. -/

namespace MarketFeed.Url

inductive Host where
  | domain (name : String)
  | ipv4 (address : Nat)
  | ipv6 (pieces : List Nat)
  deriving DecidableEq

def ipv4Number? (cs : List Char) : Option Nat :=
  match cs with
  | [] => none
  | '0' :: 'x' :: r => if r.all Text.isHex then some (Text.valueIn 16 r) else none
  | '0' :: 'X' :: r => if r.all Text.isHex then some (Text.valueIn 16 r) else none
  | '0' :: d :: r =>
    if (d :: r).all fun c => '0' ≤ c && c ≤ '7' then some (Text.valueIn 8 (d :: r)) else none
  | r => if r.all Char.isDigit then some (Text.valueIn 10 r) else none

def dottedParts (cs : List Char) : List (List Char) :=
  let parts := splitAt '.' cs
  if 1 < parts.length && parts.getLast?.any (·.isEmpty) then parts.dropLast else parts

def endsInNumber (cs : List Char) : Bool :=
  match (dottedParts cs).getLast? with
  | none => false
  | some last => Text.isDigits last || (ipv4Number? last).isSome

def ipv4? (cs : List Char) : Option Nat := do
  let numbers ← (dottedParts cs).mapM ipv4Number?
  let last ← numbers.getLast?
  let bytes := numbers.dropLast
  let room := Nat.pow 256 (4 - bytes.length)
  if numbers.length ≤ 4 && bytes.all (· < 256) && last < room then
    some (bytes.foldl (fun n b => 256 * n + b) 0 * room + last)
  else none

def ipv6Piece? (cs : List Char) : Option (List Nat) :=
  if !cs.isEmpty && cs.length ≤ 4 && cs.all Text.isHex then some [Text.valueIn 16 cs] else none

def byte? (cs : List Char) : Option Nat :=
  if Text.isDigits cs && (cs.length = 1 || cs.head? != some '0') && Text.digitsValue cs < 256 then
    some (Text.digitsValue cs)
  else none

def embedded? (cs : List Char) : Option (List Nat) :=
  match (splitAt '.' cs).mapM byte? with
  | some [a, b, c, d] => some [256 * a + b, 256 * c + d]
  | _ => none

def pieces? (parts : List (List Char)) : Option (List Nat) :=
  match parts with
  | [] => some []
  | [p] => (ipv6Piece? p).or (embedded? p)
  | p :: r => (ipv6Piece? p).bind fun n => (pieces? r).map (n ++ ·)

def splitDouble : List Char → Option (List Char × List Char)
  | ':' :: ':' :: r => some ([], r)
  | c :: r => (splitDouble r).map fun (a, b) => (c :: a, b)
  | [] => none

def someParts (cs : List Char) : List (List Char) := if cs.isEmpty then [] else splitAt ':' cs

def ipv6? (cs : List Char) : Option (List Nat) :=
  match splitDouble cs with
  | none => (pieces? (splitAt ':' cs)).filter (·.length = 8)
  | some (a, b) => do
    let head ← (someParts a).mapM ipv6Piece?
    let tail ← pieces? (someParts b)
    let known := head.flatten.length + tail.length
    if known ≤ 7 then some (head.flatten ++ List.replicate (8 - known) 0 ++ tail) else none

def percentDecode : List Char → List UInt8
  | '%' :: a :: b :: r =>
    match Text.hexValue? a, Text.hexValue? b with
    | some m, some n => UInt8.ofNat (16 * m + n) :: percentDecode r
    | _, _ => '%'.toNat.toUInt8 :: percentDecode (a :: b :: r)
  | c :: r => (String.singleton c).toUTF8.toList ++ percentDecode r
  | [] => []

def domain? (cs : List Char) : Option (List Char) :=
  (String.fromUTF8? ⟨(percentDecode cs).toArray⟩).bind fun s => plainDomain? s.toList

def host? (cs : List Char) : Option Host :=
  match cs with
  | '[' :: r =>
    if r.getLast? = some ']' then (ipv6? r.dropLast).map .ipv6 else none
  | _ => do
    let name ← domain? cs
    if endsInNumber name then (ipv4? name).map .ipv4
    else some (.domain (String.ofList name))

end MarketFeed.Url
