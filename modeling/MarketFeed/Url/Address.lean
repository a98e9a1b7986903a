import MarketFeed.Url.Host

/-! Addresses of web services, up to the point where the path begins. -/

namespace MarketFeed.Url

inductive Scheme where
  | http
  | https
  | ws
  | wss
  deriving DecidableEq

namespace Scheme

def ofText? (s : List Char) : Option Scheme :=
  [("http", http), ("https", https), ("ws", ws), ("wss", wss)].lookup
    (String.ofList (s.map Char.toLower))

def isRequest : Scheme → Bool
  | http => true
  | https => true
  | _ => false

def isStream (s : Scheme) : Bool := !s.isRequest

end Scheme

structure Address where
  scheme : Scheme
  host : Host
  port : Option Nat
  deriving DecidableEq

def tidy (cs : List Char) : List Char :=
  let outer := fun c : Char => c.toNat ≤ 32
  let trimmed := ((cs.dropWhile outer).reverse.dropWhile outer).reverse
  trimmed.filter fun c => c != '\t' && c != '\n' && c != '\r'

def splitScheme (cs : List Char) : Option (List Char × List Char) :=
  let isSchemeChar := fun c : Char => c.isAlphanum || c = '+' || c = '-' || c = '.'
  match cs.takeWhile isSchemeChar, cs.dropWhile isSchemeChar with
  | c :: name, ':' :: rest => if c.isAlpha then some (c :: name, rest) else none
  | _, _ => none

def isSlash (c : Char) : Bool := c = '/' || c = '\\'

def endsAuthority (c : Char) : Bool := isSlash c || c = '?' || c = '#'

def dropUser (cs : List Char) : List Char :=
  (cs.reverse.takeWhile (· != '@')).reverse

def splitPort (inside : Bool) : List Char → List Char × Option (List Char)
  | [] => ([], none)
  | c :: r =>
    if c = ':' && !inside then ([], some r)
    else
      let (host, port) := splitPort (c = '[' || inside && c != ']') r
      (c :: host, port)

def port? : Option (List Char) → Option (Option Nat)
  | none => some none
  | some [] => some none
  | some cs =>
    let number := Text.digitsValue cs
    if cs.all Char.isDigit && number < UInt16.size then some (some number) else none

def Address.ofText? (s : String) : Option Address := do
  let (name, rest) ← splitScheme (tidy s.toList)
  let scheme ← Scheme.ofText? name
  let authority := (rest.dropWhile isSlash).takeWhile (!endsAuthority ·)
  let (hostText, portText) := splitPort false (dropUser authority)
  let host ← host? hostText
  let port ← port? portText
  some ⟨scheme, host, port⟩

end MarketFeed.Url
