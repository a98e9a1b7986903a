import MarketFeed.Json.Basic

/-! JSON text without blanks. -/

namespace MarketFeed.Json

def hexDigit (n : Nat) : Char := "0123456789abcdef".toList.getD n '0'

def escapeChar (c : Char) : List Char :=
  if c = '"' then ['\\', '"']
  else if c = '\\' then ['\\', '\\']
  else if c = '\x08' then ['\\', 'b']
  else if c = '\x0c' then ['\\', 'f']
  else if c = '\n' then ['\\', 'n']
  else if c = '\r' then ['\\', 'r']
  else if c = '\t' then ['\\', 't']
  else if c.toNat < 32 then ['\\', 'u', '0', '0', hexDigit (c.toNat / 16), hexDigit (c.toNat % 16)]
  else [c]

def quoted (s : String) : List Char := '"' :: s.toList.flatMap escapeChar ++ ['"']

mutual

def print : Json → List Char
  | .null => "null".toList
  | .bool true => "true".toList
  | .bool false => "false".toList
  | .num literal => literal.toList
  | .str s => quoted s
  | .arr items => '[' :: printItems items ++ [']']
  | .obj members => '\x7b' :: printMembers members ++ ['\x7d']
  | .refused => []

def printItems : List Json → List Char
  | [] => []
  | [v] => print v
  | v :: r => print v ++ ',' :: printItems r

def printMembers : List (String × Json) → List Char
  | [] => []
  | [(n, v)] => quoted n ++ ':' :: print v
  | (n, v) :: r => quoted n ++ ':' :: print v ++ ',' :: printMembers r

end

def compact (v : Json) : String := String.ofList (print v)

end MarketFeed.Json
