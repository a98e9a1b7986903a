import MarketFeed.Text.Digits

/-! Labels written with ASCII letters, digits and hyphens alone. The plain characters of the label
come first. Behind the last hyphen follows a row of numbers: each says by how much the next
character exceeds the one before it and where it is put in. -/

namespace MarketFeed.Url.Punycode

def digit? (c : Char) : Option Nat :=
  if c.isLower then some (c.toNat - 'a'.toNat)
  else if c.isDigit then some (26 + Text.digitValue c)
  else none

def endBelow (place bias : Nat) : Nat := min 26 (max 1 (place - bias))

def number? (bias place weight sum : Nat) : List Char → Option (Nat × List Char)
  | [] => none
  | c :: r =>
    (digit? c).bind fun d =>
      let sum := sum + d * weight
      let next := weight * (36 - endBelow place bias)
      if UInt32.size ≤ sum then none
      else if d < endBelow place bias then some (sum, r)
      else if UInt32.size ≤ next then none
      else number? bias (place + 36) next sum r

theorem length_lt_of_number? {bias place weight sum n : Nat} {cs r : List Char}
    (h : number? bias place weight sum cs = some (n, r)) : r.length < cs.length := by
  induction cs generalizing place weight sum with
  | nil => simp [number?] at h
  | cons c cs ih =>
    rw [number?, Option.bind_eq_some_iff] at h
    obtain ⟨d, -, h⟩ := h
    dsimp only at h
    split at h
    · simp at h
    split at h
    · simp only [Option.some.injEq, Prod.mk.injEq] at h
      rw [← h.2]
      exact Nat.lt_succ_self _
    split at h
    · simp at h
    · exact Nat.lt_succ_of_lt (ih h)

def shrink (step bias : Nat) : Nat :=
  if 455 < step then shrink (step / 35) (bias + 36) else bias + 36 * step / (step + 38)
termination_by step

def biasAfter (step length : Nat) (first : Bool) : Nat :=
  let part := step / (if first then 700 else 2)
  shrink (part + part / length) 0

def insertAll (bias code index : Nat) (label cs : List Char) : Option (List Char) :=
  if cs.isEmpty then some label
  else
    match _h : number? bias 36 1 index cs with
    | none => none
    | some (n, r) =>
      let length := label.length + 1
      let code := code + n / length
      let place := n % length
      if code.isValidChar then
        insertAll (biasAfter (n - index) length (index == 0)) code (place + 1)
          (label.insertIdx place (Char.ofNat code)) r
      else none
termination_by cs.length
decreasing_by exact length_lt_of_number? _h

def decode (cs : List Char) : Option (List Char) :=
  let coded := (cs.reverse.takeWhile (· != '-')).reverse
  let plain := cs.take (cs.length - coded.length - 1)
  if plain.isEmpty && coded.length < cs.length then none else insertAll 72 128 0 plain coded

end MarketFeed.Url.Punycode
