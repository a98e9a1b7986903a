import MarketFeed.Text.Digits

/-! Decimal numbers that keep the fraction digits they were written with. -/

namespace MarketFeed

def Decimal.coeffBound : Nat := 0x1000000000000000000000000

/-- `magnitude / 10 ^ scale` with its sign, with at most 28 fraction digits. A zero may bear either
sign, which shows in its text but not in its value. -/
structure Decimal where
  negative : Bool
  magnitude : Nat
  scale : Nat
  magnitude_lt : magnitude < Decimal.coeffBound
  scale_le : scale ≤ 28
  deriving DecidableEq

namespace Decimal

def signed? (negative : Bool) (magnitude scale : Nat) : Option Decimal :=
  if h : magnitude < coeffBound ∧ scale ≤ 28 then some ⟨negative, magnitude, scale, h.1, h.2⟩
  else none

def of? (coeff : Int) (scale : Nat) : Option Decimal := signed? (coeff < 0) coeff.natAbs scale

def zero : Decimal := ⟨false, 0, 0, by decide, by decide⟩

instance : Inhabited Decimal := ⟨zero⟩

def coeff (d : Decimal) : Int := if d.negative then -(d.magnitude : Int) else d.magnitude

def tenPow (k : Nat) : Nat := Nat.pow 10 k

theorem tenPow_pos (k : Nat) : 0 < tenPow k := Nat.pow_pos (by decide)

def units (d : Decimal) : Int := d.coeff * tenPow (28 - d.scale)

def same (a b : Decimal) : Bool := a.units == b.units

def isZero (d : Decimal) : Bool := d.magnitude == 0

def neg (d : Decimal) : Decimal :=
  if d.isZero then d else { d with negative := !d.negative }

theorem natAbs_coeff (d : Decimal) : d.coeff.natAbs = d.magnitude := by
  unfold coeff
  split <;> omega

theorem isZero_iff {d : Decimal} : d.isZero = true ↔ d.units = 0 := by
  have h : (tenPow (28 - d.scale) : Int) ≠ 0 :=
    Int.ofNat_ne_zero.mpr (Nat.ne_of_gt (tenPow_pos _))
  rw [isZero, units, beq_iff_eq, Int.mul_eq_zero, or_iff_left h, ← natAbs_coeff, Int.natAbs_eq_zero]

theorem scale_neg (d : Decimal) : d.neg.scale = d.scale := by
  unfold neg
  split <;> rfl

theorem coeff_neg (d : Decimal) : d.neg.coeff = -d.coeff := by
  unfold neg isZero
  split
  · rename_i h
    simp [coeff, eq_of_beq h]
  · unfold coeff
    cases d.negative <;> simp

theorem signed?_isSome_iff {b : Bool} {m s : Nat} :
    (signed? b m s).isSome = true ↔ m < coeffBound ∧ s ≤ 28 := by
  unfold signed?
  split
  · rename_i h
    exact iff_of_true rfl h
  · rename_i h
    exact iff_of_false Bool.false_ne_true h

theorem of?_isSome_iff {c : Int} {s : Nat} :
    (of? c s).isSome = true ↔ c.natAbs < coeffBound ∧ s ≤ 28 :=
  signed?_isSome_iff

def stripFrom : Nat → Nat → Nat × Nat
  | 0, m => (m, 0)
  | s + 1, m => if m % 10 = 0 then stripFrom s (m / 10) else (m, s + 1)

theorem stripFrom_snd_le (s m : Nat) : (stripFrom s m).2 ≤ s := by
  induction s generalizing m with
  | zero => simp [stripFrom]
  | succ s ih =>
    unfold stripFrom
    split
    · exact Nat.le_succ_of_le (ih _)
    · exact Nat.le_refl _

theorem stripFrom_fst_le (s m : Nat) : (stripFrom s m).1 ≤ m := by
  induction s generalizing m with
  | zero => simp [stripFrom]
  | succ s ih =>
    unfold stripFrom
    split
    · exact Nat.le_trans (ih _) (Nat.div_le_self m 10)
    · exact Nat.le_refl _

def strip (d : Decimal) : Decimal where
  negative := d.negative && !d.isZero
  magnitude := (stripFrom d.scale d.magnitude).1
  scale := (stripFrom d.scale d.magnitude).2
  magnitude_lt := Nat.lt_of_le_of_lt (stripFrom_fst_le _ _) d.magnitude_lt
  scale_le := Nat.le_trans (stripFrom_snd_le _ _) d.scale_le

def text (d : Decimal) : String :=
  let digits := Nat.toDigits 10 d.magnitude
  let padded := List.replicate (d.scale + 1 - digits.length) '0' ++ digits
  let whole := padded.take (padded.length - d.scale)
  let fraction := padded.drop (padded.length - d.scale)
  String.ofList ((if d.negative then ['-'] else []) ++ whole ++
    if d.scale = 0 then [] else '.' :: fraction)

end Decimal

end MarketFeed
