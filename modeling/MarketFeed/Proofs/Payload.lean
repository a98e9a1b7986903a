import Mathlib.Tactic.Lemma
import MarketFeed.Payload

namespace MarketFeed.Json

variable {v : Json} {s name : String} {read : String → Option Decimal}

lemma decimalBy_of_text (hs : v.numberText? = some s) :
    decimalBy read name v = (read s).elim (.error (.decimal name s)) .ok := by
  rw [decimalBy, hs]
  cases h : read s <;> simp [h]

lemma decimalBy_eq_ok_iff {d : Decimal} :
    decimalBy read name v = .ok d ↔ ∃ s, v.numberText? = some s ∧ read s = some d := by
  cases hs : v.numberText? with
  | none => simp [decimalBy, hs, invalid]
  | some s =>
    rw [decimalBy_of_text hs]
    cases h : read s <;> simp [h]

lemma cause_of_decimalBy {cause : ReadError} (hs : v.numberText? = some s)
    (h : decimalBy read name v = .error cause) : cause = .decimal name s := by
  rw [decimalBy_of_text hs] at h
  cases hread : read s with
  | none =>
    rw [hread] at h
    exact (Except.error.inj h).symm
  | some d =>
    rw [hread] at h
    cases h

end MarketFeed.Json
