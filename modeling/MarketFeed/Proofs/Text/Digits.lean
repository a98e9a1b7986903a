import Mathlib.Data.String.Basic
import Mathlib.Tactic.Lemma
import MarketFeed.Text.Digits

namespace MarketFeed.Text

variable {ds : List Char}

lemma isDigits_iff : isDigits ds = true ↔ ds ≠ [] ∧ ∀ c ∈ ds, c.isDigit = true := by
  simp [isDigits]

lemma head?_toDigits {n : Nat} (hn : n ≠ 0) : (Nat.toDigits 10 n).head? ≠ some '0' := by
  induction n using Nat.strongRecOn with
  | ind n ih =>
    rw [Nat.toDigits_eq_if (by decide)]
    split
    · simpa [Nat.digitChar_eq_zero] using hn
    · rename_i h
      rw [List.head?_append_of_ne_nil _ Nat.toDigits_ne_nil]
      exact ih (n / 10) (by omega) (by omega)

lemma isDigits_toDigits (n : Nat) : isDigits (Nat.toDigits 10 n) = true :=
  isDigits_iff.mpr ⟨Nat.toDigits_ne_nil, fun _ hc =>
    Nat.isDigit_of_mem_toDigits (by decide) (by decide) hc⟩

lemma digitsValue_toDigits (n : Nat) : digitsValue (Nat.toDigits 10 n) = n := by
  have h := Nat.ofDigitChars_ten_toDigits (n := n)
  rwa [Nat.ofDigitChars_eq_foldl] at h

lemma head?_ne_of_isDigits (hd : isDigits ds = true) {c : Char} (hc : c.isDigit = false) :
    ds.head? ≠ some c := by
  intro h
  obtain ⟨t, rfl⟩ := List.head?_eq_some_iff.mp h
  have hm := (isDigits_iff.mp hd).2 c List.mem_cons_self
  simp [hc] at hm

lemma exists_cons_of_isDigits (hd : isDigits ds = true) :
    ∃ c r, ds = c :: r ∧ c ≠ '-' ∧ c ≠ '+' := by
  obtain ⟨c, r, rfl⟩ := List.exists_cons_of_ne_nil (isDigits_iff.mp hd).1
  exact ⟨c, r, rfl, fun hc => head?_ne_of_isDigits hd rfl (congrArg some hc),
    fun hc => head?_ne_of_isDigits hd rfl (congrArg some hc)⟩

lemma natural?_of_isDigits (hd : isDigits ds = true) :
    natural? ds = some (digitsValue ds) := by
  rw [natural?.eq_def]
  split
  · exact absurd rfl (head?_ne_of_isDigits hd (c := '+') rfl)
  · exact if_pos hd

lemma integer?_of_isDigits (hd : isDigits ds = true) :
    integer? ds = some (digitsValue ds : Int) := by
  rw [integer?.eq_def]
  split
  · exact absurd rfl (head?_ne_of_isDigits hd (c := '-') rfl)
  · rw [natural?_of_isDigits hd]
    rfl

lemma toList_toString_nat (n : Nat) : (toString n).toList = Nat.toDigits 10 n := by
  rw [Nat.toString_eq_ofList_toDigits, String.toList_ofList]

lemma toList_toString_negSucc (m : Nat) :
    (toString (Int.negSucc m)).toList = '-' :: Nat.toDigits 10 (m + 1) := by
  change ("-" ++ toString (m + 1)).toList = _
  rw [String.toList_append, toList_toString_nat]
  rfl

lemma toString_ne_minus_zero (n : Int) : toString n ≠ "-0" := by
  intro h
  have hl := congrArg String.toList h
  cases n with
  | ofNat m =>
    change (toString m).toList = ['-', '0'] at hl
    rw [toList_toString_nat] at hl
    apply head?_ne_of_isDigits (isDigits_toDigits m) (c := '-') rfl
    rw [hl]
    rfl
  | negSucc m =>
    rw [toList_toString_negSucc] at hl
    apply head?_toDigits (Nat.succ_ne_zero m)
    rw [(List.cons.inj hl).2]
    rfl

lemma integer?_toString (n : Int) : integer? (toString n).toList = some n := by
  cases n with
  | ofNat m =>
    change integer? (toString m).toList = _
    rw [toList_toString_nat, integer?_of_isDigits (isDigits_toDigits m), digitsValue_toDigits]
    rfl
  | negSucc m =>
    rw [toList_toString_negSucc, integer?, if_pos (isDigits_toDigits _), digitsValue_toDigits]
    rfl

end MarketFeed.Text
