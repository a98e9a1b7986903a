import Mathlib.Tactic.Linarith
import MarketFeed.Proofs.Decimal.Rounding
import MarketFeed.Proofs.Decimal.Value

namespace MarketFeed.Decimal

open Text

variable {a b d : Decimal} {x y : ℚ} {s m : Nat}

def FitsAt (x : ℚ) (scale : Nat) : Prop := ∃ n : ℤ, n.natAbs < coeffBound ∧ x = n / 10 ^ scale

lemma FitsAt.held (h : FitsAt x s) (hs : s ≤ 28) : Held x := by
  obtain ⟨n, hn, rfl⟩ := h
  obtain ⟨d, hd⟩ := Option.isSome_iff_exists.mp (of?_isSome_iff.mpr ⟨hn, hs⟩)
  exact ⟨d, value_of_of? hd⟩

lemma value_eq_coeffAt (h : d.scale ≤ s) : d.value = d.coeffAt s / 10 ^ s := by
  rw [value, coeffAt, Int.cast_mul, Int.cast_natCast, cast_tenPow,
    div_eq_div_iff (by positivity) (by positivity), mul_assoc, ← pow_add, Nat.sub_add_cancel h]

lemma value_dropZeroSign (d : Decimal) : d.dropZeroSign.value = d.value := by
  by_cases hz : d.magnitude = 0
  · rw [value_eq_zero_iff.mpr hz]
    exact value_eq_zero_iff.mpr hz
  · have hn : d.dropZeroSign.negative = d.negative := by simp [dropZeroSign, isZero, hz]
    rw [value_eq_signed, value_eq_signed, hn]
    rfl

section Sums

lemma roundHalfEven_one (n : Nat) : roundHalfEven n 1 = n := by
  simp [roundHalfEven, Nat.mod_one]

lemma fit_eq_of_lt {negative : Bool} (hm : m < coeffBound) (hs : s ≤ 28) :
    fit negative m s = signed? negative m s := by
  obtain ⟨d, hd⟩ := Option.isSome_iff_exists.mp (signed?_isSome_iff (b := negative).mpr ⟨hm, hs⟩)
  rw [fit, List.range_succ_eq_map, List.findSome?_cons, show tenPow 0 = 1 from rfl,
    roundHalfEven_one, Nat.sub_zero, hd]

lemma exists_add (h : FitsAt (a.value + b.value) (max a.scale b.scale)) :
    ∃ c, a.add b = some c ∧ c.value = a.value + b.value ∧ c.scale ≤ max a.scale b.scale := by
  by_cases ha : a.isZero = true
  · refine ⟨b, by rw [add, if_pos ha], ?_, Nat.le_max_right _ _⟩
    rw [value_eq_zero_iff.mpr (beq_iff_eq.mp ha), zero_add]
  by_cases hb : b.isZero = true
  · refine ⟨a, by rw [add, if_neg ha, if_pos hb], ?_, Nat.le_max_left _ _⟩
    rw [value_eq_zero_iff.mpr (beq_iff_eq.mp hb), add_zero]
  have hs : max a.scale b.scale ≤ 28 := Nat.max_le.mpr ⟨a.scale_le, b.scale_le⟩
  have hadd : a.add b = fit (a.coeffAt (max a.scale b.scale) + b.coeffAt (max a.scale b.scale) < 0)
      (a.coeffAt (max a.scale b.scale) + b.coeffAt (max a.scale b.scale)).natAbs
        (max a.scale b.scale) := by
    rw [add, if_neg ha, if_neg hb]
  obtain ⟨n, hn, hsum⟩ := h
  rw [value_eq_coeffAt (Nat.le_max_left _ _), value_eq_coeffAt (Nat.le_max_right a.scale b.scale),
    ← add_div, div_left_inj' (by positivity)] at hsum
  have hcoeff : a.coeffAt (max a.scale b.scale) + b.coeffAt (max a.scale b.scale) = n := by
    exact_mod_cast hsum
  rw [hadd, hcoeff, fit_eq_of_lt hn hs]
  obtain ⟨c, hc⟩ := Option.isSome_iff_exists.mp (of?_isSome_iff.mpr ⟨hn, hs⟩)
  refine ⟨c, hc, ?_, ?_⟩
  · rw [value_of_of? hc, ← hsum, value_eq_coeffAt (Nat.le_max_left _ _),
      value_eq_coeffAt (Nat.le_max_right a.scale b.scale), add_div]
  · obtain ⟨_, hd⟩ := Option.dite_none_right_eq_some.mp hc
    cases hd
    exact le_rfl

lemma exists_sub (h : FitsAt (a.value - b.value) (max a.scale b.scale)) :
    ∃ d, a.sub b = some d ∧ d.value = a.value - b.value := by
  rw [sub_eq_add_neg, ← value_neg, ← scale_neg b] at h
  obtain ⟨d, hd, hvalue, _⟩ := exists_add h
  exact ⟨d, hd, by rw [hvalue, value_neg, sub_eq_add_neg]⟩

end Sums

section Trims

def Trims (a b : Nat × Nat) : Prop := b.2 ≤ a.2 ∧ b.1 * 10 ^ (a.2 - b.2) = a.1

variable {p q r : Nat × Nat}

lemma Trims.refl (p : Nat × Nat) : Trims p p := by
  refine ⟨le_rfl, ?_⟩
  rw [Nat.sub_self, pow_zero, mul_one]

lemma Trims.trans (h : Trims p q) (h' : Trims q r) : Trims p r := by
  refine ⟨h'.1.trans h.1, ?_⟩
  rw [← h.2, ← h'.2, mul_assoc, ← pow_add]
  congr 2
  have hq := h'.1
  have hp := h.1
  omega

lemma trims_drop {k : Nat} (hk : k ≤ s) (hm : m % 10 ^ k = 0) :
    Trims (m, s) (m / 10 ^ k, s - k) := by
  refine ⟨Nat.sub_le s k, ?_⟩
  change m / 10 ^ k * 10 ^ (s - (s - k)) = m
  rw [Nat.sub_sub_self hk]
  exact Nat.div_mul_cancel (Nat.dvd_of_mod_eq_zero hm)

lemma trims_dropIf (k : Nat) (p : Nat × Nat) :
    Trims p (if k ≤ p.2 && p.1 % 10 ^ k == 0 then (p.1 / 10 ^ k, p.2 - k) else p) := by
  split
  · rename_i h
    rw [Bool.and_eq_true, decide_eq_true_eq, beq_iff_eq] at h
    exact trims_drop h.1 h.2
  · exact .refl p

lemma trims_eights (k m s : Nat) : Trims (m, s) (thin.eights k m s) := by
  induction k generalizing m s with
  | zero => exact .refl _
  | succ k ih =>
    rw [thin.eights]
    split
    · rename_i h
      simp only [Bool.and_eq_true, decide_eq_true_eq, beq_iff_eq] at h
      exact (trims_drop (k := 8) h.1.2 h.2).trans (ih _ _)
    · exact .refl _

lemma trims_thin (m s : Nat) : Trims (m, s) (thin m s) :=
  (trims_eights 4 m s).trans
    ((trims_dropIf 4 _).trans ((trims_dropIf 2 _).trans (trims_dropIf 1 _)))

lemma Trims.fst_le (h : Trims p q) : q.1 ≤ p.1 := by
  rw [← h.2]
  exact Nat.le_mul_of_pos_right _ (by positivity)

lemma Trims.value_eq (h : Trims p q) : (q.1 / 10 ^ q.2 : ℚ) = p.1 / 10 ^ p.2 := by
  rw [← h.2, Nat.cast_mul, Nat.cast_pow, Nat.cast_ofNat,
    div_eq_div_iff (by positivity) (by positivity), mul_assoc, ← pow_add, Nat.sub_add_cancel h.1]

end Trims

section Halves

lemma getLastD_filter_range (n : Nat) (fits : Nat → Bool) :
    let last := ((List.range (n + 1)).filter fits).getLastD 0
    (last = 0 ∨ last ≤ n ∧ fits last = true) ∧ ∀ k ≤ n, fits k = true → k ≤ last := by
  intro last
  have hmem : ∀ k, k ∈ (List.range (n + 1)).filter fits ↔ k ≤ n ∧ fits k = true := fun k => by
    rw [List.mem_filter, List.mem_range, Nat.lt_succ_iff]
  have hsorted : ((List.range (n + 1)).filter fits).Pairwise (· ≤ ·) :=
    (List.pairwise_lt_range.imp fun h => h.le).filter _
  by_cases hne : (List.range (n + 1)).filter fits = []
  · have hlast : last = 0 := by
      change ((List.range (n + 1)).filter fits).getLastD 0 = 0
      rw [hne, List.getLastD_nil]
    refine ⟨Or.inl hlast, fun k hk hf => ?_⟩
    have hk' := (hmem k).mpr ⟨hk, hf⟩
    rw [hne] at hk'
    exact absurd hk' List.not_mem_nil
  · have hlast : last = ((List.range (n + 1)).filter fits).getLast hne := by
      change ((List.range (n + 1)).filter fits).getLastD 0 = _
      rw [List.getLastD_eq_getLast?, List.getLast?_eq_some_getLast hne, Option.getD_some]
    rw [hlast]
    exact ⟨Or.inr ((hmem _).mp (List.getLast_mem hne)), fun k hk hf =>
      hsorted.rel_getLast ((hmem k).mpr ⟨hk, hf⟩)⟩

def HalfFits (m s : Nat) : Prop := m % 2 = 0 ∨ s < 28 ∧ 5 * m < coeffBound

lemma not_halfFits_iff : ¬ HalfFits m s ↔ m % 2 = 1 ∧ (s < 28 → coeffBound ≤ 5 * m) := by
  rw [HalfFits]
  omega

lemma halfFits_of_held (h : Held (m / 10 ^ s / 2 : ℚ)) : HalfFits m s := by
  obtain ⟨n, t, hn, ht, hx⟩ := exists_magnitude_of_held h (by positivity)
  rw [div_div, div_eq_div_iff (by positivity) (by positivity)] at hx
  have heq : m * 10 ^ t = n * (10 ^ s * 2) := by exact_mod_cast hx
  rcases Nat.lt_or_ge s t with hlt | hle
  · -- a place behind the last one of an odd magnitude holds the five
    right
    obtain ⟨u, rfl⟩ := Nat.exists_eq_add_of_lt hlt
    have hsplit : 10 ^ (s + u + 1) = 10 ^ s * 2 * (5 * 10 ^ u) := by
      rw [pow_succ, pow_add]
      ring
    rw [hsplit] at heq
    have hfive : 5 * m * 10 ^ u = n := by
      refine Nat.eq_of_mul_eq_mul_right (show 0 < 10 ^ s * 2 by positivity) ?_
      rw [← heq]
      ring
    have hle : 5 * m ≤ n := hfive ▸ Nat.le_mul_of_pos_right _ (by positivity)
    omega
  · left
    obtain ⟨u, rfl⟩ := Nat.exists_eq_add_of_le hle
    have htwo : m = 2 * (n * 10 ^ u) := by
      refine Nat.eq_of_mul_eq_mul_right (show 0 < 10 ^ t by positivity) ?_
      rw [heq, pow_add]
      ring
    omega

lemma five_mul_tenPow_succ (p : Nat) : 5 * tenPow (p + 1) / 10 = 5 * tenPow p := by
  rw [show 5 * tenPow (p + 1) = 5 * tenPow p * 10 from (Nat.mul_assoc 5 (tenPow p) 10).symm]
  exact Nat.mul_div_cancel _ (by decide)

lemma halfParts_cases (hodd : m % 2 = 1) (hs : s ≤ 28) :
    ¬ HalfFits m s ∧ halfParts m s = thin (if m / 2 % 2 == 1 then m / 2 + 1 else m / 2) s ∨
      ∃ p, s + p + 1 ≤ 28 ∧ m / 2 * tenPow (p + 1) + 5 * tenPow p < coeffBound ∧
        halfParts m s = thin (m / 2 * tenPow (p + 1) + 5 * tenPow p) (s + p + 1) := by
  let fits := fun p => decide (m / 2 * tenPow p + 5 * tenPow p / 10 < coeffBound)
  obtain ⟨hlast, hmax⟩ := getLastD_filter_range (min 9 (28 - s)) fits
  rw [halfParts, if_neg (by simp [hodd])]
  dsimp only
  split
  · rename_i hp
    change ((List.range (min 9 (28 - s) + 1)).filter fits).getLastD 0 = 0 at hp
    refine Or.inl ⟨not_halfFits_iff.mpr ⟨hodd, fun hlt => ?_⟩, rfl⟩
    by_contra hsmall
    have hone : fits 1 = true := by
      rw [decide_eq_true_iff, five_mul_tenPow_succ 0]
      change m / 2 * 10 + 5 * 1 < _
      omega
    exact absurd (hp ▸ hmax 1 (by omega) hone) (by decide)
  · rename_i p hp
    change ((List.range (min 9 (28 - s) + 1)).filter fits).getLastD 0 = p + 1 at hp
    rw [hp] at hlast
    obtain ⟨hle, hfits⟩ := hlast.resolve_left (Nat.succ_ne_zero p)
    rw [decide_eq_true_iff, five_mul_tenPow_succ] at hfits
    exact Or.inr ⟨p, by omega, hfits, rfl⟩

lemma exists_trims_halfParts (hm : m < coeffBound) (hs : s ≤ 28) :
    ∃ k t, k < coeffBound ∧ t ≤ 28 ∧ Trims (k, t) (halfParts m s) ∧
      (2 * k * 10 ^ s = m * 10 ^ t ∨
        ¬ HalfFits m s ∧ t = s ∧ k % 2 = 0 ∧ (2 * k = m + 1 ∨ 2 * k + 1 = m)) := by
  rcases Nat.mod_two_eq_zero_or_one m with heven | hodd
  · refine ⟨m / 2, s, by omega, hs, ?_, Or.inl ?_⟩
    · rw [halfParts, if_pos (beq_iff_eq.mpr heven)]
      exact .refl _
    · rw [Nat.mul_div_cancel' (Nat.dvd_of_mod_eq_zero heven)]
  · rcases halfParts_cases hodd hs with ⟨hroom, hparts⟩ | ⟨p, hle, hfits, hparts⟩
    · rw [hparts]
      refine ⟨_, s, ?_, hs, trims_thin _ _, Or.inr ⟨hroom, rfl, ?_⟩⟩
      · rw [coeffBound] at hm ⊢
        split <;> omega
      · simp only [beq_iff_eq]
        split <;> omega
    · rw [hparts]
      refine ⟨_, s + p + 1, hfits, hle, trims_thin _ _, Or.inl ?_⟩
      have hhalf : m = 2 * (m / 2) + 1 := by omega
      rw [show tenPow (p + 1) = 10 * 10 ^ p from pow_succ' 10 p, show tenPow p = 10 ^ p from rfl,
        pow_succ, pow_add]
      nth_rewrite 2 [hhalf]
      ring

lemma half_value_eq_signed (d : Decimal) :
    d.value / 2 = signed d.negative (d.magnitude / 10 ^ d.scale / 2 : ℚ) := by
  rw [value_eq_signed]
  cases d.negative
  · rfl
  · exact neg_div _ _

lemma exists_half_of_trims {k t : Nat} (hd : d.isZero = false) (hk : k < coeffBound) (ht : t ≤ 28)
    (h : Trims (k, t) (halfParts d.magnitude d.scale)) :
    ∃ c, d.half = some c ∧ c.value = signed d.negative (k / 10 ^ t : ℚ) := by
  have hm : (halfParts d.magnitude d.scale).1 < coeffBound := h.fst_le.trans_lt hk
  have hs : (halfParts d.magnitude d.scale).2 ≤ 28 := h.1.trans ht
  obtain ⟨c, hc⟩ := Option.isSome_iff_exists.mp
    (signed?_isSome_iff (b := d.negative).mpr ⟨hm, hs⟩)
  refine ⟨c.dropZeroSign, ?_, ?_⟩
  · rw [half, if_neg (by simp [hd])]
    exact congrArg (Option.map dropZeroSign) hc
  · rw [value_dropZeroSign, value_of_signed? hc, h.value_eq]

lemma exists_even_next {k : Nat} (d : Decimal) (heven : k % 2 = 0)
    (hnext : 2 * k = d.magnitude + 1 ∨ 2 * k + 1 = d.magnitude) :
    ∃ n : ℤ, Even n ∧ (2 * n = d.coeff + 1 ∨ 2 * n = d.coeff - 1) ∧
      signed d.negative (k / 10 ^ s : ℚ) = n / 10 ^ s := by
  have hk : Even (k : ℤ) := (Int.even_coe_nat k).mpr (Nat.even_iff.mpr heven)
  rw [coeff_eq_signed]
  cases d.negative with
  | false =>
    refine ⟨k, hk, ?_, rfl⟩
    change 2 * (k : ℤ) = d.magnitude + 1 ∨ 2 * (k : ℤ) = d.magnitude - 1
    omega
  | true =>
    refine ⟨-k, hk.neg, ?_, ?_⟩
    · change 2 * -(k : ℤ) = -d.magnitude + 1 ∨ 2 * -(k : ℤ) = -d.magnitude - 1
      omega
    · rw [Int.cast_neg]
      exact (neg_div _ _).symm

lemma exists_half (d : Decimal) :
    ∃ c, d.half = some c ∧ (Held (d.value / 2) → c.value = d.value / 2) ∧
      (¬ Held (d.value / 2) → ∃ n : ℤ, Even n ∧ (2 * n = d.coeff + 1 ∨ 2 * n = d.coeff - 1) ∧
        c.value = n / 10 ^ d.scale) := by
  cases hd : d.isZero with
  | true =>
    have hzero : d.value / 2 = zero.value := by
      rw [value_eq_zero_iff.mpr (beq_iff_eq.mp hd), zero_div]
      exact (value_eq_zero_iff.mpr rfl).symm
    exact ⟨zero, by rw [half, if_pos hd], fun _ => hzero.symm,
      fun hn => absurd ⟨zero, hzero.symm⟩ hn⟩
  | false =>
    obtain ⟨k, t, hk, ht, htrims, hparts⟩ := exists_trims_halfParts d.magnitude_lt d.scale_le
    obtain ⟨c, hc, hvalue⟩ := exists_half_of_trims hd hk ht htrims
    refine ⟨c, hc, ?_⟩
    rcases hparts with hexact | ⟨hroom, rfl, heven, hnext⟩
    · have hq : (k / 10 ^ t : ℚ) = d.magnitude / 10 ^ d.scale / 2 := by
        rw [div_div, div_eq_div_iff (by positivity) (by positivity)]
        have hcast : (2 * k * 10 ^ d.scale : ℚ) = d.magnitude * 10 ^ t := by exact_mod_cast hexact
        rw [← hcast]
        ring
      rw [hq, ← half_value_eq_signed] at hvalue
      exact ⟨fun _ => hvalue, fun hn => absurd ⟨c, hvalue⟩ hn⟩
    · have hheld : ¬ Held (d.value / 2) := by
        rw [half_value_eq_signed, held_signed_iff]
        exact mt halfFits_of_held hroom
      refine ⟨fun h => absurd h hheld, fun _ => ?_⟩
      rw [hvalue]
      exact exists_even_next d heven hnext

lemma held_half_of_scale_lt (h : FitsAt d.value s) (hs : s ≤ 28) (hlt : d.scale < s) :
    Held (d.value / 2) := by
  obtain ⟨u, rfl⟩ := Nat.exists_eq_add_of_lt hlt
  obtain ⟨n, hn, hvalue⟩ := h
  have htwo : n = 2 * (d.coeff * 5 * 10 ^ u) := by
    have hn := value_eq_coeffAt (d := d) hlt.le
    rw [hvalue, div_left_inj' (by positivity)] at hn
    have hcoeff : n = d.coeffAt (d.scale + u + 1) := by exact_mod_cast hn
    rw [hcoeff, coeffAt, show d.scale + u + 1 - d.scale = u + 1 by omega,
      show tenPow (u + 1) = 10 ^ u * 10 from pow_succ 10 u]
    push_cast
    ring
  refine FitsAt.held ⟨d.coeff * 5 * 10 ^ u, by omega, ?_⟩ hs
  rw [hvalue, htwo]
  push_cast
  ring

end Halves

variable {n : ℤ}

lemma between_of_next (hs : max a.scale b.scale ≤ s) (hle : a.value ≤ b.value)
    (hn : 2 * n = a.coeffAt s + b.coeffAt s + 1 ∨ 2 * n = a.coeffAt s + b.coeffAt s - 1)
    (hx : x = n / 10 ^ s) :
    a.value ≤ x ∧ x ≤ b.value ∧ |x - (a.value + b.value) / 2| = 1 / 10 ^ s / 2 := by
  have hunit : (0 : ℚ) < 10 ^ s := by positivity
  rw [value_eq_coeffAt ((Nat.le_max_left _ _).trans hs),
    value_eq_coeffAt ((Nat.le_max_right a.scale b.scale).trans hs)] at hle ⊢
  have hcoeff : a.coeffAt s ≤ b.coeffAt s := by
    exact_mod_cast (div_le_div_iff_of_pos_right hunit).mp hle
  refine ⟨?_, ?_, ?_⟩
  · rw [hx, div_le_div_iff_of_pos_right hunit]
    exact_mod_cast (show a.coeffAt s ≤ n by omega)
  · rw [hx, div_le_div_iff_of_pos_right hunit]
    exact_mod_cast (show n ≤ b.coeffAt s by omega)
  · have hhalf : (0 : ℚ) ≤ 1 / 10 ^ s / 2 := by positivity
    rw [hx]
    generalize a.coeffAt s = p at hn
    generalize b.coeffAt s = q at hn
    rcases hn with hn | hn
    · have hq : (n : ℚ) = (p + q + 1) / 2 := by
        rw [eq_div_iff two_ne_zero, mul_comm]
        exact_mod_cast hn
      rw [hq, ← abs_of_nonneg hhalf]
      congr 1
      ring
    · have hq : (n : ℚ) = (p + q - 1) / 2 := by
        rw [eq_div_iff two_ne_zero, mul_comm]
        exact_mod_cast hn
      rw [hq, ← abs_of_nonneg hhalf, ← abs_neg]
      congr 1
      ring

lemma exists_midpoint (hle : a.value ≤ b.value)
    (hsum : FitsAt (a.value + b.value) (max a.scale b.scale)) :
    ∃ m, a.midpoint b = some m ∧ a.value ≤ m.value ∧ m.value ≤ b.value ∧
      (Held ((a.value + b.value) / 2) → m.value = (a.value + b.value) / 2) ∧
      (¬ Held ((a.value + b.value) / 2) →
        |m.value - (a.value + b.value) / 2| = 1 / 10 ^ max a.scale b.scale / 2 ∧
          ∃ n : ℤ, Even n ∧ m.value = n / 10 ^ max a.scale b.scale) := by
  obtain ⟨c, hadd, hc, hscale⟩ := exists_add hsum
  obtain ⟨m, hm, hexact, hround⟩ := exists_half c
  have hs : max a.scale b.scale ≤ 28 := Nat.max_le.mpr ⟨a.scale_le, b.scale_le⟩
  rw [hc] at hexact hround
  refine ⟨m, by rw [midpoint, hadd]; exact hm, ?_⟩
  by_cases hheld : Held ((a.value + b.value) / 2)
  · rw [hexact hheld]
    exact ⟨by linarith, by linarith, fun _ => rfl, fun hn => absurd hheld hn⟩
  · have hfull : c.scale = max a.scale b.scale := by
      refine hscale.antisymm (not_lt.mp fun hlt => hheld ?_)
      rw [← hc] at hsum ⊢
      exact held_half_of_scale_lt hsum hs hlt
    have hcoeff : c.coeff = a.coeffAt c.scale + b.coeffAt c.scale := by
      have hvalue := hc
      rw [value_eq_coeffAt (d := a) (hfull ▸ Nat.le_max_left _ _),
        value_eq_coeffAt (d := b) (hfull ▸ Nat.le_max_right _ _), value, ← add_div,
        div_left_inj' (by positivity)] at hvalue
      exact_mod_cast hvalue
    obtain ⟨n, heven, hnext, hvalue⟩ := hround hheld
    rw [hcoeff] at hnext
    obtain ⟨hbid, hask, hdist⟩ := between_of_next hfull.ge hle hnext hvalue
    rw [hfull] at hdist hvalue
    exact ⟨hbid, hask, fun h => absurd h hheld, fun _ => ⟨hdist, n, heven, hvalue⟩⟩

end MarketFeed.Decimal
