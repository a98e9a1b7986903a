import Mathlib.Tactic.FieldSimp
import MarketFeed.Proofs.Decimal.Plain

namespace MarketFeed.Decimal

open Text

variable {s t : Scan} {cs r front rest base ds : List Char} {c mark : Char} {d b : Decimal}
  {p : Bool} {k : Nat}

def Scan.number (s : Scan) : ℚ := s.value / 10 ^ s.scale

def Scan.IsFull (s : Scan) (rest : List Char) : Prop :=
  s.fraction = some 28 ∨ ∃ c r, rest = c :: r ∧ c.isDigit = true ∧ s.fraction.isSome = true ∧
    coeffBound ≤ (s.digit c).value

def IsRest (cs : List Char) : Prop := ∀ c ∈ cs, c.isDigit = true ∨ c = '_'

lemma Scan.of_roundAt (h : s.roundAt rest = some t) :
    IsRest rest ∧ (digitsValue (digitsOf rest) = 0 → t = s) := by
  cases rest with
  | nil =>
    cases h
    exact ⟨by simp [IsRest], fun _ => rfl⟩
  | cons c r =>
    obtain ⟨hall, h⟩ := Option.ite_none_right_eq_some.mp h
    have hr : IsRest r := by simpa [IsRest, isSeparator] using hall
    split at h
    · rename_i hd
      refine ⟨List.forall_mem_cons.mpr ⟨Or.inl hd, hr⟩, fun hzero => ?_⟩
      rw [digitsOf_cons_digit hd, digitsValue_cons] at hzero
      have hc : digitValue c = 0 := by simpa using (Nat.add_eq_zero_iff.mp hzero).1
      rw [hc, if_neg (by decide)] at h
      exact (Option.some.inj h).symm
    · obtain ⟨hs, h⟩ := Option.ite_none_right_eq_some.mp h
      have hc : c = '_' := by simpa [isSeparator] using hs
      exact ⟨List.forall_mem_cons.mpr ⟨Or.inr hc, hr⟩, fun _ => (Option.some.inj h).symm⟩

lemma digitsOf_dropWhile_separators (cs : List Char) :
    digitsOf (cs.dropWhile isSeparator) = digitsOf cs := by
  induction cs with
  | nil => rfl
  | cons c r ih =>
    rw [List.dropWhile_cons]
    split
    · rename_i hs
      obtain rfl : c = '_' := by simpa [isSeparator] using hs
      exact ih
    · rfl

lemma IsRest.of_dropWhile (h : IsRest (cs.dropWhile isSeparator)) : IsRest cs := by
  intro c hc
  rw [← List.takeWhile_append_dropWhile (p := isSeparator) (l := cs)] at hc
  rcases List.mem_append.mp hc with hc | hc
  · have hs := List.all_eq_true.mp List.all_takeWhile c hc
    exact Or.inr (by simpa [isSeparator] using hs)
  · exact h c hc

lemma Scan.of_finish (h : s.finish rest = some t) :
    IsRest rest ∧ (digitsValue (digitsOf rest) = 0 → t = s) := by
  rw [finish] at h
  split at h
  · exact of_roundAt h
  · obtain ⟨hrest, ht⟩ := of_roundAt h
    rw [digitsOf_dropWhile_separators] at ht
    exact ⟨hrest.of_dropWhile, ht⟩

lemma Scan.continues_of_isRest (h : IsRest cs) (hs : s.seen = true) : s.Continues cs := by
  refine continues_iff.mpr ⟨fun c hc => ?_, ?_, Or.inl hs⟩
  · rcases h c hc with hd | hs
    · exact Or.inl hd
    · exact Or.inr (Or.inr hs)
  · have hp : '.' ∉ cs := by
      intro hmem
      rcases h '.' hmem with hd | hs
      · simp at hd
      · simp at hs
    rw [List.count_eq_zero_of_not_mem hp]
    exact Nat.zero_le _

/-- All characters are passed, or the last of them stand where there is no room. If the digits
among those are zeros, nothing is changed by leaving them out. -/
def Scan.RoundsTo (s : Scan) (cs : List Char) (t : Scan) : Prop :=
  s.Continues cs ∧ (t = s.passes cs ∨ (s.passes cs).seen = true ∧ ∃ front rest,
    cs = front ++ rest ∧ (s.passes front).IsFull rest ∧ IsRest rest ∧
      (digitsValue (digitsOf rest) = 0 → t = s.passes front))

lemma Scan.RoundsTo.cons
    (hc : c.isDigit = true ∨ c = '.' ∧ s.fraction = none ∨ c = '_' ∧ s.seen = true)
    (h : (s.pass c).RoundsTo r t) : s.RoundsTo (c :: r) t := by
  obtain ⟨hr, ht | ⟨hseen, front, rest, rfl, hfull, hrest, ht⟩⟩ := h
  · exact ⟨⟨hc, hr⟩, Or.inl ht⟩
  · exact ⟨⟨hc, hr⟩, Or.inr ⟨hseen, c :: front, rest, rfl, hfull, hrest, ht⟩⟩

lemma Scan.RoundsTo.of_isFull (hc : s.Continues cs) (hseen : (s.passes cs).seen = true)
    (hfull : s.IsFull cs) (hrest : IsRest cs) (ht : digitsValue (digitsOf cs) = 0 → t = s) :
    s.RoundsTo cs t := ⟨hc, Or.inr ⟨hseen, [], cs, rfl, hfull, hrest, ht⟩⟩

lemma roundsTo_of_scanRounded (hs : ∀ k, s.fraction = some (k + 1) → s.seen = true)
    (h : scanRounded s cs = some t) : s.RoundsTo cs t := by
  induction cs generalizing s with
  | nil =>
    cases h
    exact ⟨trivial, Or.inl rfl⟩
  | cons c r ih =>
    rw [scanRounded] at h
    by_cases hf : s.fraction = some 28
    · rw [if_pos hf] at h
      obtain ⟨hrest, ht⟩ := Scan.of_finish h
      have hc := Scan.continues_of_isRest hrest (hs 27 hf)
      have hseen := (Scan.seen_passes_iff hc).mpr (Or.inl (hs 27 hf))
      exact .of_isFull hc hseen (Or.inl hf) hrest ht
    rw [if_neg hf] at h
    by_cases hd : c.isDigit = true
    · rw [if_pos hd] at h
      by_cases hlt : (s.digit c).value < coeffBound
      · rw [if_pos hlt] at h
        refine .cons (Or.inl hd) ?_
        rw [Scan.pass_digit hd]
        exact ih (fun _ _ => rfl) h
      · rw [if_neg hlt] at h
        obtain ⟨hsome, h⟩ := Option.ite_none_right_eq_some.mp h
        obtain ⟨hrest, ht⟩ := Scan.of_roundAt h
        have hc : s.Continues (c :: r) := by
          refine ⟨Or.inl hd, Scan.continues_of_isRest (List.forall_mem_cons.mp hrest).2 ?_⟩
          rw [Scan.pass_digit hd]
          rfl
        have hseen := (Scan.seen_passes_iff hc).mpr (Or.inr ⟨c, List.mem_cons_self, hd⟩)
        have hfull : s.IsFull (c :: r) := Or.inr ⟨c, r, rfl, hd, hsome, not_lt.mp hlt⟩
        exact .of_isFull hc hseen hfull hrest ht
    rw [if_neg hd] at h
    split at h
    · rename_i hp
      obtain ⟨rfl, hn⟩ : c = '.' ∧ s.fraction = none := by simpa using hp
      exact .cons (Or.inr (Or.inl ⟨rfl, hn⟩)) (ih (by rintro k ⟨⟩) h)
    rename_i hp
    by_cases hsep : (isSeparator c && s.seen) = true
    · rw [if_pos hsep] at h
      obtain ⟨rfl, hseen⟩ : c = '_' ∧ s.seen = true := by simpa [isSeparator] using hsep
      exact .cons (Or.inr (Or.inr ⟨rfl, hseen⟩)) (ih hs h)
    · rw [if_neg hsep] at h
      cases h

lemma number_passes (h : s.Continues rest) (hf : s.fraction = some k) :
    (s.passes rest).number =
      (s.value * 10 ^ (digitsOf rest).length + digitsValue (digitsOf rest) : ℕ) /
        10 ^ (k + (digitsOf rest).length) := by
  have hscale : (s.passes rest).scale = k + (digitsOf rest).length := by
    rw [Scan.scale, Scan.fraction_passes h, hf]
    rfl
  have hvalue := Scan.value_passes h
  rw [withDigits, foldl_digits] at hvalue
  rw [Scan.number, hvalue, hscale]

lemma number_passes_of_zeros (h : s.Continues rest) (hf : s.fraction = some k)
    (hz : digitsValue (digitsOf rest) = 0) : (s.passes rest).number = s.number := by
  have hscale : s.scale = k := by rw [Scan.scale, hf]; rfl
  rw [number_passes h hf, hz, Nat.add_zero, Nat.cast_mul, Nat.cast_pow, Nat.cast_ofNat, pow_add,
    Scan.number, hscale]
  exact mul_div_mul_right _ _ (by positivity)

lemma number_nonneg (s : Scan) : 0 ≤ s.number := by
  rw [Scan.number]
  positivity

lemma Scan.IsFull.exists_fraction (h : s.IsFull rest) : ∃ k, s.fraction = some k := by
  rcases h with h | ⟨_, _, _, _, h, _⟩
  · exact ⟨28, h⟩
  · exact Option.isSome_iff_exists.mp h

lemma coeffBound_le_of_isFull (h : s.IsFull rest) (hf : s.fraction ≠ some 28) :
    ∃ n, (digitsOf rest).length = n + 1 ∧
      coeffBound * 10 ^ n ≤
        s.value * 10 ^ (digitsOf rest).length + digitsValue (digitsOf rest) := by
  obtain ⟨c, r, rfl, hd, _, hfull⟩ := h.resolve_left hf
  refine ⟨(digitsOf r).length, by rw [digitsOf_cons_digit hd, List.length_cons], ?_⟩
  rw [digitsOf_cons_digit hd, digitsValue_cons, List.length_cons, pow_succ]
  have hle : coeffBound * 10 ^ (digitsOf r).length ≤
      (10 * s.value + digitValue c) * 10 ^ (digitsOf r).length := Nat.mul_le_mul_right _ hfull
  linarith

lemma not_held_of_isFull (hc : s.Continues rest) (h : s.IsFull rest)
    (hne : digitsValue (digitsOf rest) ≠ 0) : ¬Held (s.passes rest).number := by
  intro hheld
  obtain ⟨k, hk⟩ := h.exists_fraction
  obtain ⟨m, j, hm, hj, he⟩ := exists_magnitude_of_held hheld (number_nonneg _)
  have hlt : digitsValue (digitsOf rest) < 10 ^ (digitsOf rest).length :=
    digitsValue_lt fun c hc => (List.mem_filter.mp hc).2
  rw [number_passes hc hk, div_eq_div_iff (by positivity) (by positivity)] at he
  have heq : (s.value * 10 ^ (digitsOf rest).length + digitsValue (digitsOf rest)) * 10 ^ j =
      m * 10 ^ (k + (digitsOf rest).length) := by exact_mod_cast he
  by_cases hjk : j ≤ k
  · -- the number would be a whole multiple of the last place that is left
    have hsplit : k + (digitsOf rest).length = (k - j) + (digitsOf rest).length + j := by omega
    rw [hsplit, pow_add, ← mul_assoc] at heq
    have hmul := Nat.eq_of_mul_eq_mul_right (by positivity) heq
    rw [pow_add, ← mul_assoc] at hmul
    have hdvd : 10 ^ (digitsOf rest).length ∣ digitsValue (digitsOf rest) :=
      (Nat.dvd_add_right (Nat.dvd_mul_left _ _)).mp (hmul ▸ Nat.dvd_mul_left _ _)
    exact hne (Nat.eq_zero_of_dvd_of_lt hdvd hlt)
  · -- with a place more the digits have too many bits
    have hfraction : s.fraction ≠ some 28 := by
      rw [hk]
      rintro ⟨⟩
      omega
    obtain ⟨n, hn, hle⟩ := coeffBound_le_of_isFull h hfraction
    have hpow : 10 ^ (k + 1) ≤ 10 ^ j := Nat.pow_le_pow_right (by decide) (by omega)
    have hbound : coeffBound * 10 ^ n * 10 ^ (k + 1) ≤ m * 10 ^ (k + (n + 1)) :=
      calc coeffBound * 10 ^ n * 10 ^ (k + 1)
          ≤ (s.value * 10 ^ (digitsOf rest).length + digitsValue (digitsOf rest)) * 10 ^ j :=
            Nat.mul_le_mul hle hpow
        _ = m * 10 ^ (k + (n + 1)) := by rw [heq, hn]
    have hexp : k + (n + 1) = n + (k + 1) := by omega
    rw [hexp, pow_add 10 n (k + 1), ← mul_assoc] at hbound
    have hle := Nat.le_of_mul_le_mul_right hbound (by positivity)
    exact not_lt.mpr (Nat.le_of_mul_le_mul_right hle (by positivity)) hm

lemma number_start (h : Scan.start.Continues cs) : (Scan.start.passes cs).number = amount cs := by
  rw [Scan.number, value_passes_start h, scale_passes_start h, amount]

lemma Scan.Continues.of_append (h : s.Continues (front ++ rest)) :
    (s.passes front).Continues rest := by
  induction front generalizing s with
  | nil => exact h
  | cons c r ih => exact ih h.2

lemma number_of_scanRounded (h : scanRounded .start cs = some t) (hseen : t.seen = true) :
    IsMagnitude cs ∧ (Held (amount cs) → t.number = amount cs) := by
  obtain ⟨hc, rfl | ⟨hall, front, rest, rfl, hfull, hrest, ht⟩⟩ :=
    roundsTo_of_scanRounded (by rintro k ⟨⟩) h
  · exact ⟨isMagnitude_iff.mpr ⟨hc, hseen⟩, fun _ => number_start hc⟩
  · refine ⟨isMagnitude_iff.mpr ⟨hc, hall⟩, fun hheld => ?_⟩
    have hafter := hc.of_append
    rw [← number_start hc, Scan.passes_append] at hheld ⊢
    by_cases hz : digitsValue (digitsOf rest) = 0
    · obtain ⟨k, hk⟩ := hfull.exists_fraction
      rw [ht hz, number_passes_of_zeros hafter hk hz]
    · exact absurd hheld (not_held_of_isFull hafter hfull hz)

lemma value_of_result (h : t.result p = some d) : t.seen = true ∧ d.value = signed p t.number := by
  obtain ⟨hseen, hd⟩ := Option.ite_none_right_eq_some.mp h
  refine ⟨hseen, ?_⟩
  rw [value_of_of? hd, Scan.number]
  cases p
  · rfl
  · rw [if_pos rfl, Int.cast_neg, neg_div]
    rfl

lemma of_readRounded (h : readRounded cs = some d) :
    ∃ x, IsPlain cs x ∧ (d.value = x ↔ Held x) := by
  change (scanRounded .start (splitSign cs).2).bind (·.result (splitSign cs).1) = some d at h
  obtain ⟨t, ht, hd⟩ := Option.bind_eq_some_iff.mp h
  obtain ⟨hseen, hvalue⟩ := value_of_result hd
  obtain ⟨hm, hexact⟩ := number_of_scanRounded ht hseen
  refine ⟨_, ⟨_, _, signed_splitSign cs, hm, rfl⟩, fun he => ⟨d, he⟩, fun hheld => ?_⟩
  rw [hvalue, hexact (held_signed_iff.mp hheld)]

lemma value_of_shrink {e : Nat} (h : shrink .refuse b e = some d) : d.value = b.value / 10 ^ e := by
  rw [shrink] at h
  split_ifs at h
  rw [value_of_signed? h, value_eq_signed, pow_add, ← div_div]
  cases b.negative
  · rfl
  · exact (neg_div _ _).symm

lemma value_of_grow {e : Nat} (h : grow b e = some d) : d.value = b.value * 10 ^ e := by
  have hsigned : ∀ x : ℚ, x = b.magnitude / 10 ^ b.scale * 10 ^ e →
      signed b.negative x = b.value * 10 ^ e := by
    rintro x rfl
    rw [value_eq_signed]
    cases b.negative
    · rfl
    · exact (neg_mul _ _).symm
  rw [grow] at h
  split_ifs at h with hle
  · rw [value_of_signed? h]
    apply hsigned
    have hsplit : b.scale = b.scale - e + e := by omega
    rw [hsplit, pow_add, Nat.add_sub_cancel]
    field_simp
  · rw [value_of_signed? h]
    apply hsigned
    have hsplit : e = e - b.scale + b.scale := by omega
    rw [Nat.cast_mul, cast_tenPow, pow_zero, div_one]
    nth_rewrite 2 [hsplit]
    rw [pow_add]
    field_simp

lemma hasExponent_of_mark (hm : mark = 'e' ∨ mark = 'E') :
    hasExponent (base ++ mark :: r) = true := by
  refine List.any_eq_true.mpr ⟨mark, List.mem_append_right base List.mem_cons_self, ?_⟩
  simpa [isExponentMark] using hm

lemma splitExponent_of_mark (hb : ∀ c ∈ base, c ≠ 'e' ∧ c ≠ 'E') (hm : mark = 'e' ∨ mark = 'E') :
    splitExponent (base ++ mark :: r) = some (base, r) := by
  have hno : ∀ c ∈ base, (!isExponentMark c) = true := by
    intro c hc
    simpa [isExponentMark] using hb c hc
  have hmark : isExponentMark mark = true := by simpa [isExponentMark] using hm
  rw [splitExponent, List.dropWhile_append_of_pos hno, List.takeWhile_append_of_pos hno]
  simp [hmark]

lemma readScientific_mark (beyond : Beyond) (hb : ∀ c ∈ base, c ≠ 'e' ∧ c ≠ 'E')
    (hm : mark = 'e' ∨ mark = 'E') :
    readScientific beyond (base ++ 'e' :: r) = readScientific beyond (base ++ mark :: r) := by
  rw [readScientific, readScientific, splitExponent_of_mark hb hm,
    splitExponent_of_mark hb (Or.inl rfl)]

lemma uint32?_plus (h : isDigits ds = true) : uint32? ('+' :: ds) = uint32? ds := by
  have hplus : natural? ('+' :: ds) = some (digitsValue ds) :=
    natural?_eq_some_iff.mpr ⟨ds, .plus, h, rfl⟩
  rw [uint32?, uint32?, naturalBelow?, naturalBelow?, hplus, natural?_of_isDigits h]

lemma readScientific_plus (beyond : Beyond) (hb : ∀ c ∈ base, c ≠ 'e' ∧ c ≠ 'E')
    (hm : mark = 'e' ∨ mark = 'E') (hd : isDigits ds = true) :
    readScientific beyond (base ++ 'e' :: '+' :: ds) =
      readScientific beyond (base ++ mark :: ds) := by
  have hplus := uint32?_plus hd
  obtain ⟨c, r, rfl, hminus, _⟩ := exists_cons_of_isDigits hd
  rw [readScientific, readScientific, splitExponent_of_mark hb hm,
    splitExponent_of_mark hb (Or.inl rfl)]
  simp only [Option.bind_some]
  cases readRounded base with
  | none => rfl
  | some b => simp [hplus, hminus]

lemma splitExponent_eq_some {exponent : List Char}
    (h : splitExponent cs = some (base, exponent)) :
    ∃ mark, (mark = 'e' ∨ mark = 'E') ∧ cs = base ++ mark :: exponent := by
  rw [splitExponent] at h
  split at h
  · cases h
  · rename_i mark r hdrop
    cases h
    have hmark : isExponentMark mark = true := by
      have hnot := List.head?_dropWhile_not (!isExponentMark ·) cs
      rw [hdrop] at hnot
      simpa using hnot
    refine ⟨mark, by simpa [isExponentMark] using hmark, ?_⟩
    rw [← hdrop, List.takeWhile_append_dropWhile]

lemma uint32?_eq_some {n : Nat} (h : uint32? cs = some n) :
    ∃ ds, Signed ds false cs ∧ isDigits ds = true ∧ n = digitsValue ds :=
  natural?_eq_some_iff.mp (Option.filter_eq_some_iff.mp h).1

lemma scaled_eq_iff {x y : ℚ} (e : ℤ) (h : y = x ↔ Held x) :
    y * 10 ^ e = x * 10 ^ e ↔ Held x := by
  rw [← h]
  exact mul_left_inj' (zpow_ne_zero e (by norm_num))

lemma of_readScientific (h : readScientific .refuse cs = some d) :
    ∃ x e, IsScientific cs x e ∧ (d.value = x * 10 ^ e ↔ Held x) := by
  obtain ⟨⟨base, exponent⟩, hsplit, hread⟩ := Option.bind_eq_some_iff.mp h
  obtain ⟨b, hb, hpower⟩ := Option.bind_eq_some_iff.mp hread
  obtain ⟨mark, hmark, rfl⟩ := splitExponent_eq_some hsplit
  obtain ⟨x, hx, hexact⟩ := of_readRounded hb
  split at hpower
  · obtain ⟨e, he, hd⟩ := Option.bind_eq_some_iff.mp hpower
    obtain ⟨ds, hs, hds, rfl⟩ := uint32?_eq_some he
    refine ⟨x, _, ⟨base, mark, _, hmark, rfl, hx, .down hs hds⟩, ?_⟩
    rw [value_of_shrink hd, div_eq_mul_inv, ← zpow_natCast, ← zpow_neg]
    exact scaled_eq_iff _ hexact
  · obtain ⟨e, he, hd⟩ := Option.bind_eq_some_iff.mp hpower
    obtain ⟨ds, hs, hds, rfl⟩ := uint32?_eq_some he
    refine ⟨x, _, ⟨base, mark, _, hmark, rfl, hx, .up hs hds⟩, ?_⟩
    rw [value_of_grow hd, ← zpow_natCast]
    exact scaled_eq_iff _ hexact

lemma hasExponent_of_plain {x : ℚ} (h : IsPlain cs x) : hasExponent cs = false :=
  hasExponent_eq_false_iff.mpr h.no_mark

lemma hasExponent_of_scientific {x : ℚ} {e : ℤ} (h : IsScientific cs x e) :
    hasExponent cs = true := by
  obtain ⟨base, mark, exponent, hmark, rfl, _⟩ := h
  exact hasExponent_of_mark hmark

end MarketFeed.Decimal

namespace MarketFeed.Json

open Text Decimal

/-- Plain text is read as the number it stands for. With an exponent the reading is exact if and
only if a decimal stands for the number in front of the exponent. Whatever is not read is refused
for its text. -/
theorem decimal_exact_iff {v : Json} {s : String} (hs : v.numberText? = some s) (name : String) :
    (∀ d, decimalValue name v = .ok d →
      ((∃ x, IsPlain s.toList x) ∨ ∃ x e, IsScientific s.toList x e) ∧
        (∀ x, IsPlain s.toList x → d.value = x) ∧
          ∀ x e, IsScientific s.toList x e → (d.value = x * 10 ^ e ↔ Held x)) ∧
      ∀ cause, decimalValue name v = .error cause → cause = .decimal name s := by
  refine ⟨fun d hd => ?_, fun _ hc => cause_of_decimalBy hs hc⟩
  obtain ⟨t, ht, hread⟩ := decimalBy_eq_ok_iff.mp hd
  obtain rfl := Option.some.inj (hs.symm.trans ht)
  obtain ⟨b, hb, rfl⟩ := Option.map_eq_some_iff.mp hread
  rw [value_strip]
  split at hb
  · rename_i hmark
    obtain ⟨x, e, hx, hexact⟩ := of_readScientific hb
    refine ⟨Or.inr ⟨x, e, hx⟩, fun y hy => ?_, fun y n hy => ?_⟩
    · cases hmark.symm.trans (hasExponent_of_plain hy)
    · obtain ⟨rfl, rfl⟩ := hx.unique hy
      exact hexact
  · rename_i hmark
    have hx := plain_of_readExact hb
    refine ⟨Or.inl ⟨_, hx⟩, fun y hy => hx.unique hy, fun y n hy => ?_⟩
    exact absurd (hasExponent_of_scientific hy) hmark

theorem decimal_exact_with_an_exponent :
    let v : Json := .num "1.50e+3"
    v.numberText? = some "1.50e+3" ∧
      ∃ d, decimalValue "price" v = .ok d ∧ d.value = 3 / 2 * 10 ^ (3 : ℤ) := by
  intro v
  have hread : decimalValue "price" v = .ok ⟨false, 1500, 0, by decide, by decide⟩ := by decide
  have hbase : IsPlain "1.50".toList (3 / 2) := by
    refine ⟨false, _, .bare, by decide, ?_⟩
    have hdigits : digitsValue (digitsOf "1.50".toList) = 150 := by decide
    have hplaces : (fractionOf "1.50".toList).length = 2 := by decide
    rw [amount, hdigits, hplaces, signed]
    norm_num
  have hthree : isDigits ['3'] = true := rfl
  have hexponent : IsPower "+3".toList 3 := .up .plus hthree
  have htext : IsScientific "1.50e+3".toList (3 / 2) 3 :=
    ⟨_, 'e', _, Or.inl rfl, by decide, hbase, hexponent⟩
  have hheld : Held (3 / 2) := by
    obtain ⟨d, hd⟩ := Option.isSome_iff_exists.mp (show (of? 15 1).isSome by decide)
    exact ⟨d, by rw [value_of_of? hd]; norm_num⟩
  obtain ⟨hok, _⟩ := decimal_exact_iff (v := v) rfl "price"
  exact ⟨rfl, _, hread, ((hok _ hread).2.2 _ _ htext).mpr hheld⟩

theorem small_size_read_as_zero :
    let s := "0.00000000000000000000000000001e0"
    IsScientific s.toList (1 / 10 ^ 29) 0 ∧ decimalValue "size" (.str s) = .ok .zero := by
  intro s
  have hbase : IsPlain "0.00000000000000000000000000001".toList (1 / 10 ^ 29) := by
    refine ⟨false, _, .bare, by decide, ?_⟩
    have hdigits : digitsValue (digitsOf "0.00000000000000000000000000001".toList) = 1 := by decide
    have hplaces : (fractionOf "0.00000000000000000000000000001".toList).length = 29 := by decide
    rw [amount, hdigits, hplaces, Nat.cast_one]
    rfl
  have hzero : isDigits ['0'] = true := rfl
  exact ⟨⟨_, 'e', _, Or.inl rfl, by decide, hbase, .up .bare hzero⟩, by decide⟩

end MarketFeed.Json
