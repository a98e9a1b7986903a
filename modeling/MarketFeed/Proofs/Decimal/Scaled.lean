import MarketFeed.Proofs.Decimal.Value
import MarketFeed.Proofs.Payload

namespace MarketFeed.Decimal

open Text

variable {d : Decimal} {n : ℤ} {k : Nat} {s : String}

lemma isInteger_unique {cs : List Char} {m : ℤ} (hm : IsInteger cs m) (hn : IsInteger cs n) :
    m = n :=
  Option.some.inj ((integer?_eq_some_iff.mpr hm).symm.trans (integer?_eq_some_iff.mpr hn))

lemma ofScaledText?_eq_some_iff : ofScaledText? k s = some d ↔
    ∃ n b, IsInteger s.toList n ∧ of? n k = some b ∧ b.strip = d := by
  rw [ofScaledText?]
  constructor
  · intro h
    obtain ⟨n, hn, h⟩ := Option.bind_eq_some_iff.mp h
    obtain ⟨b, hb, hd⟩ := Option.map_eq_some_iff.mp h
    exact ⟨n, b, integer?_eq_some_iff.mp (Option.filter_eq_some_iff.mp hn).1, hb, hd⟩
  · rintro ⟨n, b, hn, hb, rfl⟩
    have hlt : n.natAbs < coeffBound :=
      (of?_isSome_iff.mp (Option.isSome_iff_exists.mpr ⟨b, hb⟩)).1
    -- the narrower of the two limits decides
    have hbound : coeffBound < int128Bound := by decide
    have hwithin : integerWithin? int128Bound s.toList = some n := by
      refine Option.filter_eq_some_iff.mpr ⟨integer?_eq_some_iff.mpr hn, ?_⟩
      simp only [Bool.and_eq_true, decide_eq_true_eq]
      omega
    rw [hwithin, Option.bind_some, hb, Option.map_some]

end MarketFeed.Decimal

namespace MarketFeed.Json

open Text Decimal

variable {v w : Json} {m n : ℤ} {a b d : Decimal} {name : String} {k : Nat}

def Counts (v : Json) (n : ℤ) : Prop := ∃ s, v.numberText? = some s ∧ IsInteger s.toList n

lemma Counts.unique (hm : v.Counts m) (hn : v.Counts n) : m = n := by
  obtain ⟨s, hs, hm⟩ := hm
  obtain ⟨t, ht, hn⟩ := hn
  obtain rfl := Option.some.inj (hs.symm.trans ht)
  exact isInteger_unique hm hn

lemma scaledValue_eq_ok_iff : scaledValue k name v = .ok d ↔
    ∃ n b, v.Counts n ∧ of? n k = some b ∧ b.strip = d := by
  rw [scaledValue, decimalBy_eq_ok_iff]
  simp only [ofScaledText?_eq_some_iff]
  constructor
  · rintro ⟨s, hs, n, b, hn, hb, hd⟩
    exact ⟨n, b, ⟨s, hs, hn⟩, hb, hd⟩
  · rintro ⟨n, b, ⟨s, hs, hn⟩, hb, hd⟩
    exact ⟨s, hs, n, b, hn, hb, hd⟩

lemma value_of_scaledValue (hn : v.Counts n) (h : scaledValue k name v = .ok d) :
    d.value * 10 ^ k = n := by
  obtain ⟨m, b, hm, hb, rfl⟩ := scaledValue_eq_ok_iff.mp h
  obtain rfl := hm.unique hn
  rw [value_strip, value_of_of? hb]
  exact div_mul_cancel₀ _ (by positivity)

/-- An integer literal within 96 bits is read as its value in units of `10 ^ -k`, whichever of the
29 scales is asked for, and nothing else is read. Larger integers are larger decimals. -/
theorem scaled_integer_iff (hk : k ≤ 28) (name : String) :
    (∀ v, (∃ d, scaledValue k name v = .ok d) ↔ ∃ n : ℤ, v.Counts n ∧ |n| < 2 ^ 96) ∧
      (∀ v (n : ℤ) d, v.Counts n → scaledValue k name v = .ok d →
        d.value * 10 ^ k = n ∧ d.IsCanonical ∧ (d.value = 0 ↔ n = 0)) ∧
      ∀ v w (m n : ℤ) a b, v.Counts m → w.Counts n → scaledValue k name v = .ok a →
        scaledValue k name w = .ok b → m < n → a.value < b.value := by
  have hpos : (0 : ℚ) < 10 ^ k := by positivity
  refine ⟨fun v => ⟨?_, ?_⟩, fun v n d hn hd => ⟨value_of_scaledValue hn hd, ?_, ?_⟩,
    fun v w m n a b hm hn ha hb hlt => ?_⟩
  · rintro ⟨d, hd⟩
    obtain ⟨n, b, hn, hb, _⟩ := scaledValue_eq_ok_iff.mp hd
    have hlt := (of?_isSome_iff.mp (Option.isSome_iff_exists.mpr ⟨b, hb⟩)).1
    refine ⟨n, hn, ?_⟩
    rw [Int.abs_eq_natAbs]
    exact_mod_cast hlt
  · rintro ⟨n, hn, hlt⟩
    have habs : n.natAbs < coeffBound := by
      rw [Int.abs_eq_natAbs] at hlt
      exact_mod_cast hlt
    obtain ⟨b, hb⟩ := Option.isSome_iff_exists.mp (of?_isSome_iff.mpr ⟨habs, hk⟩)
    exact ⟨b.strip, scaledValue_eq_ok_iff.mpr ⟨n, b, hn, hb, rfl⟩⟩
  · obtain ⟨_, b, _, _, rfl⟩ := scaledValue_eq_ok_iff.mp hd
    exact isCanonical_strip b
  · have hvalue := value_of_scaledValue hn hd
    rw [← Int.cast_eq_zero (α := ℚ), ← hvalue, mul_eq_zero]
    exact (or_iff_left hpos.ne').symm
  · refine lt_of_mul_lt_mul_right ?_ hpos.le
    rw [value_of_scaledValue hm ha, value_of_scaledValue hn hb]
    exact Int.cast_lt.mpr hlt

theorem scaled_integer_at_the_limits :
    (18 ≤ 28) ∧ (∃ d, scaledValue 18 "price" (.str "-79228162514264337593543950335") = .ok d ∧
      d.value * 10 ^ 18 = (-79228162514264337593543950335 : ℤ) ∧ d.IsCanonical) ∧
      ¬∃ d, scaledValue 18 "price" (.num "79228162514264337593543950336") = .ok d := by
  obtain ⟨hiff, hvalue, _⟩ := scaled_integer_iff (k := 18) (by decide) "price"
  have hlow : Counts (.str "-79228162514264337593543950335") (-79228162514264337593543950335) := by
    refine ⟨_, rfl, integer?_eq_some_iff.mp ?_⟩
    decide
  have hhigh : Counts (.num "79228162514264337593543950336") 79228162514264337593543950336 := by
    refine ⟨_, rfl, integer?_eq_some_iff.mp ?_⟩
    decide
  refine ⟨by decide, ?_, fun hread => ?_⟩
  · obtain ⟨d, hd⟩ := (hiff _).mpr ⟨_, hlow, by decide⟩
    obtain ⟨hn, hc, _⟩ := hvalue _ _ d hlow hd
    exact ⟨d, hd, hn, hc⟩
  · obtain ⟨n, hn, hlt⟩ := (hiff _).mp hread
    obtain rfl := hn.unique hhigh
    exact absurd hlt (by decide)

end MarketFeed.Json
