import Mathlib.Data.List.TakeWhile
import MarketFeed.Proofs.Decimal.Value
import MarketFeed.Proofs.Payload

namespace MarketFeed.Decimal

open Text

variable {s t : Scan} {cs r body : List Char} {c : Char} {d : Decimal} {p : Bool} {k : Nat}

def Scan.pass (s : Scan) (c : Char) : Scan :=
  if c.isDigit then s.digit c else if c = '.' then { s with fraction := some 0 } else s

def Scan.passes (s : Scan) (cs : List Char) : Scan := cs.foldl Scan.pass s

def Scan.Continues (s : Scan) : List Char → Prop
  | [] => True
  | c :: r => (c.isDigit = true ∨ c = '.' ∧ s.fraction = none ∨ c = '_' ∧ s.seen = true) ∧
      (s.pass c).Continues r

def Scan.HasRoom (s : Scan) : List Char → Prop
  | [] => True
  | c :: r => s.fraction ≠ some 28 ∧ (s.pass c).HasRoom r

lemma Scan.pass_digit (h : c.isDigit = true) : s.pass c = s.digit c := if_pos h

lemma Scan.pass_point : s.pass '.' = { s with fraction := some 0 } := rfl

lemma Scan.pass_separator : s.pass '_' = s := rfl

lemma Scan.passes_append : s.passes (cs ++ r) = (s.passes cs).passes r := List.foldl_append

lemma digitsOf_cons_digit (h : c.isDigit = true) : digitsOf (c :: r) = c :: digitsOf r :=
  List.filter_cons_of_pos h

lemma digitsOf_cons_point : digitsOf ('.' :: r) = digitsOf r := rfl

lemma digitsOf_cons_separator : digitsOf ('_' :: r) = digitsOf r := rfl

lemma Scan.continues_iff : s.Continues cs ↔
    (∀ c ∈ cs, c.isDigit = true ∨ c = '.' ∨ c = '_') ∧
      cs.count '.' ≤ (if s.fraction = none then 1 else 0) ∧
        (s.seen = true ∨ '_' ∉ cs.takeWhile (!·.isDigit)) := by
  induction cs generalizing s with
  | nil => simp [Continues]
  | cons c r ih =>
    by_cases hd : c.isDigit = true
    · have hne : c ≠ '.' := by
        rintro rfl
        simp at hd
      simp [Continues, hd, pass_digit, ih, digit, hne]
    · by_cases hp : c = '.'
      · subst hp
        cases hf : s.fraction <;> simp [Continues, ih, pass_point, hf]
      · by_cases hs : c = '_'
        · subst hs
          cases hseen : s.seen <;> simp [Continues, ih, pass_separator, hseen]
        · simp [Continues, hd, hp, hs]

lemma Scan.value_passes (h : s.Continues cs) :
    (s.passes cs).value = withDigits s.value (digitsOf cs) := by
  induction cs generalizing s with
  | nil => rfl
  | cons c r ih =>
    obtain ⟨hc, hr⟩ := h
    have hrest := ih hr
    rcases hc with hd | ⟨rfl, _⟩ | ⟨rfl, _⟩
    · rw [pass_digit hd] at hrest
      rw [digitsOf_cons_digit hd]
      exact (congrArg (fun u => (Scan.passes u r).value) (pass_digit hd)).trans hrest
    · exact hrest
    · exact hrest

lemma Scan.seen_passes_iff (h : s.Continues cs) :
    (s.passes cs).seen = true ↔ s.seen = true ∨ ∃ c ∈ cs, c.isDigit = true := by
  induction cs generalizing s with
  | nil => simp [passes]
  | cons c r ih =>
    obtain ⟨hc, hr⟩ := h
    have hrest := ih hr
    change ((s.pass c).passes r).seen = true ↔ _
    rw [hrest]
    rcases hc with hd | ⟨rfl, _⟩ | ⟨rfl, _⟩
    · simp [pass_digit hd, digit, hd]
    · simp [pass_point]
    · simp [pass_separator]

lemma Scan.fraction_passes (h : s.Continues cs) : (s.passes cs).fraction =
    match s.fraction with
    | some k => some (k + (digitsOf cs).length)
    | none => if '.' ∈ cs then some (fractionOf cs).length else none := by
  induction cs generalizing s with
  | nil => cases hf : s.fraction <;> simp [passes, hf, digitsOf]
  | cons c r ih =>
    obtain ⟨hc, hr⟩ := h
    have hrest := ih hr
    change ((s.pass c).passes r).fraction = _
    rw [hrest]
    rcases hc with hd | ⟨rfl, hf⟩ | ⟨rfl, _⟩
    · have hne : c ≠ '.' := by
        rintro rfl
        simp at hd
      cases hf : s.fraction with
      | some k =>
        simp [pass_digit hd, digit, hf, digitsOf_cons_digit hd]
        omega
      | none => simp [pass_digit hd, digit, hf, fractionOf, hne, Ne.symm hne]
    · simp [pass_point, hf, fractionOf, digitsOf_cons_point]
    · cases hf : s.fraction with
      | some k => simp [pass_separator, hf, digitsOf_cons_separator]
      | none => simp [pass_separator, hf, fractionOf]

lemma Scan.scale_pass_le (hf : s.fraction ≠ some 28) (hs : s.scale ≤ 28) :
    (s.pass c).scale ≤ 28 := by
  rw [pass]
  split_ifs
  · cases hk : s.fraction with
    | none => simp [digit, scale, hk]
    | some k =>
      have hne : k ≠ 28 := fun h => hf (h ▸ hk)
      simp [scale, hk] at hs
      simp [digit, scale, hk]
      omega
  · exact Nat.zero_le 28
  · exact hs

lemma Scan.not_endsInDigit_of_full (h : s.Continues cs) (hf : s.fraction = some 28)
    (hne : cs ≠ []) (hle : (s.passes cs).scale ≤ 28) :
    (s.passes cs).scale = 28 ∧ ∃ c ∈ cs.getLast?, c.isDigit = false := by
  have hfraction := fraction_passes h
  rw [hf] at hfraction
  have hscale : (s.passes cs).scale = 28 + (digitsOf cs).length := by simp [scale, hfraction]
  have hnone : digitsOf cs = [] := List.length_eq_zero_iff.mp (by omega)
  refine ⟨by omega, cs.getLast hne, List.getLast?_eq_some_getLast hne, ?_⟩
  simpa using List.filter_eq_nil_iff.mp hnone _ (List.getLast_mem hne)

lemma Scan.hasRoom_iff (h : s.Continues cs) (hs : s.scale ≤ 28) : s.HasRoom cs ↔
    (s.passes cs).scale ≤ 28 ∧
      ((s.passes cs).scale = 28 → ∀ c ∈ cs.getLast?, c.isDigit = true) := by
  induction cs generalizing s with
  | nil => simp [HasRoom, passes, hs]
  | cons c r ih =>
    by_cases hfull : s.fraction = some 28
    · refine iff_of_false (fun hroom => hroom.1 hfull) fun ⟨hle, hend⟩ => ?_
      obtain ⟨hscale, x, hx, hd⟩ := not_endsInDigit_of_full h hfull (List.cons_ne_nil c r) hle
      exact Bool.false_ne_true (hd.symm.trans (hend hscale x hx))
    · obtain ⟨hc, hr⟩ := h
      rw [HasRoom, and_iff_right hfull, ih hr (scale_pass_le hfull hs)]
      refine and_congr_right fun _ => ?_
      cases r with
      | cons x r => rw [List.getLast?_cons_cons]; rfl
      | nil =>
        refine iff_of_true (by simp) fun hscale x hx => ?_
        obtain rfl : c = x := by simpa using hx
        rcases hc with hd | ⟨rfl, _⟩ | ⟨rfl, _⟩
        · exact hd
        · cases hscale
        · change s.fraction.getD 0 = 28 at hscale
          cases hk : s.fraction <;> simp_all

lemma Scan.value_le_passes (h : s.Continues cs) : s.value ≤ (s.passes cs).value := by
  rw [value_passes h]
  exact le_withDigits _ _

lemma scanExact_eq_some_iff (hv : s.value < coeffBound) : scanExact s cs = some t ↔
    s.Continues cs ∧ s.HasRoom cs ∧ (s.passes cs).value < coeffBound ∧ t = s.passes cs := by
  induction cs generalizing s with
  | nil => simp [scanExact, Scan.Continues, Scan.HasRoom, Scan.passes, hv, eq_comm]
  | cons c r ih =>
    rw [scanExact, Scan.Continues, Scan.HasRoom]
    by_cases hfull : s.fraction = some 28
    · simp [hfull]
    rw [if_neg hfull]
    change _ ↔ (_ ∧ _) ∧ (_ ∧ _) ∧ ((s.pass c).passes r).value < _ ∧ t = (s.pass c).passes r
    by_cases hd : c.isDigit = true
    · rw [if_pos hd, Scan.pass_digit hd]
      by_cases hlt : (s.digit c).value < coeffBound
      · rw [if_pos hlt, ih hlt]
        simp [hd, hfull]
      · rw [if_neg hlt]
        refine iff_of_false (Option.some_ne_none t).symm fun ⟨⟨_, hr⟩, _, hfit, _⟩ => hlt ?_
        exact Nat.lt_of_le_of_lt (Scan.value_le_passes hr) hfit
    · by_cases hp : c = '.' ∧ s.fraction = none
      · obtain ⟨rfl, hf⟩ := hp
        have hrest := ih (s := { s with fraction := some 0 }) hv
        rw [Scan.pass_point]
        simp [hf, hrest]
      · by_cases hs : c = '_' ∧ s.seen = true
        · obtain ⟨rfl, hseen⟩ := hs
          rw [Scan.pass_separator]
          simp [isSeparator, hseen, ih hv, hfull]
        · simp [hd, hp, hs, isSeparator]

lemma isMagnitude_iff :
    IsMagnitude cs ↔ Scan.start.Continues cs ∧ (Scan.start.passes cs).seen = true := by
  constructor
  · intro h
    have hc : Scan.start.Continues cs :=
      Scan.continues_iff.mpr ⟨h.only, h.one_point, Or.inr h.digit_first⟩
    exact ⟨hc, (Scan.seen_passes_iff hc).mpr (Or.inr h.some_digit)⟩
  · rintro ⟨hc, hseen⟩
    obtain ⟨honly, hpoint, hfirst⟩ := Scan.continues_iff.mp hc
    have hdigit := ((Scan.seen_passes_iff hc).mp hseen).resolve_left Bool.false_ne_true
    exact ⟨honly, hdigit, hpoint, hfirst.resolve_left Bool.false_ne_true⟩

lemma fractionOf_of_no_point (h : '.' ∉ cs) : fractionOf cs = [] := by
  have hdrop : cs.dropWhile (· != '.') = [] := by
    rw [List.dropWhile_eq_nil_iff]
    intro c hc
    have hne : c ≠ '.' := fun he => h (he ▸ hc)
    simpa using hne
  rw [fractionOf, hdrop]
  rfl

lemma value_passes_start (h : Scan.start.Continues cs) :
    (Scan.start.passes cs).value = digitsValue (digitsOf cs) := Scan.value_passes h

lemma scale_passes_start (h : Scan.start.Continues cs) :
    (Scan.start.passes cs).scale = (fractionOf cs).length := by
  have hf := Scan.fraction_passes h
  rw [Scan.scale, hf]
  change (if '.' ∈ cs then some (fractionOf cs).length else none).getD 0 = _
  split
  · rfl
  · rename_i hp
    rw [fractionOf_of_no_point hp]
    rfl

/-- A decimal holds all that is written: the digits have at most 96 bits, at most 28 of them stand
behind the point, and nothing more is written behind the last of 28. -/
structure IsExact (cs : List Char) : Prop extends IsMagnitude cs where
  digits_lt : digitsValue (digitsOf cs) < 2 ^ 96
  places_le : (fractionOf cs).length ≤ 28
  closed : (fractionOf cs).length = 28 → ∀ c ∈ cs.getLast?, c.isDigit = true

lemma scanExact_start_iff : (scanExact .start cs).bind (·.result p) = some d ↔
    IsExact cs ∧
      of? (signed p (digitsValue (digitsOf cs) : ℤ)) (fractionOf cs).length = some d := by
  simp only [Option.bind_eq_some_iff, scanExact_eq_some_iff (s := .start) (by decide)]
  constructor
  · rintro ⟨t, ⟨hc, hroom, hfit, rfl⟩, ht⟩
    obtain ⟨hseen, hd⟩ := Option.ite_none_right_eq_some.mp ht
    obtain ⟨hplaces, hclosed⟩ := (Scan.hasRoom_iff hc (by decide)).mp hroom
    rw [scale_passes_start hc] at hplaces hclosed hd
    rw [value_passes_start hc] at hfit hd
    exact ⟨⟨isMagnitude_iff.mpr ⟨hc, hseen⟩, hfit, hplaces, hclosed⟩, hd⟩
  · rintro ⟨he, hd⟩
    obtain ⟨hc, hseen⟩ := isMagnitude_iff.mp he.toIsMagnitude
    have hvalue := value_passes_start hc
    have hscale := scale_passes_start hc
    refine ⟨_, ⟨hc, (Scan.hasRoom_iff hc (by decide)).mpr ?_, ?_, rfl⟩, ?_⟩
    · rw [hscale]
      exact ⟨he.places_le, he.closed⟩
    · rw [hvalue]
      exact he.digits_lt
    · rw [Scan.result, if_pos hseen, hvalue, hscale]
      exact hd

lemma signed_splitSign (cs : List Char) : Signed (splitSign cs).2 (splitSign cs).1 cs := by
  rw [splitSign.eq_def]
  split
  · exact .minus
  · exact .plus
  · exact .bare

lemma splitSign_of_signed (h : Signed body p cs) (hu : Unsigned body) :
    splitSign cs = (p, body) := by
  cases h with
  | plus => rfl
  | minus => rfl
  | bare =>
    rw [splitSign.eq_def]
    split
    · exact absurd rfl hu.2
    · exact absurd rfl hu.1
    · rfl

lemma readExact_eq_some_iff : readExact cs = some d ↔ ∃ p body, Signed body p cs ∧ IsExact body ∧
    of? (signed p (digitsValue (digitsOf body) : ℤ)) (fractionOf body).length = some d := by
  constructor
  · intro h
    exact ⟨_, _, signed_splitSign cs, scanExact_start_iff.mp h⟩
  · rintro ⟨p, body, hs, he, hd⟩
    have hsplit := splitSign_of_signed hs he.unsigned
    rw [readExact, hsplit]
    exact scanExact_start_iff.mpr ⟨he, hd⟩

lemma exists_of?_of_isExact (h : IsExact cs) (p : Bool) : ∃ d,
    of? (signed p (digitsValue (digitsOf cs) : ℤ)) (fractionOf cs).length = some d := by
  apply Option.isSome_iff_exists.mp
  have habs : (signed p (digitsValue (digitsOf cs) : ℤ)).natAbs = digitsValue (digitsOf cs) := by
    cases p
    · rfl
    · exact Int.natAbs_neg _
  rw [of?_isSome_iff, habs]
  exact ⟨h.digits_lt, h.places_le⟩

lemma plain_of_readExact (h : readExact cs = some d) : IsPlain cs d.value := by
  obtain ⟨p, body, hs, he, hd⟩ := readExact_eq_some_iff.mp h
  refine ⟨p, body, hs, he.toIsMagnitude, ?_⟩
  rw [value_of_of? hd, cast_signed, amount]
  cases p
  · rfl
  · exact neg_div _ _

lemma hasExponent_eq_false_iff : hasExponent cs = false ↔ ∀ c ∈ cs, c ≠ 'e' ∧ c ≠ 'E' := by
  rw [hasExponent, List.any_eq_false]
  simp [isExponentMark]

lemma ofText?_of_no_mark {text : String} (h : ∀ c ∈ text.toList, c ≠ 'e' ∧ c ≠ 'E') :
    ofText? text = (readExact text.toList).map strip := by
  rw [ofText?]
  simp only [hasExponent_eq_false_iff.mpr h, Bool.false_eq_true, if_false]

lemma isCanonical_of_ofText? {text : String} (h : ofText? text = some d) : d.IsCanonical := by
  obtain ⟨b, _, rfl⟩ := Option.map_eq_some_iff.mp h
  exact isCanonical_strip b

end MarketFeed.Decimal

namespace MarketFeed.Json

open Text Decimal

/-- Plain text is read exactly if a decimal holds it as it is written, and then as the number it
stands for. Whatever is read is canonical, so that equal numbers are equal decimals. -/
theorem plain_decimal_iff {s : String} (h : ∀ c ∈ s.toList, c ≠ 'e' ∧ c ≠ 'E') (name : String) :
    ((∃ d, decimalValue name (.str s) = .ok d) ↔
        ∃ negative body, Signed body negative s.toList ∧ IsExact body) ∧
      (∀ d, decimalValue name (.str s) = .ok d → IsPlain s.toList d.value ∧ d.IsCanonical) ∧
      (∀ cause, decimalValue name (.str s) = .error cause → cause = .decimal name s) ∧
      ∀ m n v w a b, decimalValue m v = .ok a → decimalValue n w = .ok b → a.value = b.value →
        a = b := by
  have hok : ∀ d, decimalValue name (.str s) = .ok d →
      ∃ b, readExact s.toList = some b ∧ b.strip = d := by
    intro d hd
    obtain ⟨_, ⟨⟩, ht⟩ := decimalBy_eq_ok_iff.mp hd
    rw [ofText?_of_no_mark h] at ht
    exact Option.map_eq_some_iff.mp ht
  refine ⟨⟨fun ⟨d, hd⟩ => ?_, fun ⟨p, body, hs, he⟩ => ?_⟩, fun d hd => ?_,
    fun _ hc => cause_of_decimalBy rfl hc, fun m n v w a b ha hb hab => ?_⟩
  · obtain ⟨b, hb, _⟩ := hok d hd
    obtain ⟨p, body, hs, he, _⟩ := readExact_eq_some_iff.mp hb
    exact ⟨p, body, hs, he⟩
  · obtain ⟨d, hd⟩ := exists_of?_of_isExact he p
    have hexact := readExact_eq_some_iff.mpr ⟨p, body, hs, he, hd⟩
    refine ⟨d.strip, decimalBy_eq_ok_iff.mpr ⟨s, rfl, ?_⟩⟩
    rw [ofText?_of_no_mark h, hexact, Option.map_some]
  · obtain ⟨b, hb, rfl⟩ := hok d hd
    rw [value_strip]
    exact ⟨plain_of_readExact hb, isCanonical_strip b⟩
  · obtain ⟨_, _, ha⟩ := decimalBy_eq_ok_iff.mp ha
    obtain ⟨_, _, hb⟩ := decimalBy_eq_ok_iff.mp hb
    exact (isCanonical_of_ofText? ha).eq_of_value_eq (isCanonical_of_ofText? hb) hab

theorem plain_decimal_near_the_limits :
    let s := "-7_922816251426433759354395.0330"
    (∀ c ∈ s.toList, c ≠ 'e' ∧ c ≠ 'E') ∧
      ∃ d, decimalValue "size" (.str s) = .ok d ∧ IsPlain s.toList d.value ∧ d.IsCanonical := by
  intro s
  have hmarks := hasExponent_eq_false_iff.mp (show hasExponent s.toList = false by decide)
  obtain ⟨hiff, hok, _⟩ := plain_decimal_iff hmarks "size"
  have hexact : IsExact "7_922816251426433759354395.0330".toList :=
    ⟨by decide, by decide, by decide, by decide⟩
  have htext : s.toList = '-' :: "7_922816251426433759354395.0330".toList := by decide
  obtain ⟨d, hd⟩ := hiff.mpr ⟨true, _, htext ▸ .minus, hexact⟩
  exact ⟨hmarks, d, hd, hok d hd⟩

theorem separator_behind_last_place_refused :
    let s := "0.0000000000000000000000000001_"
    (∀ c ∈ s.toList, c ≠ 'e' ∧ c ≠ 'E') ∧ IsMagnitude s.toList ∧
      (fractionOf s.toList).length ≤ 28 ∧ digitsValue (digitsOf s.toList) < 2 ^ 96 ∧
        decimalValue "size" (.str s) = .error (.decimal "size" s) := by
  intro s
  exact ⟨hasExponent_eq_false_iff.mp (by decide), by decide, by decide, by decide, by decide⟩

end MarketFeed.Json
