import MarketFeed.Decimal.Arithmetic
import MarketFeed.Level
import MarketFeed.Proofs.Text.Digits

namespace MarketFeed.Decimal

open Text

variable {d : Decimal} {s : Scan} {ds r : List Char} {c : Char}

def padded (d : Decimal) : List Char :=
  List.replicate (d.scale + 1 - (Nat.toDigits 10 d.magnitude).length) '0' ++
    Nat.toDigits 10 d.magnitude

def wholeDigits (d : Decimal) : List Char := d.padded.take (d.padded.length - d.scale)

def fractionDigits (d : Decimal) : List Char := d.padded.drop (d.padded.length - d.scale)

lemma toList_text (d : Decimal) : d.text.toList =
    (if d.negative then ['-'] else []) ++ d.wholeDigits ++
      if d.scale = 0 then [] else '.' :: d.fractionDigits := by
  rw [text, String.toList_ofList]
  rfl

lemma isDigit_of_mem_padded (hc : c ∈ d.padded) : c.isDigit = true := by
  rcases List.mem_append.mp hc with hc | hc
  · rw [List.eq_of_mem_replicate hc]
    rfl
  · exact (isDigits_iff.mp (isDigits_toDigits _)).2 c hc

lemma digitsValue_zeros_append (k : Nat) (ds : List Char) :
    digitsValue (List.replicate k '0' ++ ds) = digitsValue ds := by
  induction k with
  | zero => rfl
  | succ k ih => exact ih

lemma digitsValue_padded (d : Decimal) : digitsValue d.padded = d.magnitude := by
  rw [padded, digitsValue_zeros_append, digitsValue_toDigits]

lemma scale_lt_length_padded (d : Decimal) : d.scale < d.padded.length := by
  rw [padded, List.length_append, List.length_replicate]
  omega

lemma wholeDigits_append (d : Decimal) : d.wholeDigits ++ d.fractionDigits = d.padded :=
  List.take_append_drop _ _

lemma length_fractionDigits (d : Decimal) : d.fractionDigits.length = d.scale := by
  have h := d.scale_lt_length_padded
  rw [fractionDigits, List.length_drop]
  omega

lemma wholeDigits_ne_nil (d : Decimal) : d.wholeDigits ≠ [] := by
  have h := d.scale_lt_length_padded
  rw [wholeDigits, ne_eq, ← List.length_eq_zero_iff, List.length_take]
  omega

lemma isDigit_of_mem_wholeDigits (hc : c ∈ d.wholeDigits) : c.isDigit = true :=
  isDigit_of_mem_padded (List.mem_of_mem_take hc)

lemma isDigit_of_mem_fractionDigits (hc : c ∈ d.fractionDigits) : c.isDigit = true :=
  isDigit_of_mem_padded (List.mem_of_mem_drop hc)

def withDigits (n : Nat) (ds : List Char) : Nat := ds.foldl (fun n c => 10 * n + digitValue c) n

lemma le_withDigits (n : Nat) (ds : List Char) : n ≤ withDigits n ds := by
  induction ds generalizing n with
  | nil => exact Nat.le_refl n
  | cons c ds ih =>
    have h := ih (10 * n + digitValue c)
    exact le_trans (by omega) h

def Scan.digits (s : Scan) (ds : List Char) : Scan := ds.foldl Scan.digit s

lemma Scan.digits_eq (h : ds ≠ []) :
    s.digits ds = ⟨withDigits s.value ds, true, s.fraction.map (· + ds.length)⟩ := by
  induction ds generalizing s with
  | nil => contradiction
  | cons c ds ih =>
    cases ds with
    | nil => rfl
    | cons x ds =>
      have hrest := ih (s := s.digit c) (List.cons_ne_nil x ds)
      change (s.digit c).digits (x :: ds) = _
      rw [hrest]
      simp [Scan.digit, withDigits, Function.comp_def, Nat.add_comm, Nat.add_left_comm]

lemma scanRounded_digits (hd : ∀ c ∈ ds, c.isDigit = true)
    (hroom : ∀ k ∈ s.fraction, k + ds.length ≤ 28) (hfit : withDigits s.value ds < coeffBound) :
    scanRounded s (ds ++ r) = scanRounded (s.digits ds) r := by
  induction ds generalizing s with
  | nil => rfl
  | cons c ds ih =>
    have hopen : s.fraction ≠ some 28 := by
      intro h
      have hlen := hroom 28 h
      simp at hlen
    have hc := hd c List.mem_cons_self
    have hfit' : withDigits (s.digit c).value ds < coeffBound := hfit
    -- the digits read so far are no more than all of them
    have hlt : (s.digit c).value < coeffBound := Nat.lt_of_le_of_lt (le_withDigits _ ds) hfit'
    rw [List.cons_append, scanRounded, if_neg hopen, if_pos hc, if_pos hlt]
    apply ih
    · exact fun x hx => hd x (List.mem_cons_of_mem c hx)
    · intro k hk
      obtain ⟨j, hj, rfl⟩ := Option.map_eq_some_iff.mp hk
      have hlen := hroom j hj
      rw [List.length_cons] at hlen
      omega
    · exact hfit'

lemma withDigits_whole (d : Decimal) :
    withDigits (withDigits 0 d.wholeDigits) d.fractionDigits = d.magnitude := by
  have h := d.digitsValue_padded
  rwa [← wholeDigits_append, digitsValue, List.foldl_append] at h

def unsignedText (d : Decimal) : List Char :=
  d.wholeDigits ++ if d.scale = 0 then [] else '.' :: d.fractionDigits

lemma scanRounded_unsignedText (d : Decimal) :
    ∃ f : Option Nat, scanRounded .start d.unsignedText = some ⟨d.magnitude, true, f⟩ ∧
      f.getD 0 = d.scale := by
  have hvalue := d.withDigits_whole
  have hfit : withDigits (withDigits 0 d.wholeDigits) d.fractionDigits < coeffBound :=
    hvalue ▸ d.magnitude_lt
  have hwhole : withDigits 0 d.wholeDigits < coeffBound :=
    Nat.lt_of_le_of_lt (le_withDigits _ _) hfit
  rw [unsignedText, scanRounded_digits (fun _ => isDigit_of_mem_wholeDigits) (by simp [Scan.start])
    hwhole, Scan.digits_eq d.wholeDigits_ne_nil]
  by_cases hs : d.scale = 0
  · have hnil : d.fractionDigits = [] := List.length_eq_zero_iff.mp (d.length_fractionDigits.trans hs)
    rw [hnil] at hvalue
    rw [if_pos hs]
    exact ⟨none, congrArg (fun m => some (Scan.mk m true none)) hvalue, hs.symm⟩
  · have hne : d.fractionDigits ≠ [] := fun h => hs (d.length_fractionDigits ▸ congrArg List.length h)
    have hroom : ∀ k ∈ some 0, k + d.fractionDigits.length ≤ 28 := by
      rintro _ ⟨⟩
      rw [Nat.zero_add, length_fractionDigits]
      exact d.scale_le
    rw [if_neg hs]
    change ∃ f, scanRounded ⟨withDigits 0 d.wholeDigits, true, some 0⟩ d.fractionDigits = _ ∧ _
    rw [← List.append_nil d.fractionDigits,
      scanRounded_digits (fun _ => isDigit_of_mem_fractionDigits) hroom hfit, Scan.digits_eq hne, hvalue]
    exact ⟨_, rfl, by simp [length_fractionDigits]⟩

lemma of?_coeff (d : Decimal) : of? d.coeff d.scale = some d.dropZeroSign := by
  have hsign : decide (d.coeff < 0) = (d.negative && !d.isZero) := by
    rw [coeff, isZero]
    by_cases hz : d.magnitude = 0
    · simp [hz]
    · have hpos := Nat.pos_of_ne_zero hz
      cases d.negative <;> simp [hz, hpos]
  rw [of?, natAbs_coeff, hsign, signed?, dif_pos ⟨d.magnitude_lt, d.scale_le⟩]
  rfl

lemma splitSign_text (d : Decimal) : splitSign d.text.toList = (d.negative, d.unsignedText) := by
  rw [toList_text, List.append_assoc, ← unsignedText]
  cases hn : d.negative with
  | true => rfl
  | false =>
    obtain ⟨c, t, hc⟩ := List.exists_cons_of_ne_nil d.wholeDigits_ne_nil
    have hdigit : c.isDigit = true := isDigit_of_mem_wholeDigits (hc ▸ List.mem_cons_self)
    rw [if_neg Bool.false_ne_true, List.nil_append, unsignedText, hc, splitSign.eq_def]
    split <;> simp_all

lemma readRounded_text (d : Decimal) : readRounded d.text.toList = some d.dropZeroSign := by
  obtain ⟨f, hscan, hf⟩ := d.scanRounded_unsignedText
  have hscale : (Scan.mk d.magnitude true f).scale = d.scale := hf
  rw [readRounded, splitSign_text]
  simp only [hscan, Option.bind_some, Scan.result, hscale]
  exact d.of?_coeff

theorem ofJson_toJson (d : Decimal) : ofJson d.toJson = some d.dropZeroSign := by
  rw [toJson, ofJson, ofEncoded?, readRounded_text]

theorem units_dropZeroSign (d : Decimal) : d.dropZeroSign.units = d.units := by
  by_cases h : d.isZero = true
  · have hz : d.dropZeroSign.isZero = true := h
    rw [isZero_iff.mp h, isZero_iff.mp hz]
  · have hd : d.dropZeroSign = d := by simp [dropZeroSign, h]
    rw [hd]

end MarketFeed.Decimal
