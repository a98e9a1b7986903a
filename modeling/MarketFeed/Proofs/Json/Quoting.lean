import MarketFeed.Proofs.Decimal.Scientific
import MarketFeed.Proofs.Json.Kept

namespace MarketFeed.Json

open Text

variable {c : Char} {cs ds r t n : List Char} {v w : Json}

lemma ofText?_written (h : KeptAs t n) :
    ofText? (String.ofList t) = some (.num (String.ofList n)) := by
  have hparse : parse? (String.ofList t) = some (.num (String.ofList n)) := by
    rw [parse?, String.toList_ofList, readValue_number h.startsNumber (readNumber_eq_some_iff.mpr h)]
    rfl
  rw [ofText?, hparse, Option.bind_some, canonical?.eq_def]

lemma ofText?_quoted (s : String) : ofText? (Json.str s).compact = some (.str s) := by
  rw [ofText?_compact (fits_str (by decide) s), canonical?.eq_def]

def inWritten (c : Char) : Bool := inNumber c || c = '+' || c = '-'

lemma inWritten_of_isDigits (h : Text.isDigits cs = true) : ∀ c ∈ cs, inWritten c = true := by
  intro c hc
  have hd := (Text.isDigits_iff.mp h).2 c hc
  simp [inWritten, inNumber, inFraction, hd]

lemma IsFraction.inWritten (h : IsFraction cs) : ∀ c ∈ cs, inWritten c = true := by
  rcases h with rfl | ⟨body, hb, rfl⟩
  · simp
  · exact List.forall_mem_cons.mpr ⟨by decide, inWritten_of_isDigits hb⟩

lemma KeptExponent.inWritten (h : KeptExponent cs ds) : ∀ c ∈ cs, inWritten c = true := by
  cases h with
  | none => simp
  | unsigned hm hb =>
    have hb := inWritten_of_isDigits hb
    rcases hm with rfl | rfl <;> exact List.forall_mem_cons.mpr ⟨by decide, hb⟩
  | @signed _ sign _ hm hs hb =>
    have hsign : Json.inWritten sign = true := by rcases hs with rfl | rfl <;> decide
    have hb := inWritten_of_isDigits hb
    rcases hm with rfl | rfl <;> exact List.forall_mem_cons.mpr
      ⟨by decide, List.forall_mem_cons.mpr ⟨hsign, hb⟩⟩

lemma KeptUnsigned.inWritten (h : KeptUnsigned cs ds) : ∀ c ∈ cs, inWritten c = true := by
  obtain ⟨whole, fraction, written, kept, hw, hf, he, rfl, rfl⟩ := h
  have hbase := List.forall_mem_append.mpr ⟨inWritten_of_isDigits hw.isDigits, hf.inWritten⟩
  exact List.forall_mem_append.mpr ⟨hbase, he.inWritten⟩

lemma KeptAs.inWritten (h : KeptAs cs ds) : ∀ c ∈ cs, inWritten c = true := by
  cases h with
  | bare h => exact h.inWritten
  | minus h => exact List.forall_mem_cons.mpr ⟨by decide, h.inWritten⟩

lemma le_toNat_of_inWritten (h : inWritten c = true) : '+'.toNat ≤ c.toNat := by
  simp only [inWritten, inNumber, inFraction, Bool.or_eq_true, decide_eq_true_eq] at h
  rcases h with ((((hd | rfl) | rfl) | rfl) | rfl) | rfl
  · simp only [Char.isDigit, Bool.and_eq_true, decide_eq_true_eq] at hd
    exact le_trans (by decide) hd.1
  all_goals decide

lemma escapeChar_of_inWritten (h : inWritten c = true) : escapeChar c = [c] := by
  have hle := le_toNat_of_inWritten h
  have hne (d : Char) (hd : d.toNat < '+'.toNat) : c ≠ d := by
    rintro rfl
    exact absurd hle (not_le.mpr hd)
  have hb : c ≠ '\\' := by
    rintro rfl
    cases h
  rw [escapeChar, if_neg (hne _ (by decide)), if_neg hb, if_neg (hne _ (by decide)),
    if_neg (hne _ (by decide)), if_neg (hne _ (by decide)), if_neg (hne _ (by decide)),
    if_neg (hne _ (by decide)), if_neg (not_lt.mpr (le_trans (by decide) hle))]

lemma KeptAs.readString_eq (ht : KeptAs t n) :
    readString (t ++ '"' :: r) = some (some (String.ofList t), r) := by
  have hplain : ∀ c ∈ t, escapeChar c = [c] :=
    fun c hc => escapeChar_of_inWritten (ht.inWritten c hc)
  have hescaped : t.flatMap escapeChar = t := by
    rw [List.flatMap_congr hplain]
    exact List.flatMap_singleton' t
  have h := readString_escaped (String.ofList t) r
  rwa [String.toList_ofList, hescaped] at h

lemma no_mark_of_isDigits (h : isDigits ds = true) : ∀ c ∈ ds, c ≠ 'e' ∧ c ≠ 'E' := by
  intro c hc
  have hd := (isDigits_iff.mp h).2 c hc
  constructor <;> rintro rfl <;> simp at hd

lemma no_mark_of_isFraction (h : IsFraction ds) : ∀ c ∈ ds, c ≠ 'e' ∧ c ≠ 'E' := by
  rcases h with rfl | ⟨body, hb, rfl⟩
  · simp
  · exact List.forall_mem_cons.mpr ⟨by decide, no_mark_of_isDigits hb⟩

inductive Respelled : List Char → List Char → Prop
  | same (t : List Char) : Respelled t t
  | exponent {base written kept : List Char} {mark : Char}
      (hb : ∀ c ∈ base, c ≠ 'e' ∧ c ≠ 'E') (hm : mark = 'e' ∨ mark = 'E')
      (hw : written = kept ∨ isDigits written = true ∧ kept = '+' :: written) :
      Respelled (base ++ mark :: written) (base ++ 'e' :: kept)

lemma KeptUnsigned.respelled (h : KeptUnsigned t n) : Respelled t n := by
  obtain ⟨whole, fraction, written, kept, hw, hf, he, rfl, rfl⟩ := h
  have hbase := List.forall_mem_append.mpr
    ⟨no_mark_of_isDigits hw.isDigits, no_mark_of_isFraction hf⟩
  cases he with
  | none => exact .same _
  | unsigned hm hd => exact .exponent hbase hm (Or.inr ⟨hd, rfl⟩)
  | signed hm hs hd => exact .exponent hbase hm (Or.inl rfl)

lemma Respelled.minus (h : Respelled t n) : Respelled ('-' :: t) ('-' :: n) := by
  cases h with
  | same => exact .same _
  | exponent hb hm hw => exact .exponent (List.forall_mem_cons.mpr ⟨by decide, hb⟩) hm hw

lemma KeptAs.respelled (h : KeptAs t n) : Respelled t n := by
  cases h with
  | bare h => exact h.respelled
  | minus h => exact h.respelled.minus

lemma KeptAs.eq_of_no_mark (h : KeptAs t n) (ht : ∀ c ∈ t, c ≠ 'e' ∧ c ≠ 'E') : t = n := by
  cases h.respelled with
  | same => rfl
  | @exponent base _ _ mark _ hm _ =>
    have hne := ht mark (List.mem_append_right base List.mem_cons_self)
    exact (hm.elim hne.1 hne.2).elim

lemma integer?_of_mark {base : List Char} {mark : Char} (hm : mark = 'e' ∨ mark = 'E') :
    natural? (base ++ mark :: r) = none ∧ integer? (base ++ mark :: r) = none := by
  have hmem : mark ∈ base ++ mark :: r := List.mem_append_right _ List.mem_cons_self
  have hno : ∀ p ds, Signed ds p (base ++ mark :: r) → isDigits ds = true → False := by
    intro p ds hs hd
    have hne := hs.forall_mem (no_mark_of_isDigits hd) (by decide) (by decide) mark hmem
    exact hm.elim hne.1 hne.2
  constructor
  · refine Option.eq_none_iff_forall_ne_some.mpr fun k hk => ?_
    obtain ⟨ds, hs, hd, _⟩ := natural?_eq_some_iff.mp hk
    exact hno _ _ hs hd
  · refine Option.eq_none_iff_forall_ne_some.mpr fun k hk => ?_
    obtain ⟨p, ds, hs, hd, _⟩ := integer?_eq_some_iff.mp hk
    exact hno _ _ hs hd

lemma KeptAs.natural?_eq (h : KeptAs t n) : natural? t = natural? n := by
  cases h.respelled with
  | same => rfl
  | exponent _ hm _ => rw [(integer?_of_mark hm).1, (integer?_of_mark (Or.inl rfl)).1]

lemma KeptAs.integer?_eq (h : KeptAs t n) : integer? t = integer? n := by
  cases h.respelled with
  | same => rfl
  | exponent _ hm _ => rw [(integer?_of_mark hm).2, (integer?_of_mark (Or.inl rfl)).2]

lemma KeptAs.ofText?_eq {t n : String} (h : KeptAs t.toList n.toList) :
    Decimal.ofText? t = Decimal.ofText? n := by
  rw [Decimal.ofText?, Decimal.ofText?]
  have hr := h.respelled
  generalize t.toList = cs at hr
  generalize n.toList = ds at hr
  cases hr with
  | same => rfl
  | @exponent base written kept mark hb hm hw =>
    have hread : Decimal.readScientific .refuse (base ++ 'e' :: kept) =
        Decimal.readScientific .refuse (base ++ mark :: written) := by
      rcases hw with rfl | ⟨hd, rfl⟩
      · exact Decimal.readScientific_mark .refuse hb hm
      · exact Decimal.readScientific_plus .refuse hb hm hd
    have hwritten : Decimal.hasExponent (base ++ mark :: written) = true :=
      Decimal.hasExponent_of_mark hm
    have hkept : Decimal.hasExponent (base ++ 'e' :: kept) = true :=
      Decimal.hasExponent_of_mark (Or.inl rfl)
    simp only [hwritten, hkept, hread, if_true]

lemma KeptAs.ofScaledText?_eq {t n : String} (h : KeptAs t.toList n.toList) (k : Nat) :
    Decimal.ofScaledText? k t = Decimal.ofScaledText? k n := by
  rw [Decimal.ofScaledText?, Decimal.ofScaledText?, integerWithin?, integerWithin?, h.integer?_eq]

lemma KeptAs.uint64?_eq (h : KeptAs t n) : uint64? t = uint64? n := by
  rw [uint64?, uint64?, naturalBelow?, naturalBelow?, h.natural?_eq]

lemma KeptAs.int64?_eq (h : KeptAs t n) : int64? t = int64? n := by
  rw [int64?, int64?, integerWithin?, integerWithin?, h.integer?_eq]

end MarketFeed.Json
