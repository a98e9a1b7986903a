import MarketFeed.Json.Canonical
import MarketFeed.Json.Schema
import MarketFeed.Proofs.Text.Digits

namespace MarketFeed.Json

open Text

variable {cs ds r r' : List Char}

def Ends (p : Char → Bool) (r : List Char) : Prop := ∀ c ∈ r.head?, p c = false

def inFraction (c : Char) : Bool := c.isDigit || c = '.'

def inNumber (c : Char) : Bool := inFraction c || c = 'e' || c = 'E'

@[simp] lemma ends_nil {p : Char → Bool} : Ends p [] := by simp [Ends]

@[simp] lemma ends_cons {p : Char → Bool} {c : Char} : Ends p (c :: r) ↔ p c = false := by
  simp [Ends]

lemma Ends.mono {p q : Char → Bool} (h : Ends q r) (hpq : ∀ c, p c = true → q c = true) :
    Ends p r := by
  intro c hc
  by_contra hp
  have hq := hpq c (by simpa using hp)
  simp [h c hc] at hq

lemma Ends.digits (h : Ends inFraction r) : Ends Char.isDigit r :=
  h.mono fun c hc => by simp [inFraction, hc]

lemma Ends.fraction (h : Ends inNumber r) : Ends inFraction r :=
  h.mono fun c hc => by simp [inNumber, hc]

lemma readDigits_append (hd : isDigits ds = true) (hr : Ends Char.isDigit r) :
    readDigits (ds ++ r) = some (ds, r) := by
  obtain ⟨hne, hall⟩ := isDigits_iff.mp hd
  have htake : r.takeWhile Char.isDigit = [] := by
    cases r with
    | nil => rfl
    | cons c r => simp_all
  have hdrop : r.dropWhile Char.isDigit = r := by
    cases r with
    | nil => rfl
    | cons c r => simp_all
  rw [readDigits, List.takeWhile_append_of_pos hall, List.dropWhile_append_of_pos hall, htake,
    hdrop, List.append_nil]
  split
  · contradiction
  · rfl

lemma readDigits_eq_some (h : readDigits cs = some (ds, r)) :
    isDigits ds = true ∧ cs = ds ++ r := by
  rw [readDigits] at h
  split at h
  · cases h
  · rename_i hne
    obtain ⟨rfl, rfl⟩ := Prod.mk.inj (Option.some.inj h)
    exact ⟨isDigits_iff.mpr ⟨hne, List.all_eq_true.mp List.all_takeWhile⟩,
      (List.takeWhile_append_dropWhile).symm⟩

def IsWhole (ds : List Char) : Prop :=
  ds = ['0'] ∨ isDigits ds = true ∧ ds.head? ≠ some '0'

lemma readWhole_append (hd : IsWhole ds) (hr : Ends Char.isDigit r) :
    readWhole (ds ++ r) = some (ds, r) := by
  rcases hd with rfl | ⟨hd, hz⟩
  · rfl
  · have hne := (isDigits_iff.mp hd).1
    rw [readWhole]
    · exact readDigits_append hd hr
    · intro t ht
      apply hz
      rw [← List.head?_append_of_ne_nil ds hne, ht, List.head?_cons]

lemma readWhole_eq_some (h : readWhole cs = some (ds, r)) : IsWhole ds ∧ cs = ds ++ r := by
  rw [readWhole.eq_def] at h
  split at h
  · cases h
    exact ⟨.inl rfl, rfl⟩
  · rename_i hz
    obtain ⟨hd, rfl⟩ := readDigits_eq_some h
    refine ⟨.inr ⟨hd, fun h0 => ?_⟩, rfl⟩
    obtain ⟨t, rfl⟩ := List.head?_eq_some_iff.mp h0
    exact hz _ rfl

lemma IsWhole.isDigits (h : IsWhole ds) : isDigits ds = true := by
  rcases h with rfl | ⟨hd, _⟩
  · rfl
  · exact hd

lemma IsWhole.head?_ne (h : IsWhole ds) : (ds ++ r).head? ≠ some '-' := by
  rw [List.head?_append_of_ne_nil ds (isDigits_iff.mp h.isDigits).1]
  exact head?_ne_of_isDigits h.isDigits rfl

def IsFraction (ds : List Char) : Prop :=
  ds = [] ∨ ∃ body, isDigits body = true ∧ ds = '.' :: body

lemma readFraction_append (hd : IsFraction ds) (hr : Ends inFraction r) :
    readFraction (ds ++ r) = some (ds, r) := by
  rcases hd with rfl | ⟨body, hb, rfl⟩
  · rw [List.nil_append, readFraction]
    rintro t rfl
    simp [inFraction] at hr
  · have hdigits := readDigits_append hb hr.digits
    simp [readFraction, hdigits]

lemma readFraction_eq_some (h : readFraction cs = some (ds, r)) :
    IsFraction ds ∧ cs = ds ++ r := by
  rw [readFraction.eq_def] at h
  split at h
  · obtain ⟨⟨body, r⟩, hb, he⟩ := Option.map_eq_some_iff.mp h
    obtain ⟨rfl, rfl⟩ := Prod.mk.inj he
    obtain ⟨hd, rfl⟩ := readDigits_eq_some hb
    exact ⟨.inr ⟨body, hd, rfl⟩, rfl⟩
  · cases h
    exact ⟨.inl rfl, rfl⟩

lemma IsFraction.ends_append (hd : IsFraction ds) (hr : Ends Char.isDigit r) :
    Ends Char.isDigit (ds ++ r) := by
  rcases hd with rfl | ⟨body, _, rfl⟩
  · exact hr
  · simp

def IsExponent (ds : List Char) : Prop :=
  ds = [] ∨ ∃ sign body, (sign = '+' ∨ sign = '-') ∧ isDigits body = true ∧
    ds = 'e' :: sign :: body

inductive KeptExponent : List Char → List Char → Prop
  | none : KeptExponent [] []
  | unsigned {mark : Char} {ds : List Char} (hm : mark = 'e' ∨ mark = 'E')
      (hd : isDigits ds = true) : KeptExponent (mark :: ds) ('e' :: '+' :: ds)
  | signed {mark sign : Char} {ds : List Char} (hm : mark = 'e' ∨ mark = 'E')
      (hs : sign = '+' ∨ sign = '-') (hd : isDigits ds = true) :
      KeptExponent (mark :: sign :: ds) ('e' :: sign :: ds)

lemma KeptExponent.isExponent (h : KeptExponent cs ds) : IsExponent ds := by
  cases h with
  | none => exact .inl rfl
  | unsigned _ hd => exact .inr ⟨'+', _, .inl rfl, hd, rfl⟩
  | signed _ hs hd => exact .inr ⟨_, _, hs, hd, rfl⟩

lemma IsExponent.kept (h : IsExponent ds) : KeptExponent ds ds := by
  rcases h with rfl | ⟨sign, body, hs, hd, rfl⟩
  · exact .none
  · exact .signed (.inl rfl) hs hd

lemma readExponent_append (h : KeptExponent cs ds) (hr : Ends inNumber r) :
    readExponent (cs ++ r) = some (ds, r) := by
  cases h with
  | none =>
    cases r with
    | nil => rfl
    | cons c t =>
      have hc : ¬(c = 'e' ∨ c = 'E') := by
        rintro (rfl | rfl) <;> simp [inNumber] at hr
      simp [readExponent, hc]
  | unsigned hm hd =>
    have hdigits := readDigits_append hd hr.fraction.digits
    obtain ⟨c, t, rfl, hminus, hplus⟩ := exists_cons_of_isDigits hd
    simp only [readExponent, List.cons_append, hm, Bool.or_eq_true, decide_eq_true_eq, if_true]
    split <;> simp_all
  | signed hm hs hd =>
    have hdigits := readDigits_append hd hr.fraction.digits
    rcases hs with rfl | rfl <;> simp [readExponent, hm, hdigits]

lemma KeptExponent.ends_append (h : KeptExponent cs ds) (hr : Ends inFraction r) :
    Ends inFraction (cs ++ r) := by
  cases h with
  | none => exact hr
  | unsigned hm _ => rcases hm with rfl | rfl <;> simp [inFraction]
  | signed hm _ _ => rcases hm with rfl | rfl <;> simp [inFraction]

lemma readExponent_eq_some (h : readExponent cs = some (ds, r)) :
    ∃ written, KeptExponent written ds ∧ cs = written ++ r := by
  rw [readExponent.eq_def] at h
  split at h
  · rename_i mark t
    split at h
    · rename_i hm
      have hm : mark = 'e' ∨ mark = 'E' := by simpa using hm
      obtain ⟨⟨body, rest⟩, hb, he⟩ := Option.map_eq_some_iff.mp h
      obtain ⟨rfl, rfl⟩ := Prod.mk.inj he
      obtain ⟨hd, hsplit⟩ := readDigits_eq_some hb
      split at hsplit
      · exact ⟨_, .signed hm (.inr rfl) hd, congrArg (mark :: '-' :: ·) hsplit⟩
      · exact ⟨_, .signed hm (.inl rfl) hd, congrArg (mark :: '+' :: ·) hsplit⟩
      · exact ⟨_, .unsigned hm hd, congrArg (mark :: ·) hsplit⟩
    · cases h
      exact ⟨[], .none, rfl⟩
  · cases h
    exact ⟨[], .none, rfl⟩

def IsUnsigned (ds : List Char) : Prop :=
  ∃ whole fraction exponent, IsWhole whole ∧ IsFraction fraction ∧ IsExponent exponent ∧
    ds = whole ++ fraction ++ exponent

def IsLiteral (ds : List Char) : Prop :=
  IsUnsigned ds ∨ ∃ body, IsUnsigned body ∧ ds = '-' :: body

def KeptUnsigned (cs ds : List Char) : Prop :=
  ∃ whole fraction written kept, IsWhole whole ∧ IsFraction fraction ∧
    KeptExponent written kept ∧ cs = whole ++ fraction ++ written ∧ ds = whole ++ fraction ++ kept

/-- A number as it may be written, and the literal that is kept of it. -/
inductive KeptAs : List Char → List Char → Prop
  | bare {cs ds : List Char} (h : KeptUnsigned cs ds) : KeptAs cs ds
  | minus {cs ds : List Char} (h : KeptUnsigned cs ds) : KeptAs ('-' :: cs) ('-' :: ds)

lemma KeptAs.isLiteral (h : KeptAs cs ds) : IsLiteral ds := by
  cases h with
  | bare h =>
    obtain ⟨whole, fraction, _, kept, hw, hf, he, _, rfl⟩ := h
    exact .inl ⟨whole, fraction, kept, hw, hf, he.isExponent, rfl⟩
  | minus h =>
    obtain ⟨whole, fraction, _, kept, hw, hf, he, _, rfl⟩ := h
    exact .inr ⟨_, ⟨whole, fraction, kept, hw, hf, he.isExponent, rfl⟩, rfl⟩

lemma IsUnsigned.kept (h : IsUnsigned ds) : KeptUnsigned ds ds := by
  obtain ⟨whole, fraction, exponent, hw, hf, he, rfl⟩ := h
  exact ⟨whole, fraction, exponent, exponent, hw, hf, he.kept, rfl, rfl⟩

lemma IsLiteral.kept (h : IsLiteral ds) : KeptAs ds ds := by
  rcases h with h | ⟨body, h, rfl⟩
  · exact .bare h.kept
  · exact .minus h.kept

def readUnsigned (cs : List Char) : Option (List Char × List Char) := do
  let (whole, r) ← readWhole cs
  let (fraction, r) ← readFraction r
  let (exponent, r) ← readExponent r
  some (whole ++ fraction ++ exponent, r)

lemma readNumber_minus : readNumber ('-' :: cs) =
    (readUnsigned cs).map fun (ds, r) => ('-' :: ds, r) := by
  simp only [readNumber, readUnsigned, Option.bind_eq_bind, Option.map_bind, Function.comp_def,
    Option.map_some, List.cons_append, List.nil_append]

lemma readNumber_of_head (h : cs.head? ≠ some '-') : readNumber cs = readUnsigned cs := by
  rw [readNumber.eq_def]
  split
  rename_i hs
  split at hs
  · exact absurd rfl h
  · cases hs
    rfl

lemma KeptUnsigned.head?_ne (h : KeptUnsigned cs ds) : (cs ++ r).head? ≠ some '-' := by
  obtain ⟨whole, fraction, written, _, hw, _, _, rfl, _⟩ := h
  rw [List.append_assoc, List.append_assoc]
  exact hw.head?_ne

lemma readUnsigned_append (h : KeptUnsigned cs ds) (hr : Ends inNumber r) :
    readUnsigned (cs ++ r) = some (ds, r) := by
  obtain ⟨whole, fraction, written, kept, hw, hf, he, rfl, rfl⟩ := h
  have hexponent := he.ends_append hr.fraction
  have hfraction := hf.ends_append hexponent.digits
  rw [List.append_assoc, List.append_assoc, readUnsigned, readWhole_append hw hfraction]
  simp [readFraction_append hf hexponent, readExponent_append he hr]

lemma readUnsigned_eq_some (h : readUnsigned cs = some (ds, r)) :
    ∃ written, KeptUnsigned written ds ∧ cs = written ++ r := by
  obtain ⟨⟨whole, t⟩, hw, h⟩ := Option.bind_eq_some_iff.mp h
  obtain ⟨⟨fraction, u⟩, hf, h⟩ := Option.bind_eq_some_iff.mp h
  obtain ⟨⟨kept, v⟩, he, h⟩ := Option.bind_eq_some_iff.mp h
  cases h
  obtain ⟨hwhole, rfl⟩ := readWhole_eq_some hw
  obtain ⟨hfraction, rfl⟩ := readFraction_eq_some hf
  obtain ⟨written, hexponent, rfl⟩ := readExponent_eq_some he
  refine ⟨whole ++ fraction ++ written, ?_, by simp only [List.append_assoc]⟩
  exact ⟨whole, fraction, written, kept, hwhole, hfraction, hexponent, rfl, rfl⟩

lemma readNumber_append (h : KeptAs cs ds) (hr : Ends inNumber r) :
    readNumber (cs ++ r) = some (ds, r) := by
  cases h with
  | bare h => rw [readNumber_of_head h.head?_ne, readUnsigned_append h hr]
  | minus h => rw [List.cons_append, readNumber_minus, readUnsigned_append h hr, Option.map_some]

lemma readNumber_eq_some (h : readNumber cs = some (ds, r)) :
    ∃ written, KeptAs written ds ∧ cs = written ++ r := by
  by_cases hm : cs.head? = some '-'
  · obtain ⟨t, rfl⟩ := List.head?_eq_some_iff.mp hm
    rw [readNumber_minus] at h
    obtain ⟨⟨body, r⟩, hb, he⟩ := Option.map_eq_some_iff.mp h
    obtain ⟨rfl, rfl⟩ := Prod.mk.inj he
    obtain ⟨written, hk, rfl⟩ := readUnsigned_eq_some hb
    exact ⟨'-' :: written, .minus hk, rfl⟩
  · rw [readNumber_of_head hm] at h
    obtain ⟨written, hk, hcs⟩ := readUnsigned_eq_some h
    exact ⟨written, .bare hk, hcs⟩

theorem readNumber_eq_some_iff : readNumber cs = some (ds, []) ↔ KeptAs cs ds := by
  constructor
  · intro h
    obtain ⟨written, hk, rfl⟩ := readNumber_eq_some h
    rwa [List.append_nil]
  · intro h
    have hread := readNumber_append h ends_nil
    rwa [List.append_nil] at hread

lemma literal?_eq_some {s t : String} (h : literal? s = some t) : IsLiteral t.toList := by
  rw [literal?] at h
  split at h
  · rename_i hn
    cases h
    rw [String.toList_ofList]
    exact (readNumber_eq_some_iff.mp hn).isLiteral
  · cases h

lemma isUnsigned_toDigits (n : Nat) : IsUnsigned (Nat.toDigits 10 n) := by
  refine ⟨Nat.toDigits 10 n, [], [], ?_, .inl rfl, .inl rfl, by simp⟩
  by_cases hn : n = 0
  · rw [hn]
    exact .inl rfl
  · exact .inr ⟨isDigits_toDigits n, head?_toDigits hn⟩

lemma isLiteral_toString (n : Int) : IsLiteral (toString n).toList := by
  cases n with
  | ofNat m =>
    change IsLiteral (toString m).toList
    rw [toList_toString_nat]
    exact .inl (isUnsigned_toDigits m)
  | negSucc m =>
    rw [toList_toString_negSucc]
    exact .inr ⟨_, isUnsigned_toDigits (m + 1), rfl⟩

lemma wholeNumber_ofInt (n : Int) : wholeNumber (.ofInt n) = some n := by
  rw [ofInt, wholeNumber, if_neg (toString_ne_minus_zero n), integer?_toString]

end MarketFeed.Json
