import Mathlib.Algebra.Field.Rat
import Mathlib.Tactic.Linarith
import Mathlib.Tactic.Ring
import MarketFeed.Proofs.Text.Digits

namespace MarketFeed.Text

variable {cs ds body a b : List Char} {p q : Bool}

inductive Signed (body : List Char) : Bool → List Char → Prop
  | bare : Signed body false body
  | plus : Signed body false ('+' :: body)
  | minus : Signed body true ('-' :: body)

def signed {α : Type} [Neg α] (negative : Bool) (x : α) : α := if negative then -x else x

def IsInteger (cs : List Char) (n : ℤ) : Prop :=
  ∃ negative ds, Signed ds negative cs ∧ isDigits ds = true ∧
    n = signed negative (digitsValue ds : ℤ)

structure IsMagnitude (cs : List Char) : Prop where
  only : ∀ c ∈ cs, c.isDigit = true ∨ c = '.' ∨ c = '_'
  some_digit : ∃ c ∈ cs, c.isDigit = true
  one_point : cs.count '.' ≤ 1
  digit_first : '_' ∉ cs.takeWhile (!·.isDigit)

def digitsOf (cs : List Char) : List Char := cs.filter Char.isDigit

def fractionOf (cs : List Char) : List Char := digitsOf (cs.dropWhile (· != '.'))

def amount (cs : List Char) : ℚ := digitsValue (digitsOf cs) / 10 ^ (fractionOf cs).length

def IsPlain (cs : List Char) (x : ℚ) : Prop :=
  ∃ negative body, Signed body negative cs ∧ IsMagnitude body ∧ x = signed negative (amount body)

inductive IsPower : List Char → ℤ → Prop
  | up {cs ds : List Char} (hs : Signed ds false cs) (hd : isDigits ds = true) :
      IsPower cs (digitsValue ds)
  | down {cs ds : List Char} (hs : Signed ds false cs) (hd : isDigits ds = true) :
      IsPower ('-' :: cs) (-(digitsValue ds : ℤ))

def IsScientific (cs : List Char) (x : ℚ) (e : ℤ) : Prop :=
  ∃ base mark power, (mark = 'e' ∨ mark = 'E') ∧ cs = base ++ mark :: power ∧ IsPlain base x ∧
    IsPower power e

lemma foldl_digits (n : ℕ) (ds : List Char) :
    ds.foldl (fun n c => 10 * n + digitValue c) n = n * 10 ^ ds.length + digitsValue ds := by
  induction ds generalizing n with
  | nil => simp [digitsValue]
  | cons c ds ih =>
    have hcons : digitsValue (c :: ds) =
        (10 * 0 + digitValue c) * 10 ^ ds.length + digitsValue ds := ih (10 * 0 + digitValue c)
    rw [List.foldl_cons, ih, hcons, List.length_cons, pow_succ]
    ring

lemma digitsValue_cons (c : Char) (ds : List Char) :
    digitsValue (c :: ds) = digitValue c * 10 ^ ds.length + digitsValue ds := by
  rw [digitsValue, List.foldl_cons, foldl_digits, Nat.mul_zero, Nat.zero_add]

lemma digitValue_lt {c : Char} (h : c.isDigit = true) : digitValue c < 10 := by
  have hle : c.toNat ≤ '9'.toNat := by
    simp only [Char.isDigit, Bool.and_eq_true, decide_eq_true_eq] at h
    exact h.2
  rw [digitValue]
  simp at hle ⊢
  omega

lemma digitsValue_lt (h : ∀ c ∈ ds, c.isDigit = true) : digitsValue ds < 10 ^ ds.length := by
  induction ds with
  | nil => decide
  | cons c ds ih =>
    obtain ⟨hc, hds⟩ := List.forall_mem_cons.mp h
    have hrest := ih hds
    have hdigit : digitValue c * 10 ^ ds.length ≤ 9 * 10 ^ ds.length :=
      Nat.mul_le_mul_right _ (Nat.le_of_lt_succ (digitValue_lt hc))
    rw [digitsValue_cons, List.length_cons, pow_succ]
    linarith

lemma digitChar_digitValue {c : Char} (h : c.isDigit = true) : Nat.digitChar (digitValue c) = c := by
  have hlt := digitValue_lt h
  have hle : '0'.toNat ≤ c.toNat := by
    simp only [Char.isDigit, Bool.and_eq_true, decide_eq_true_eq] at h
    exact h.1
  apply Char.toNat_inj.mp
  rw [Nat.toNat_digitChar_of_lt_ten hlt, digitValue]
  simp at hle ⊢
  omega

lemma toDigits_foldl {n : ℕ} (hn : 0 < n) (h : ∀ c ∈ ds, c.isDigit = true) :
    Nat.toDigits 10 (ds.foldl (fun n c => 10 * n + digitValue c) n) = Nat.toDigits 10 n ++ ds := by
  induction ds generalizing n with
  | nil => exact (List.append_nil _).symm
  | cons c ds ih =>
    obtain ⟨hc, hds⟩ := List.forall_mem_cons.mp h
    have hdigit := Nat.toDigits_append_toDigits (b := 10) (by decide) hn (digitValue_lt hc)
    rw [Nat.toDigits_of_lt_base (digitValue_lt hc), digitChar_digitValue hc] at hdigit
    rw [List.foldl_cons, ih (by omega) hds, ← hdigit, List.append_assoc]
    rfl

lemma toDigits_digitsValue (hd : isDigits ds = true) (hz : ds.head? ≠ some '0') :
    Nat.toDigits 10 (digitsValue ds) = ds := by
  obtain ⟨hne, hall⟩ := isDigits_iff.mp hd
  obtain ⟨c, r, rfl⟩ := List.exists_cons_of_ne_nil hne
  obtain ⟨hc, hr⟩ := List.forall_mem_cons.mp hall
  have hpos : 0 < digitValue c := by
    refine Nat.pos_of_ne_zero fun h0 => hz ?_
    rw [← digitChar_digitValue hc, h0]
    rfl
  rw [digitsValue, List.foldl_cons, Nat.mul_zero, Nat.zero_add, toDigits_foldl hpos hr,
    Nat.toDigits_of_lt_base (digitValue_lt hc), digitChar_digitValue hc]
  rfl

def Unsigned (cs : List Char) : Prop := cs.head? ≠ some '+' ∧ cs.head? ≠ some '-'

lemma Signed.unique (h : Signed a p cs) (h' : Signed b q cs) (ha : Unsigned a) (hb : Unsigned b) :
    a = b ∧ p = q := by
  cases h with
  | bare =>
    cases h' with
    | bare => exact ⟨rfl, rfl⟩
    | plus => exact absurd rfl ha.1
    | minus => exact absurd rfl ha.2
  | plus =>
    cases h' with
    | bare => exact absurd rfl hb.1
    | plus => exact ⟨rfl, rfl⟩
  | minus =>
    cases h' with
    | bare => exact absurd rfl hb.2
    | minus => exact ⟨rfl, rfl⟩

lemma unsigned_of_isDigits (h : isDigits ds = true) : Unsigned ds :=
  ⟨head?_ne_of_isDigits h rfl, head?_ne_of_isDigits h rfl⟩

instance : Decidable (IsMagnitude cs) :=
  decidable_of_iff
    (cs.all (fun c => c.isDigit || c = '.' || c = '_') ∧ cs.any Char.isDigit ∧ cs.count '.' ≤ 1 ∧
      '_' ∉ cs.takeWhile (!·.isDigit)) <| by
    simp only [List.all_eq_true, List.any_eq_true, Bool.or_eq_true, decide_eq_true_eq, or_assoc]
    exact ⟨fun ⟨ho, hd, hp, hf⟩ => ⟨ho, hd, hp, hf⟩, fun ⟨ho, hd, hp, hf⟩ => ⟨ho, hd, hp, hf⟩⟩

lemma IsMagnitude.ne_of_mem (h : IsMagnitude cs) {c : Char} (hc : c ∈ cs) :
    c ≠ '+' ∧ c ≠ '-' ∧ c ≠ 'e' ∧ c ≠ 'E' := by
  rcases h.only c hc with hd | rfl | rfl
  · refine ⟨?_, ?_, ?_, ?_⟩ <;> rintro rfl <;> simp at hd
  · decide
  · decide

lemma IsMagnitude.unsigned (h : IsMagnitude cs) : Unsigned cs :=
  ⟨fun hp => (h.ne_of_mem (List.mem_of_mem_head? hp)).1 rfl,
    fun hm => (h.ne_of_mem (List.mem_of_mem_head? hm)).2.1 rfl⟩

lemma Signed.forall_mem {P : Char → Prop} (h : Signed body p cs) (hb : ∀ c ∈ body, P c)
    (hp : P '+') (hm : P '-') : ∀ c ∈ cs, P c := by
  cases h with
  | bare => exact hb
  | plus => exact List.forall_mem_cons.mpr ⟨hp, hb⟩
  | minus => exact List.forall_mem_cons.mpr ⟨hm, hb⟩

lemma natural?_eq_some_iff {n : Nat} :
    natural? cs = some n ↔ ∃ ds, Signed ds false cs ∧ isDigits ds = true ∧ n = digitsValue ds := by
  constructor
  · intro h
    rw [natural?.eq_def] at h
    simp only [Option.ite_none_right_eq_some, Option.some.injEq] at h
    split at h
    · exact ⟨_, .plus, h.1, h.2.symm⟩
    · exact ⟨_, .bare, h.1, h.2.symm⟩
  · rintro ⟨ds, hs, hd, rfl⟩
    cases hs with
    | bare => exact natural?_of_isDigits hd
    | plus => exact if_pos hd

lemma integer?_eq_some_iff {n : ℤ} : integer? cs = some n ↔ IsInteger cs n := by
  constructor
  · intro h
    rw [integer?.eq_def] at h
    split at h
    · obtain ⟨hd, hn⟩ := Option.ite_none_right_eq_some.mp h
      exact ⟨true, _, .minus, hd, (Option.some.inj hn).symm⟩
    · obtain ⟨m, hm, rfl⟩ := Option.map_eq_some_iff.mp h
      obtain ⟨ds, hs, hd, rfl⟩ := natural?_eq_some_iff.mp hm
      exact ⟨false, ds, hs, hd, rfl⟩
  · rintro ⟨p, ds, hs, hd, rfl⟩
    cases hs with
    | bare => exact integer?_of_isDigits hd
    | plus =>
      have hn : natural? ('+' :: ds) = some (digitsValue ds) :=
        natural?_eq_some_iff.mpr ⟨ds, .plus, hd, rfl⟩
      rw [integer?, hn, Option.map_some]
      · rfl
      · simp
    | minus => exact if_pos hd

lemma IsPlain.unique {x y : ℚ} (hx : IsPlain cs x) (hy : IsPlain cs y) : x = y := by
  obtain ⟨p, a, ha, hma, rfl⟩ := hx
  obtain ⟨q, b, hb, hmb, rfl⟩ := hy
  obtain ⟨rfl, rfl⟩ := ha.unique hb hma.unsigned hmb.unsigned
  rfl

lemma IsPlain.no_mark {x : ℚ} (h : IsPlain cs x) : ∀ c ∈ cs, c ≠ 'e' ∧ c ≠ 'E' := by
  obtain ⟨p, body, hs, hb, rfl⟩ := h
  exact hs.forall_mem (fun c hc => (hb.ne_of_mem hc).2.2) (by decide) (by decide)

lemma IsPower.unique {m n : ℤ} (hm : IsPower cs m) (hn : IsPower cs n) : m = n := by
  cases hm with
  | up hs hd =>
    cases hn with
    | up hs' hd' =>
      obtain ⟨rfl, _⟩ := hs.unique hs' (unsigned_of_isDigits hd) (unsigned_of_isDigits hd')
      rfl
    | down hs' hd' =>
      cases hs with
      | bare => exact absurd rfl (unsigned_of_isDigits hd).2
  | down hs hd =>
    cases hn with
    | up hs' hd' =>
      cases hs' with
      | bare => exact absurd rfl (unsigned_of_isDigits hd').2
    | down hs' hd' =>
      obtain ⟨rfl, _⟩ := hs.unique hs' (unsigned_of_isDigits hd) (unsigned_of_isDigits hd')
      rfl

lemma split_unique {P : Char → Prop} {m n : Char} {r t : List Char}
    (h : a ++ m :: r = b ++ n :: t) (ha : ∀ c ∈ a, P c) (hb : ∀ c ∈ b, P c) (hm : ¬P m)
    (hn : ¬P n) : a = b ∧ r = t := by
  induction a generalizing b with
  | nil =>
    cases b with
    | nil => exact ⟨rfl, (List.cons.inj h).2⟩
    | cons x b => exact absurd ((List.cons.inj h).1 ▸ hb x List.mem_cons_self) hm
  | cons x a ih =>
    cases b with
    | nil => exact absurd ((List.cons.inj h).1 ▸ ha x List.mem_cons_self) hn
    | cons y b =>
      obtain ⟨rfl, hrest⟩ := List.cons.inj h
      obtain ⟨rfl, rfl⟩ := ih hrest (List.forall_mem_cons.mp ha).2 (List.forall_mem_cons.mp hb).2
      exact ⟨rfl, rfl⟩

lemma IsScientific.unique {x y : ℚ} {m n : ℤ} (hx : IsScientific cs x m)
    (hy : IsScientific cs y n) : x = y ∧ m = n := by
  obtain ⟨a, mark, r, hmark, rfl, ha, hr⟩ := hx
  obtain ⟨b, mark', t, hmark', he, hb, ht⟩ := hy
  obtain ⟨rfl, rfl⟩ := split_unique he ha.no_mark hb.no_mark
    (fun h => hmark.elim h.1 h.2) (fun h => hmark'.elim h.1 h.2)
  exact ⟨ha.unique hb, hr.unique ht⟩

end MarketFeed.Text
