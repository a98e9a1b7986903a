import Mathlib.Data.List.Nodup
import Mathlib.Logic.Function.Basic
import Mathlib.Tactic.Lemma
import MarketFeed.Book

namespace MarketFeed

abbrev Depth := Int → Int

abbrev Quotes := BookSide → Depth

lemma Decimal.toNat_lt_coeffBound (n : UInt64) : n.toNat < coeffBound :=
  Nat.lt_trans n.toNat_lt (by decide)

def Decimal.whole (n : UInt64) : Decimal :=
  { zero with magnitude := n.toNat, magnitude_lt := toNat_lt_coeffBound n }

lemma Decimal.units_zero : Decimal.zero.units = 0 := Int.zero_mul _

lemma Level.isRemoval_iff {l : Level} : l.isRemoval = true ↔ l.size.units = 0 :=
  Decimal.isZero_iff

lemma Level.not_isRemoval_iff {l : Level} : l.isRemoval = false ↔ l.size.units ≠ 0 := by
  rw [← Bool.not_eq_true, Level.isRemoval_iff]

namespace Depth

def put (m : Depth) (l : Level) : Depth := Function.update m l.price.units l.size.units

def putAll (m : Depth) (ls : List Level) : Depth := ls.foldl put m

@[simp] lemma putAll_nil (m : Depth) : m.putAll [] = m := rfl

@[simp] lemma putAll_cons (m : Depth) (l : Level) (ls : List Level) :
    m.putAll (l :: ls) = (m.put l).putAll ls := rfl

lemma putAll_append (m : Depth) (ls ls' : List Level) :
    m.putAll (ls ++ ls') = (m.putAll ls).putAll ls' := List.foldl_append

lemma putAll_of_forall_ne {m : Depth} {ls : List Level} {p : Int}
    (h : ∀ l ∈ ls, l.price.units ≠ p) : m.putAll ls p = m p := by
  induction ls generalizing m with
  | nil => rfl
  | cons l r ih =>
    obtain ⟨hl, hr⟩ := List.forall_mem_cons.mp h
    rw [putAll_cons, ih hr, put, Function.update_of_ne hl.symm]

lemma putAll_congr {m m' : Depth} {ls : List Level} {p : Int}
    (h : (∃ l ∈ ls, l.price.units = p) ∨ m p = m' p) : m.putAll ls p = m'.putAll ls p := by
  induction ls generalizing m m' with
  | nil => simpa using h
  | cons l r ih =>
    refine ih ?_
    by_cases hl : l.price.units = p
    · subst hl
      exact Or.inr (by simp [put])
    · rcases h with ⟨x, hx, hp⟩ | h
      · rcases List.mem_cons.mp hx with rfl | hx
        · exact absurd hp hl
        · exact Or.inl ⟨x, hx, hp⟩
      · exact Or.inr (by rw [put, put, Function.update_of_ne (Ne.symm hl),
          Function.update_of_ne (Ne.symm hl), h])

lemma putAll_putAll (m : Depth) (ls : List Level) : (m.putAll ls).putAll ls = m.putAll ls := by
  funext p
  apply putAll_congr
  by_cases h : ∃ l ∈ ls, l.price.units = p
  · exact Or.inl h
  · refine Or.inr (putAll_of_forall_ne fun l hl e => h ⟨l, hl, e⟩)

lemma putAll_of_agree {m : Depth} {ls : List Level} {p q : Int}
    (he : ∃ l ∈ ls, l.price.units = p) (h : ∀ l ∈ ls, l.price.units = p → l.size.units = q) :
    m.putAll ls p = q := by
  induction ls generalizing m with
  | nil => simp at he
  | cons l r ih =>
    obtain ⟨hl, hr⟩ := List.forall_mem_cons.mp h
    by_cases hr' : ∃ x ∈ r, x.price.units = p
    · exact ih hr' hr
    · have hp : l.price.units = p := by
        obtain ⟨x, hx, hp⟩ := he
        rcases List.mem_cons.mp hx with rfl | hx
        · exact hp
        · exact absurd ⟨x, hx, hp⟩ hr'
      rw [putAll_cons, putAll_of_forall_ne fun x hx e => hr' ⟨x, hx, e⟩, put, ← hl hp, ← hp,
        Function.update_self]

end Depth

def depthOf : List Level → Depth
  | [] => fun _ => 0
  | l :: r => (depthOf r).put l

@[simp] lemma depthOf_nil : depthOf [] = fun _ => 0 := rfl

@[simp] lemma depthOf_cons (l : Level) (r : List Level) : depthOf (l :: r) = (depthOf r).put l :=
  rfl

lemma depthOf_eq_putAll (ls : List Level) : depthOf ls = Depth.putAll (fun _ => 0) ls.reverse := by
  induction ls with
  | nil => rfl
  | cons l r ih => rw [depthOf_cons, ih, List.reverse_cons, Depth.putAll_append]; rfl

lemma depthOf_of_forall_ne {ls : List Level} {p : Int} (h : ∀ l ∈ ls, l.price.units ≠ p) :
    depthOf ls p = 0 := by
  rw [depthOf_eq_putAll]
  exact Depth.putAll_of_forall_ne fun l hl => h l (List.mem_reverse.mp hl)

def Distinct (ls : List Level) : Prop := (ls.map (·.price.units)).Nodup

lemma Distinct.eq_of_units_eq {ls : List Level} (h : Distinct ls) {a b : Level} (ha : a ∈ ls)
    (hb : b ∈ ls) (e : a.price.units = b.price.units) : a = b :=
  List.inj_on_of_nodup_map h ha hb e

lemma depthOf_of_mem {ls : List Level} (h : Distinct ls) {l : Level} (hl : l ∈ ls) :
    depthOf ls l.price.units = l.size.units := by
  rw [depthOf_eq_putAll]
  refine Depth.putAll_of_agree ⟨l, List.mem_reverse.mpr hl, rfl⟩ fun x hx e => ?_
  rw [h.eq_of_units_eq (List.mem_reverse.mp hx) hl e]

lemma putAll_zero_eq_depthOf {ls : List Level} (h : Distinct ls) :
    Depth.putAll (fun _ => 0) ls = depthOf ls := by
  funext p
  by_cases he : ∃ l ∈ ls, l.price.units = p
  · obtain ⟨l, hl, rfl⟩ := he
    rw [depthOf_of_mem h hl]
    exact Depth.putAll_of_agree ⟨l, hl, rfl⟩ fun x hx e => by rw [h.eq_of_units_eq hx hl e]
  · have hne : ∀ l ∈ ls, l.price.units ≠ p := fun l hl e => he ⟨l, hl, e⟩
    rw [depthOf_of_forall_ne hne, Depth.putAll_of_forall_ne hne]

end MarketFeed
