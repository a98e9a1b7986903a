import Mathlib.Data.List.Forall2
import Mathlib.Tactic.Lemma
import MarketFeed.Failure

namespace MarketFeed

variable {ε α β : Type} {e : ε} {b : β}

@[simp] lemma mapError_eq_ok_iff {x : Except ε α} {f : ε → β} {a : α} :
    x.mapError f = .ok a ↔ x = .ok a := by
  cases x with
  | error cause =>
    change Except.error (f cause) = .ok a ↔ _
    simp
  | ok b =>
    change (Except.ok b : Except β α) = .ok a ↔ _
    simp

@[simp] lemma Fault.lift_ne_overflow {x : Except ε α} : lift x ≠ .error .overflow := by
  intro h
  cases x with
  | error cause => cases h
  | ok a => cases h

@[simp] lemma Fault.lift_eq_ok_iff {x : Except ε α} {a : α} : lift x = .ok a ↔ x = .ok a :=
  mapError_eq_ok_iff

lemma bind_eq_error_iff {x : Except ε α} {f : α → Except ε β} :
    (x >>= f) = .error e ↔ x = .error e ∨ ∃ a, x = .ok a ∧ f a = .error e := by
  cases x with
  | error cause => simp [bind, Except.bind]
  | ok a => simp [bind, Except.bind]

lemma bind_eq_ok_iff {x : Except ε α} {f : α → Except ε β} :
    (x >>= f) = .ok b ↔ ∃ a, x = .ok a ∧ f a = .ok b := by
  cases x with
  | error cause => simp [bind, Except.bind]
  | ok a => simp [bind, Except.bind]

lemma exists_error_of_ne_ok {x : Except ε α} (h : ∀ a, x ≠ .ok a) : ∃ e, x = .error e := by
  cases x with
  | error e => exact ⟨e, rfl⟩
  | ok a => exact absurd rfl (h a)

lemma forM_eq_ok_iff {f : α → Except ε Unit} {xs : List α} :
    xs.forM f = .ok () ↔ ∀ x ∈ xs, f x = .ok () := by
  induction xs with
  | nil => simp [pure, Except.pure]
  | cons x r ih =>
    change (f x >>= fun _ => r.forM f) = .ok () ↔ _
    rw [bind_eq_ok_iff, List.forall_mem_cons, ih]
    constructor
    · rintro ⟨⟨⟩, hx, hr⟩
      exact ⟨hx, hr⟩
    · rintro ⟨hx, hr⟩
      exact ⟨(), hx, hr⟩

lemma exists_of_forall₂ {R : α → β → Prop} {xs : List α} {ys : List β} {x : α}
    (h : List.Forall₂ R xs ys) (hx : x ∈ xs) : ∃ y, R x y := by
  obtain ⟨i, hi, rfl⟩ := List.getElem_of_mem hx
  exact ⟨_, h.get hi (h.length_eq ▸ hi)⟩

lemma mapM_eq_ok_iff {f : α → Except ε β} {xs : List α} {ys : List β} :
    xs.mapM f = .ok ys ↔ List.Forall₂ (fun x y => f x = .ok y) xs ys := by
  induction xs generalizing ys with
  | nil => simp [pure, Except.pure, eq_comm]
  | cons x r ih =>
    simp only [List.mapM_cons, bind_eq_ok_iff, List.forall₂_cons_left_iff, ih]
    constructor
    · rintro ⟨y, hy, t, ht, hys⟩
      exact ⟨y, t, hy, ht, (Except.ok.inj hys).symm⟩
    · rintro ⟨y, t, hy, ht, rfl⟩
      exact ⟨y, hy, t, ht, rfl⟩

lemma mapM_eq_error_iff {f : α → Except ε β} {xs : List α} :
    xs.mapM f = .error e ↔ ∃ read x rest, xs = read ++ x :: rest ∧
      (∀ y ∈ read, ∃ b, f y = .ok b) ∧ f x = .error e := by
  induction xs with
  | nil => simp [pure, Except.pure]
  | cons x r ih =>
    have hcons : (x :: r).mapM f = .error e ↔
        f x = .error e ∨ ∃ b, f x = .ok b ∧ r.mapM f = .error e := by
      rw [List.mapM_cons, bind_eq_error_iff]
      simp only [bind_eq_error_iff, pure, Except.pure, reduceCtorEq, and_false, exists_false,
        or_false]
    rw [hcons, ih]
    constructor
    · rintro (hx | ⟨b, hb, read, y, rest, rfl, hread, hy⟩)
      · exact ⟨[], x, r, rfl, fun y hy => absurd hy List.not_mem_nil, hx⟩
      · exact ⟨x :: read, y, rest, rfl, List.forall_mem_cons.mpr ⟨⟨b, hb⟩, hread⟩, hy⟩
    · rintro ⟨read, y, rest, hxs, hread, hy⟩
      cases read with
      | nil =>
        obtain ⟨rfl, rfl⟩ := List.cons.inj hxs
        exact Or.inl hy
      | cons z read =>
        obtain ⟨rfl, rfl⟩ := List.cons.inj hxs
        obtain ⟨⟨b, hb⟩, hread⟩ := List.forall_mem_cons.mp hread
        exact Or.inr ⟨b, hb, read, y, rest, rfl, hread, hy⟩

/-- Both works fail, or their results are related. -/
inductive Alike {α' : Type} (R : α → α' → Prop) : Except ε α → Except ε α' → Prop
  | ok {a : α} {a' : α'} (h : R a a') : Alike R (.ok a) (.ok a')
  | error (e e' : ε) : Alike R (.error e) (.error e')

section Alike

variable {α' β' : Type} {R : α → α' → Prop} {S : β → β' → Prop} {x : Except ε α} {x' : Except ε α'}

lemma Alike.bind {f : α → Except ε β} {f' : α' → Except ε β'} (hx : Alike R x x')
    (hf : ∀ a a', R a a' → Alike S (f a) (f' a')) : Alike S (x >>= f) (x' >>= f') := by
  cases hx with
  | ok h => exact hf _ _ h
  | error e e' => exact .error e e'

lemma Alike.bind_eq {y : Except ε α} {f : α → Except ε β} {f' : α → Except ε β'}
    (hx : Alike Eq x y) (hf : ∀ a, Alike S (f a) (f' a)) : Alike S (x >>= f) (y >>= f') := by
  refine hx.bind ?_
  rintro a _ rfl
  exact hf a

lemma Alike.mapM {f : α → Except ε β} {f' : α' → Except ε β'} {xs : List α} {xs' : List α'}
    (hxs : List.Forall₂ R xs xs') (hf : ∀ a a', R a a' → Alike S (f a) (f' a')) :
    Alike (List.Forall₂ S) (xs.mapM f) (xs'.mapM f') := by
  induction hxs with
  | nil => exact .ok .nil
  | cons h _ ih =>
    rw [List.mapM_cons, List.mapM_cons]
    exact (hf _ _ h).bind fun _ _ hb => ih.bind fun _ _ hr => .ok (.cons hb hr)

lemma Alike.mono {R' : α → α' → Prop} (h : Alike R x x') (hR : ∀ a a', R a a' → R' a a') :
    Alike R' x x' := by
  cases h with
  | ok h => exact .ok (hR _ _ h)
  | error e e' => exact .error e e'

lemma Alike.map {x y : Except ε α} (h : Alike Eq x y) (f : α → β) :
    Alike Eq (x.map f) (y.map f) := by
  cases h with
  | ok h => exact .ok (congrArg f h)
  | error e e' => exact .error e e'

lemma Alike.refl (x : Except ε α) : Alike Eq x x := by
  cases x with
  | ok a => exact .ok rfl
  | error e => exact .error e e

lemma Alike.toOption_eq {x y : Except ε α} (h : Alike Eq x y) : x.toOption = y.toOption := by
  cases h with
  | ok h => rw [h]
  | error e e' => rfl

lemma alike_eq_iff {x y : Except ε α} : Alike Eq x y ↔ ∀ a, x = .ok a ↔ y = .ok a := by
  constructor
  · rintro (⟨rfl⟩ | _) a
    · rfl
    · simp
  · intro h
    cases x with
    | ok a => exact (h a).mp rfl ▸ .refl _
    | error e =>
      cases y with
      | ok a => cases (h a).mpr rfl
      | error e' => exact .error e e'

end Alike

end MarketFeed
