import MarketFeed.Level

/-! One side of a book: levels from the best price to the worst. -/

namespace MarketFeed

def BookSide.Better (side : BookSide) (a b : Decimal) : Prop :=
  match side with
  | .bid => b.units < a.units
  | .ask => a.units < b.units

instance (side : BookSide) (a b : Decimal) : Decidable (side.Better a b) :=
  match side with
  | .bid => inferInstanceAs (Decidable (b.units < a.units))
  | .ask => inferInstanceAs (Decidable (a.units < b.units))

theorem BookSide.Better.trans {side : BookSide} {a b c : Decimal} (h : side.Better a b)
    (h' : side.Better b c) : side.Better a c := by
  cases side <;> exact Int.lt_trans (by assumption) (by assumption)

theorem BookSide.same_of_not_better {side : BookSide} {a b : Decimal} (h : ¬ side.Better a b)
    (h' : ¬ side.Better b a) : a.units = b.units := by
  cases side <;> simp only [BookSide.Better] at h h' <;> omega

def place (side : BookSide) (l : Level) : List Level → List Level
  | [] => [l]
  | x :: r =>
    if side.Better l.price x.price then l :: x :: r
    else if side.Better x.price l.price then x :: place side l r
    else ⟨x.price, l.size⟩ :: r

theorem mem_place {side : BookSide} {l y : Level} {ls : List Level} (h : y ∈ place side l ls) :
    y = l ∨ y ∈ ls ∨ y.size = l.size ∧ y.price.units = l.price.units := by
  induction ls with
  | nil => simp_all [place]
  | cons x r ih =>
    unfold place at h
    split at h
    · simp at h
      rcases h with h | h | h
      · exact .inl h
      · exact .inr (.inl (by simp [h]))
      · exact .inr (.inl (by simp [h]))
    · split at h
      · simp at h
        rcases h with h | h
        · exact .inr (.inl (by simp [h]))
        · rcases ih h with h | h | h
          · exact .inl h
          · exact .inr (.inl (by simp [h]))
          · exact .inr (.inr h)
      · rename_i h₁ h₂
        simp at h
        rcases h with h | h
        · exact .inr (.inr (by simp [h, BookSide.same_of_not_better h₂ h₁]))
        · exact .inr (.inl (by simp [h]))

theorem size_of_mem_place {side : BookSide} {l y : Level} {ls : List Level}
    (h : y ∈ place side l ls) : y.size = l.size ∨ y ∈ ls := by
  rcases mem_place h with h | h | h
  · exact .inl (by rw [h])
  · exact .inr h
  · exact .inl h.1

theorem pairwise_place {side : BookSide} {l : Level} {ls : List Level}
    (h : ls.Pairwise fun a b => side.Better a.price b.price) :
    (place side l ls).Pairwise fun a b => side.Better a.price b.price := by
  induction ls with
  | nil => simp [place]
  | cons x r ih =>
    obtain ⟨hx, hr⟩ := List.pairwise_cons.mp h
    unfold place
    split
    · rename_i hl
      refine List.pairwise_cons.mpr ⟨fun y hy => ?_, h⟩
      rcases List.mem_cons.mp hy with rfl | hy
      · exact hl
      · exact hl.trans (hx y hy)
    · split
      · rename_i hl
        refine List.pairwise_cons.mpr ⟨fun y hy => ?_, ih hr⟩
        rcases mem_place hy with rfl | hy | hy
        · exact hl
        · exact hx y hy
        · cases side <;> simp_all [BookSide.Better]
      · exact List.pairwise_cons.mpr ⟨fun y hy => hx y hy, hr⟩

structure Ladder (side : BookSide) where
  levels : List Level
  ordered : levels.Pairwise fun a b => side.Better a.price b.price
  sized : ∀ l ∈ levels, l.isRemoval = false

namespace Ladder

variable {side : BookSide}

def empty : Ladder side := ⟨[], .nil, by simp⟩

def size? (ld : Ladder side) (price : Decimal) : Option Decimal :=
  (ld.levels.find? (·.price.same price)).map (·.size)

def best? (ld : Ladder side) : Option Level := ld.levels.head?

def put (ld : Ladder side) (l : Level) (h : l.isRemoval = false) : Ladder side where
  levels := place side l ld.levels
  ordered := pairwise_place ld.ordered
  sized y hy := by
    rcases size_of_mem_place hy with e | hy
    · simpa [Level.isRemoval, e] using h
    · exact ld.sized y hy

def erase (ld : Ladder side) (price : Decimal) : Ladder side where
  levels := ld.levels.filter (!·.price.same price)
  ordered := ld.ordered.filter _
  sized y hy := ld.sized y (List.mem_filter.mp hy).1

def set (ld : Ladder side) (l : Level) : Ladder side :=
  if h : l.isRemoval then ld.erase l.price else ld.put l (by simpa using h)

def alters (ld : Ladder side) (l : Level) : Bool :=
  match ld.size? l.price with
  | none => !l.isRemoval
  | some old => l.isRemoval || !old.same l.size

def ofLevels (ls : List Level) : Ladder side :=
  (ls.filter (!·.isRemoval)).foldl set empty

end Ladder

end MarketFeed
