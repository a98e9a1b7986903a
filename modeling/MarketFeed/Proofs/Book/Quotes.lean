import Mathlib.Order.Basic
import MarketFeed.Proofs.Book.Depth

namespace MarketFeed

lemma BookSide.Better.units_ne {side : BookSide} {a b : Decimal} (h : side.Better a b) :
    a.units ≠ b.units := by
  cases side with
  | bid => exact (Int.ne_of_lt h).symm
  | ask => exact Int.ne_of_lt h

lemma depthOf_place (side : BookSide) (l : Level) (ls : List Level) :
    depthOf (place side l ls) = (depthOf ls).put l := by
  induction ls with
  | nil => rfl
  | cons x r ih =>
    rw [place]
    split
    · rfl
    · split
      · rename_i hx
        rw [depthOf_cons, ih, depthOf_cons, Depth.put, Depth.put, Depth.put, Depth.put,
          Function.update_comm hx.units_ne.symm]
      · rename_i hl hx
        have he : l.price.units = x.price.units := BookSide.same_of_not_better hl hx
        rw [depthOf_cons, depthOf_cons, Depth.put, Depth.put, Depth.put, he, Function.update_idem]

lemma depthOf_erase (price : Decimal) (ls : List Level) :
    depthOf (ls.filter (!·.price.same price)) = Function.update (depthOf ls) price.units 0 := by
  induction ls with
  | nil => exact (Function.update_eq_self price.units fun _ => (0 : Int)).symm
  | cons x r ih =>
    by_cases h : x.price.units = price.units
    · rw [List.filter_cons_of_neg (by simp [Decimal.same, h]), ih, depthOf_cons, Depth.put, h,
        Function.update_idem]
    · rw [List.filter_cons_of_pos (by simp [Decimal.same, h]), depthOf_cons, ih, depthOf_cons,
        Depth.put, Depth.put, Function.update_comm h]

namespace Ladder

variable {side : BookSide}

def depth (ld : Ladder side) : Depth := depthOf ld.levels

lemma distinct (ld : Ladder side) : Distinct ld.levels :=
  List.pairwise_map.mpr (ld.ordered.imp fun h => h.units_ne)

lemma size_ne_zero (ld : Ladder side) {l : Level} (hl : l ∈ ld.levels) : l.size.units ≠ 0 :=
  Level.not_isRemoval_iff.mp (ld.sized l hl)

@[simp] lemma depth_set (ld : Ladder side) (l : Level) : (ld.set l).depth = ld.depth.put l := by
  rw [set]
  split
  · rename_i h
    rw [depth, erase, depthOf_erase, Depth.put, Level.isRemoval_iff.mp h]
    rfl
  · exact depthOf_place side l ld.levels

lemma depth_foldl_set (ld : Ladder side) (ls : List Level) :
    (ls.foldl set ld).depth = ld.depth.putAll ls := by
  induction ls generalizing ld with
  | nil => rfl
  | cons l r ih => rw [List.foldl_cons, ih, depth_set, Depth.putAll_cons]

lemma depth_ofLevels (ls : List Level) :
    (ofLevels ls : Ladder side).depth = Depth.putAll (fun _ => 0) (ls.filter (!·.isRemoval)) :=
  depth_foldl_set _ _

lemma depth_eq_of_size? {ld : Ladder side} {p : Decimal} :
    ld.depth p.units = ((ld.size? p).map Decimal.units).getD 0 := by
  rw [size?]
  cases hf : ld.levels.find? (·.price.same p) with
  | none =>
    refine depthOf_of_forall_ne fun l hl => ?_
    simpa [Decimal.same] using List.find?_eq_none.mp hf l hl
  | some l =>
    have hp : l.price.units = p.units := by simpa [Decimal.same] using List.find?_some hf
    rw [← hp]
    exact depthOf_of_mem ld.distinct (List.mem_of_find?_eq_some hf)

lemma size?_ne_zero {ld : Ladder side} {p q : Decimal} (h : ld.size? p = some q) :
    q.units ≠ 0 := by
  obtain ⟨l, hl, rfl⟩ := Option.map_eq_some_iff.mp h
  exact ld.size_ne_zero (List.mem_of_find?_eq_some hl)

lemma alters_iff {ld : Ladder side} {l : Level} :
    ld.alters l = true ↔ ld.depth l.price.units ≠ l.size.units := by
  rw [depth_eq_of_size?, alters]
  cases hs : ld.size? l.price with
  | none =>
    simp only [Bool.not_eq_true', Level.not_isRemoval_iff, Option.map_none, Option.getD_none]
    exact ne_comm
  | some old =>
    have ho : old.units ≠ 0 := size?_ne_zero hs
    simp only [Bool.or_eq_true, Bool.not_eq_true', Level.isRemoval_iff, Decimal.same,
      beq_eq_false_iff_ne, Option.map_some, Option.getD_some]
    constructor
    · rintro (h | h)
      · rwa [h]
      · exact h
    · exact Or.inr

lemma put_eq_self_of_not_alters {ld : Ladder side} {l : Level} (h : ld.alters l = false) :
    ld.depth.put l = ld.depth := by
  have hl : ld.depth l.price.units = l.size.units := by
    by_contra hne
    exact Bool.false_ne_true (h.symm.trans (alters_iff.mpr hne))
  rw [Depth.put, ← hl, Function.update_eq_self]

end Ladder

def levelsOn (side : BookSide) (cs : List Change) : List Level :=
  (cs.filter (·.side = side)).map (·.level)

namespace Quotes

def apply (q : Quotes) (c : Change) : Quotes := Function.update q c.side ((q c.side).put c.level)

def applyAll (q : Quotes) (cs : List Change) : Quotes := cs.foldl apply q

@[simp] lemma applyAll_nil (q : Quotes) : q.applyAll [] = q := rfl

@[simp] lemma applyAll_cons (q : Quotes) (c : Change) (cs : List Change) :
    q.applyAll (c :: cs) = (q.apply c).applyAll cs := rfl

lemma applyAll_append (q : Quotes) (cs cs' : List Change) :
    q.applyAll (cs ++ cs') = (q.applyAll cs).applyAll cs' := List.foldl_append

lemma applyAll_side (q : Quotes) (cs : List Change) (side : BookSide) :
    q.applyAll cs side = (q side).putAll (levelsOn side cs) := by
  induction cs generalizing q with
  | nil => rfl
  | cons c r ih =>
    rw [applyAll_cons, ih, apply]
    by_cases h : c.side = side
    · subst h
      simp [levelsOn]
    · simp [levelsOn, h, Function.update_of_ne (Ne.symm h)]

lemma applyAll_applyAll (q : Quotes) (cs : List Change) :
    (q.applyAll cs).applyAll cs = q.applyAll cs := by
  funext side
  rw [applyAll_side, applyAll_side, Depth.putAll_putAll]

end Quotes

def Snapshot.rows (s : Snapshot) : BookSide → List Level
  | .bid => s.bids
  | .ask => s.asks

namespace Book

def quotes (b : Book) : Quotes
  | .bid => b.bids.depth
  | .ask => b.asks.depth

lemma quotes_change (b : Book) (c : Change) : (b.change c).quotes = b.quotes.apply c := by
  funext side
  rw [change]
  cases hc : c.side <;> cases side <;> simp [quotes, Quotes.apply, hc]

lemma quotes_changeAll (b : Book) (cs : List Change) :
    (b.changeAll cs).quotes = b.quotes.applyAll cs := by
  induction cs generalizing b with
  | nil => rfl
  | cons c r ih =>
    rw [Quotes.applyAll_cons, ← quotes_change]
    exact ih (b.change c)

lemma changeAll_frame (b : Book) (cs : List Change) :
    b.changeAll cs = { b with bids := (b.changeAll cs).bids, asks := (b.changeAll cs).asks } := by
  induction cs generalizing b with
  | nil => rfl
  | cons c r ih =>
    have hc : b.change c = { b with bids := (b.change c).bids, asks := (b.change c).asks } := by
      rw [change]
      split <;> rfl
    have hr := ih (b.change c)
    rw [hc] at hr
    rw [changeAll, List.foldl_cons, hc]
    exact hr

lemma symbol_apply (b : Book) (u : Update) (time : Int64) : (b.apply u time).symbol = b.symbol := by
  change (b.changeAll u.changes).symbol = b.symbol
  rw [b.changeAll_frame u.changes]

lemma quotes_apply (b : Book) (u : Update) (time : Int64) :
    (b.apply u time).quotes = b.quotes.applyAll u.changes :=
  quotes_changeAll b u.changes

lemma quotes_load (b : Book) (s : Snapshot) (time : Int64) (side : BookSide) :
    (b.load s time).quotes side =
      Depth.putAll (fun _ => 0) ((s.rows side).filter (!·.isRemoval)) := by
  cases side <;> exact Ladder.depth_ofLevels _

lemma apply_eq_self_of_not_alters {b : Book} {c : Change} (h : b.alters c = false) :
    b.quotes.apply c = b.quotes := by
  funext side
  rw [alters] at h
  cases hc : c.side <;> rw [hc] at h <;> cases side <;>
    simp [quotes, Quotes.apply, hc, Ladder.put_eq_self_of_not_alters h]

lemma applyAll_altering (b : Book) (cs : List Change) :
    b.quotes.applyAll (b.altering cs) = b.quotes.applyAll cs := by
  induction cs generalizing b with
  | nil => rfl
  | cons c r ih =>
    rw [altering]
    split
    · rw [Quotes.applyAll_cons, ← quotes_change, ih, quotes_change, Quotes.applyAll_cons]
    · rename_i h
      have hq : b.quotes.apply c = b.quotes := apply_eq_self_of_not_alters (by simpa using h)
      have hr := ih (b.change c)
      rw [quotes_change, hq] at hr
      rw [Quotes.applyAll_cons, hq, hr]

end Book

end MarketFeed
