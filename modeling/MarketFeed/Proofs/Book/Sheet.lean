import Mathlib.Data.Set.Card
import MarketFeed.Proofs.Book.Window

namespace MarketFeed

abbrev Sheet := BookSide → Int → Option Int

namespace Sheet

def blank : Sheet := fun _ _ => none

def write (m : Sheet) (c : Change) : Sheet :=
  Function.update m c.side
    (Function.update (m c.side) c.price.units (if c.isRemoval then none else some c.size.units))

def writeAll (m : Sheet) (cs : List Change) : Sheet := cs.foldl write m

def lastSize (ls : List Level) (p : Int) : Option Int :=
  (ls.filter fun l => l.price.units = p && !l.isRemoval).getLast?.map (·.size.units)

def ofSnapshot (s : Snapshot) : Sheet := fun side => lastSize (s.rows side)

end Sheet

inductive BookCall where
  | load (s : Snapshot) (receiptTime : Int64)
  | change (cs : List Change)

def Book.call (b : Book) : BookCall → Book
  | .load s receiptTime => b.load s receiptTime
  | .change cs => b.changeAll cs

def Book.callAll (b : Book) (calls : List BookCall) : Book := calls.foldl call b

def Sheet.call (m : Sheet) : BookCall → Sheet
  | .load s _ => ofSnapshot s
  | .change cs => m.writeAll cs

def Sheet.callAll (m : Sheet) (calls : List BookCall) : Sheet := calls.foldl call m

def BookSide.Before (side : BookSide) (p q : Int) : Prop :=
  match side with
  | .bid => q < p
  | .ask => p < q

structure BestOf (side : BookSide) (sizes : Int → Option Int) (n : Nat) (ls : List Level) :
    Prop where
  ordered : ls.Pairwise fun a b => side.Before a.price.units b.price.units
  held : ∀ l ∈ ls, sizes l.price.units = some l.size.units
  length_le : ls.length ≤ n
  rest : ∀ p q, sizes p = some q → (p, q) ∉ ls.map Level.units →
    ls.length = n ∧ ∀ l ∈ ls, side.Before l.price.units p

namespace Depth

def known (m : Depth) (p : Int) : Option Int := if m p = 0 then none else some (m p)

lemma known_eq_some_iff {m : Depth} {p q : Int} : m.known p = some q ↔ m p = q ∧ q ≠ 0 := by
  rw [known]
  split
  · rename_i h
    simp only [reduceCtorEq, false_iff, not_and, not_not]
    rintro rfl
    exact h
  · rename_i h
    simp only [Option.some.injEq]
    constructor
    · rintro rfl
      exact ⟨rfl, h⟩
    · exact And.left

lemma known_put (m : Depth) (l : Level) :
    (m.put l).known = Function.update m.known l.price.units
      (if l.isRemoval then none else some l.size.units) := by
  funext p
  by_cases hp : p = l.price.units
  · subst hp
    simp only [known, put, Function.update_self, Level.isRemoval_iff]
  · simp only [known, put, Function.update_of_ne hp]

lemma known_putAll_filter (ls : List Level) :
    (putAll (fun _ => 0) (ls.filter (!·.isRemoval))).known = Sheet.lastSize ls := by
  induction ls using List.reverseRecOn with
  | nil => rfl
  | append_singleton ls l ih =>
    rw [List.filter_append, putAll_append]
    cases hl : l.isRemoval with
    | true =>
      funext p
      simp [hl, ih, Sheet.lastSize]
    | false =>
      have hone : [l].filter (!·.isRemoval) = [l] := by simp [hl]
      rw [hone, putAll_cons, putAll_nil, known_put, hl, ih]
      funext p
      by_cases hp : p = l.price.units
      · subst hp
        simp [Sheet.lastSize, hl]
      · simp [Sheet.lastSize, hp, Ne.symm hp]

end Depth

namespace Ladder

variable {side : BookSide}

lemma known_depth (ld : Ladder side) (p : Decimal) :
    ld.depth.known p.units = (ld.size? p).map Decimal.units := by
  have hd : ld.depth p.units = ((ld.size? p).map Decimal.units).getD 0 := depth_eq_of_size?
  cases hs : ld.size? p with
  | none =>
    rw [hs] at hd
    simp only [Option.map_none, Option.getD_none] at hd
    simp [Depth.known, hd]
  | some q =>
    rw [hs] at hd
    exact Depth.known_eq_some_iff.mpr ⟨hd, size?_ne_zero hs⟩

lemma mem_units_iff_known {ld : Ladder side} {p q : Int} :
    (p, q) ∈ ld.levels.map Level.units ↔ ld.depth.known p = some q := by
  rw [mem_units_iff, Depth.known_eq_some_iff]

lemma before_of_ordered (ld : Ladder side) :
    ld.levels.Pairwise fun a b => side.Before a.price.units b.price.units := by
  cases side <;> exact ld.ordered

lemma bestOf_take (ld : Ladder side) (n : Nat) :
    BestOf side ld.depth.known n (ld.levels.take n) where
  ordered := ld.before_of_ordered.sublist (List.take_sublist n _)
  held l hl := mem_units_iff_known.mp (List.mem_map_of_mem (List.mem_of_mem_take hl))
  length_le := List.length_take_le n _
  rest p q hpq hn := by
    obtain ⟨x, hx, he⟩ := List.mem_map.mp (mem_units_iff_known.mpr hpq)
    obtain ⟨rfl, rfl⟩ := Prod.mk.inj he
    have hnot : x ∉ ld.levels.take n := fun h => hn (List.mem_map_of_mem h)
    have hdrop : x ∈ ld.levels.drop n := by
      rw [← List.take_append_drop n ld.levels, List.mem_append] at hx
      exact hx.resolve_left hnot
    have hlength : n < ld.levels.length := by
      have h := List.length_pos_of_mem hdrop
      rw [List.length_drop] at h
      omega
    have hpairs := ld.before_of_ordered
    rw [← List.take_append_drop n ld.levels, List.pairwise_append] at hpairs
    exact ⟨List.length_take_of_le hlength.le, fun l hl => hpairs.2.2 l hl x hdrop⟩

lemma ncard_known (ld : Ladder side) :
    {p | ld.depth.known p ≠ none}.ncard = ld.levels.length := by
  have hset : {p | ld.depth.known p ≠ none} = ((ld.levels.map (·.price.units)).toFinset : Set Int) := by
    ext p
    simp only [Set.mem_ofPred_eq, List.coe_toFinset, Option.ne_none_iff_exists', ← mem_units_iff_known]
    constructor
    · rintro ⟨q, hq⟩
      obtain ⟨l, hl, he⟩ := List.mem_map.mp hq
      exact List.mem_map.mpr ⟨l, hl, (Prod.mk.inj he).1⟩
    · intro hp
      obtain ⟨l, hl, rfl⟩ := List.mem_map.mp hp
      exact ⟨_, List.mem_map_of_mem hl⟩
  rw [hset, Set.ncard_coe_finset, List.toFinset_card_of_nodup ld.distinct, List.length_map]

end Ladder

namespace Book

def sheet (b : Book) : Sheet := fun side => (b.quotes side).known

lemma quotes_ladder (b : Book) (side : BookSide) : b.quotes side = (b.ladder side).depth := by
  cases side <;> rfl

lemma sheet_empty (exchange : Exchange) (symbol : String) (maxDepth : Option Nat) :
    (empty exchange symbol maxDepth).sheet = .blank := by
  funext side p
  cases side <;> rfl

lemma sheet_load (b : Book) (s : Snapshot) (time : Int64) :
    (b.load s time).sheet = .ofSnapshot s := by
  funext side
  rw [sheet, quotes_load, Depth.known_putAll_filter]
  rfl

lemma sheet_change (b : Book) (c : Change) : (b.change c).sheet = b.sheet.write c := by
  funext side
  rw [sheet, quotes_change, Quotes.apply, Sheet.write]
  by_cases h : side = c.side
  · subst h
    rw [Function.update_self, Function.update_self]
    exact Depth.known_put _ c.level
  · rw [Function.update_of_ne h, Function.update_of_ne h]
    rfl

lemma sheet_changeAll (b : Book) (cs : List Change) :
    (b.changeAll cs).sheet = b.sheet.writeAll cs := by
  induction cs generalizing b with
  | nil => rfl
  | cons c r ih =>
    have hr := ih (b.change c)
    rw [sheet_change] at hr
    exact hr

lemma sheet_call (b : Book) (c : BookCall) : (b.call c).sheet = b.sheet.call c := by
  cases c with
  | load s time => exact b.sheet_load s time
  | change cs => exact b.sheet_changeAll cs

lemma maxDepth_call (b : Book) (c : BookCall) : (b.call c).maxDepth = b.maxDepth := by
  cases c with
  | load s time => rfl
  | change cs =>
    change (b.changeAll cs).maxDepth = b.maxDepth
    rw [b.changeAll_frame cs]

lemma sheet_callAll (b : Book) (calls : List BookCall) :
    (b.callAll calls).sheet = b.sheet.callAll calls := by
  induction calls generalizing b with
  | nil => rfl
  | cons c r ih =>
    have hr := ih (b.call c)
    rw [sheet_call] at hr
    exact hr

lemma maxDepth_callAll (b : Book) (calls : List BookCall) :
    (b.callAll calls).maxDepth = b.maxDepth := by
  induction calls generalizing b with
  | nil => rfl
  | cons c r ih => exact (ih (b.call c)).trans (b.maxDepth_call c)

lemma shownOn_of_unbounded {b : Book} (h : b.maxDepth = none) (side : BookSide) :
    b.shownOn side = (b.ladder side).levels := by
  rw [shownOn_eq, shown, h]
  cases side <;> rfl

lemma shownOn_of_bounded {b : Book} {d : Nat} (h : b.maxDepth = some d) (side : BookSide) :
    b.shownOn side = b.top side d := by
  rw [shownOn_eq, shown, h]
  cases side <;> rfl

lemma shownCount_eq (b : Book) (side : BookSide) :
    b.shownCount side = (b.shownOn side).length := by
  cases h : b.maxDepth with
  | none => rw [shownCount, h, shownOn_of_unbounded h, heldCount, Option.elim_none]
  | some d =>
    rw [shownCount, h, shownOn_of_bounded h, top, List.length_take, Nat.min_comm, heldCount,
      Option.elim_some]

/-- Every history leaves the sizes last written, and each way of reading the book agrees with
them. -/
theorem book_holds_last_sizes (exchange : Exchange) (symbol : String) (maxDepth : Option Nat)
    (calls : List BookCall) :
    let b := (empty exchange symbol maxDepth).callAll calls
    (∀ side, let sizes := Sheet.blank.callAll calls side
      (∀ p, (b.size? side p).map Decimal.units = sizes p.units) ∧
      (∀ p q, (p, q) ∈ (b.ladder side).levels.map Level.units ↔ sizes p = some q) ∧
      (∀ l ∈ (b.ladder side).levels, l.isRemoval = false) ∧
      (∀ n, BestOf side sizes n (b.top side n)) ∧
      BestOf side sizes 1 (b.best? side).toList ∧
      b.best? side = (b.ladder side).levels.head? ∧
      b.shownOn side = maxDepth.elim (b.ladder side).levels (b.top side) ∧
      b.shownCount side = (b.shownOn side).length ∧
      b.heldCount side = {p | sizes p ≠ none}.ncard) ∧
    ∀ raw, (b.snapshotEvent raw).bids = b.shownOn .bid ∧
      (b.snapshotEvent raw).asks = b.shownOn .ask := by
  intro b
  refine ⟨fun side => ?_, fun raw => ⟨rfl, rfl⟩⟩
  have hsheet : Sheet.blank.callAll calls side = (b.ladder side).depth.known := by
    rw [← sheet_empty exchange symbol maxDepth, ← sheet_callAll, sheet, quotes_ladder]
  have hdepth : b.maxDepth = maxDepth := maxDepth_callAll _ calls
  intro sizes
  change sizes = _ at hsheet
  rw [hsheet]
  have hbest : (b.best? side).toList = b.top side 1 := by
    rw [best?, Ladder.best?, top]
    cases (b.ladder side).levels <;> rfl
  refine ⟨fun p => ((b.ladder side).known_depth p).symm, fun p q => Ladder.mem_units_iff_known,
    (b.ladder side).sized, fun n => (b.ladder side).bestOf_take n,
    hbest ▸ (b.ladder side).bestOf_take 1, rfl, ?_, b.shownCount_eq side,
    (b.ladder side).ncard_known.symm⟩
  cases hd : maxDepth with
  | none => exact shownOn_of_unbounded (hdepth.trans hd) side
  | some d => exact shownOn_of_bounded (hdepth.trans hd) side

end Book

end MarketFeed
