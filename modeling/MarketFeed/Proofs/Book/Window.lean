import MarketFeed.Proofs.Book.Quotes

namespace MarketFeed

def Level.units (l : Level) : Int × Int := (l.price.units, l.size.units)

lemma depthOf_congr {ls ls' : List Level} (h : ls.map Level.units = ls'.map Level.units) :
    depthOf ls = depthOf ls' := by
  induction ls generalizing ls' with
  | nil => rw [List.map_eq_nil_iff.mp h.symm]
  | cons l r ih =>
    obtain ⟨l', r', rfl, hl, hr⟩ := List.map_eq_cons_iff.mp h.symm
    obtain ⟨hp, hs⟩ := Prod.mk.inj hl
    rw [depthOf_cons, depthOf_cons, Depth.put, Depth.put, ih hr.symm, hp, hs]

lemma Distinct.take {ls : List Level} (h : Distinct ls) (n : Nat) : Distinct (ls.take n) :=
  List.Nodup.sublist ((List.take_sublist n ls).map _) h

namespace Ladder

variable {side : BookSide}

lemma mem_units_iff {ld : Ladder side} {p q : Int} :
    (p, q) ∈ ld.levels.map Level.units ↔ ld.depth p = q ∧ q ≠ 0 := by
  constructor
  · intro h
    obtain ⟨l, hl, he⟩ := List.mem_map.mp h
    obtain ⟨rfl, rfl⟩ := Prod.mk.inj he
    exact ⟨depthOf_of_mem ld.distinct hl, ld.size_ne_zero hl⟩
  · rintro ⟨hp, hq⟩
    by_contra hn
    refine hq (hp ▸ depthOf_of_forall_ne fun l hl e => hn ?_)
    have hs : l.size.units = q := by rw [← hp, ← e]; exact (depthOf_of_mem ld.distinct hl).symm
    exact List.mem_map.mpr ⟨l, hl, by rw [Level.units, e, hs]⟩

lemma units_nodup (ld : Ladder side) : (ld.levels.map Level.units).Nodup := by
  have h : ((ld.levels.map Level.units).map Prod.fst).Nodup := by
    rw [List.map_map]
    exact ld.distinct
  exact h.of_map

lemma units_eq_of_depth_eq {ld ld' : Ladder side} (h : ld.depth = ld'.depth) :
    ld.levels.map Level.units = ld'.levels.map Level.units := by
  have hp : (ld.levels.map Level.units).Perm (ld'.levels.map Level.units) := by
    refine (List.perm_ext_iff_of_nodup ld.units_nodup ld'.units_nodup).mpr ?_
    rintro ⟨p, q⟩
    rw [mem_units_iff, mem_units_iff, h]
  cases side with
  | bid =>
    have hs : ∀ l : Ladder .bid, (l.levels.map Level.units).Pairwise fun a b => b.1 < a.1 :=
      fun l => List.pairwise_map.mpr l.ordered
    refine List.Perm.eq_of_pairwise ?_ (hs ld) (hs ld') hp
    exact fun a b _ _ hab hba => absurd hab (Int.lt_asymm hba)
  | ask =>
    have hs : ∀ l : Ladder .ask, (l.levels.map Level.units).Pairwise fun a b => a.1 < b.1 :=
      fun l => List.pairwise_map.mpr l.ordered
    refine List.Perm.eq_of_pairwise ?_ (hs ld) (hs ld') hp
    exact fun a b _ _ hab hba => absurd hab (Int.lt_asymm hba)

end Ladder

lemma levelsOn_append (side : BookSide) (cs cs' : List Change) :
    levelsOn side (cs ++ cs') = levelsOn side cs ++ levelsOn side cs' := by
  simp [levelsOn]

namespace Book

section Window

variable {side : BookSide} {before after : List Level}

lemma levelsOn_windowChanges :
    levelsOn side (windowChanges side before after) =
      ((before.filter fun x => !after.any (·.price.same x.price)).map fun x => ⟨x.price, .zero⟩) ++
        after.filter fun x => !before.any (·.same x) := by
  have hz : ∀ ls : List Level, levelsOn side (ls.map fun x => ⟨side, x.price, .zero⟩) =
      ls.map fun x => ⟨x.price, .zero⟩ := by
    intro ls
    induction ls with
    | nil => rfl
    | cons x r ih => simpa [levelsOn, Change.level] using ih
  have hs : ∀ ls : List Level, levelsOn side (ls.map (.onSide side)) = ls := by
    intro ls
    induction ls with
    | nil => rfl
    | cons x r ih => simpa [levelsOn, Change.level, Change.onSide] using ih
  rw [windowChanges, levelsOn_append, hz, hs]

lemma levelsOn_windowChanges_of_ne {side' : BookSide} (h : side' ≠ side) :
    levelsOn side (windowChanges side' before after) = [] := by
  refine List.map_eq_nil_iff.mpr (List.filter_eq_nil_iff.mpr fun c hc => ?_)
  have hs : c.side = side' := by
    rcases List.mem_append.mp hc with hc | hc <;> obtain ⟨x, _, rfl⟩ := List.mem_map.mp hc <;> rfl
  simpa [hs] using h

lemma putAll_windowChanges (hb : Distinct before) (ha : Distinct after) :
    (depthOf before).putAll (levelsOn side (windowChanges side before after)) = depthOf after := by
  rw [levelsOn_windowChanges]
  funext p
  by_cases hp : ∃ x ∈ after, x.price.units = p
  · obtain ⟨x, hx, rfl⟩ := hp
    rw [depthOf_of_mem ha hx]
    -- no price of the new window is reported as gone
    have hgone : ∀ l ∈ (before.filter fun y => !after.any (·.price.same y.price)).map
        (fun y => (⟨y.price, .zero⟩ : Level)), l.price.units ≠ x.price.units := by
      intro l hl e
      obtain ⟨y, hy, rfl⟩ := List.mem_map.mp hl
      have hn := (List.mem_filter.mp hy).2
      simp only [Bool.not_eq_true', List.any_eq_false] at hn
      exact hn x hx (by simpa [Decimal.same] using e.symm)
    rw [Depth.putAll_append]
    by_cases hold : before.any (·.same x) = true
    · obtain ⟨y, hy, he⟩ := List.any_eq_true.mp hold
      obtain ⟨hprice, hsize⟩ : y.price.units = x.price.units ∧ y.size.units = x.size.units := by
        simpa [Level.same, Decimal.same] using he
      rw [Depth.putAll_of_forall_ne, Depth.putAll_of_forall_ne hgone, ← hprice, ← hsize]
      · exact depthOf_of_mem hb hy
      · intro z hz e
        obtain ⟨hz, hn⟩ := List.mem_filter.mp hz
        rw [ha.eq_of_units_eq hz hx e] at hn
        simp [hold] at hn
    · refine Depth.putAll_of_agree ⟨x, List.mem_filter.mpr ⟨hx, by simpa using hold⟩, rfl⟩ ?_
      intro z hz e
      rw [ha.eq_of_units_eq (List.mem_filter.mp hz).1 hx e]
  · have hnew : ∀ l ∈ after.filter (fun x => !before.any (·.same x)), l.price.units ≠ p :=
      fun l hl e => hp ⟨l, (List.mem_filter.mp hl).1, e⟩
    rw [depthOf_of_forall_ne fun l hl e => hp ⟨l, hl, e⟩, Depth.putAll_append,
      Depth.putAll_of_forall_ne hnew]
    by_cases hold : ∃ y ∈ before, y.price.units = p
    · obtain ⟨y, hy, rfl⟩ := hold
      have hn : after.any (·.price.same y.price) = false := by
        simp only [List.any_eq_false, Decimal.same, beq_iff_eq]
        exact fun z hz e => hp ⟨z, hz, e⟩
      refine Depth.putAll_of_agree ⟨⟨y.price, .zero⟩, List.mem_map.mpr
        ⟨y, List.mem_filter.mpr ⟨hy, by simp [hn]⟩, rfl⟩, rfl⟩ ?_
      intro l hl _
      obtain ⟨z, _, rfl⟩ := List.mem_map.mp hl
      exact Decimal.units_zero
    · rw [Depth.putAll_of_forall_ne, depthOf_of_forall_ne fun l hl e => hold ⟨l, hl, e⟩]
      intro l hl e
      obtain ⟨z, hz, rfl⟩ := List.mem_map.mp hl
      exact hold ⟨z, (List.mem_filter.mp hz).1, e⟩

end Window

def levels (b : Book) : BookSide → List Level
  | .bid => b.bids.levels
  | .ask => b.asks.levels

def shownOn (b : Book) : BookSide → List Level
  | .bid => b.shownBids
  | .ask => b.shownAsks

def shownQuotes (b : Book) : Quotes := fun side => depthOf (b.shownOn side)

lemma shownOn_eq (b : Book) (side : BookSide) : b.shownOn side = b.shown (b.levels side) := by
  cases side <;> rfl

lemma quotes_eq (b : Book) (side : BookSide) : b.quotes side = depthOf (b.levels side) := by
  cases side <;> rfl

lemma distinct_levels (b : Book) (side : BookSide) : Distinct (b.levels side) := by
  cases side with
  | bid => exact b.bids.distinct
  | ask => exact b.asks.distinct

lemma distinct_shownOn (b : Book) (side : BookSide) : Distinct (b.shownOn side) := by
  rw [shownOn_eq, shown]
  split
  · exact b.distinct_levels side
  · exact (b.distinct_levels side).take _

lemma units_levels_congr {b b' : Book} (h : b.quotes = b'.quotes) (side : BookSide) :
    (b.levels side).map Level.units = (b'.levels side).map Level.units := by
  cases side with
  | bid => exact Ladder.units_eq_of_depth_eq (congrFun h .bid)
  | ask => exact Ladder.units_eq_of_depth_eq (congrFun h .ask)

lemma shownQuotes_congr {b b' : Book} (hd : b.maxDepth = b'.maxDepth) (hq : b.quotes = b'.quotes) :
    b.shownQuotes = b'.shownQuotes := by
  funext side
  have hu := units_levels_congr hq side
  refine depthOf_congr ?_
  rw [shownOn_eq, shownOn_eq, shown, shown, hd]
  split
  · exact hu
  · rw [List.map_take, List.map_take, hu]

lemma shownQuotes_of_unbounded {b : Book} (h : b.maxDepth = none) : b.shownQuotes = b.quotes := by
  funext side
  rw [shownQuotes, shownOn_eq, quotes_eq, shown, h]

lemma quotes_of_altering_isEmpty {b : Book} {cs : List Change}
    (he : (b.altering cs).isEmpty = true) : b.quotes = (b.changeAll cs).quotes := by
  rw [quotes_changeAll, ← applyAll_altering, List.isEmpty_iff.mp he, Quotes.applyAll_nil]

lemma levelsOn_windows (before after : BookSide → List Level) (side : BookSide) :
    levelsOn side (windowChanges .bid (before .bid) (after .bid) ++
      windowChanges .ask (before .ask) (after .ask)) =
        levelsOn side (windowChanges side (before side) (after side)) := by
  rw [levelsOn_append]
  cases side with
  | bid =>
    have hask : BookSide.ask ≠ .bid := BookSide.noConfusion
    rw [levelsOn_windowChanges_of_ne hask, List.append_nil]
  | ask =>
    have hbid : BookSide.bid ≠ .ask := BookSide.noConfusion
    rw [levelsOn_windowChanges_of_ne hbid, List.nil_append]

lemma applyAll_report (b : Book) (cs : List Change) :
    b.shownQuotes.applyAll (b.report cs) = (b.changeAll cs).shownQuotes := by
  have hd : (b.changeAll cs).maxDepth = b.maxDepth := by rw [b.changeAll_frame cs]
  cases hm : b.maxDepth with
  | none =>
    rw [report, hm, shownQuotes_of_unbounded hm, shownQuotes_of_unbounded (hd.trans hm),
      applyAll_altering, quotes_changeAll]
  | some d =>
    rw [report, hm]
    by_cases he : (b.altering cs).isEmpty = true
    · simp only [he, if_true, Quotes.applyAll_nil]
      exact shownQuotes_congr hd.symm (quotes_of_altering_isEmpty he)
    · simp only [he, if_false, Bool.false_eq_true]
      funext side
      rw [Quotes.applyAll_side]
      refine (congrArg _ (levelsOn_windows b.shownOn (b.changeAll cs).shownOn side)).trans ?_
      exact putAll_windowChanges (b.distinct_shownOn side) ((b.changeAll cs).distinct_shownOn side)

end Book

end MarketFeed
