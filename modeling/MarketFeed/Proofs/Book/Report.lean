import MarketFeed.Proofs.Book.Sheet

namespace MarketFeed

structure Turns (reported before after : List Level) : Prop where
  distinct : Distinct reported
  gone : ∀ p, (p, 0) ∈ reported.map Level.units ↔
    p ∈ before.map (·.price.units) ∧ p ∉ after.map (·.price.units)
  news : ∀ p q, q ≠ 0 → ((p, q) ∈ reported.map Level.units ↔
    (p, q) ∈ after.map Level.units ∧ (p, q) ∉ before.map Level.units)

lemma any_same_iff {ls : List Level} {x : Level} :
    ls.any (·.same x) = true ↔ x.units ∈ ls.map Level.units := by
  simp [Level.same, Decimal.same, Level.units]

lemma any_price_iff {ls : List Level} {x : Level} :
    ls.any (·.price.same x.price) = true ↔ x.price.units ∈ ls.map (·.price.units) := by
  simp [Decimal.same]

namespace Ladder

variable {side : BookSide}

def take (ld : Ladder side) (n : Nat) : Ladder side where
  levels := ld.levels.take n
  ordered := ld.ordered.sublist (List.take_sublist n _)
  sized l hl := ld.sized l (List.mem_of_mem_take hl)

variable {before after : Ladder side}

lemma mem_windowChanges_iff {p q : Int} :
    (p, q) ∈ (levelsOn side (Book.windowChanges side before.levels after.levels)).map Level.units ↔
      (q = 0 ∧ p ∈ before.levels.map (·.price.units) ∧ p ∉ after.levels.map (·.price.units)) ∨
        ((p, q) ∈ after.levels.map Level.units ∧ (p, q) ∉ before.levels.map Level.units) := by
  rw [Book.levelsOn_windowChanges, List.map_append, List.mem_append]
  refine or_congr ⟨?_, ?_⟩ ⟨?_, ?_⟩
  · intro h
    obtain ⟨_, hl, he⟩ := List.mem_map.mp h
    obtain ⟨x, hx, rfl⟩ := List.mem_map.mp hl
    obtain ⟨rfl, rfl⟩ := Prod.mk.inj he
    obtain ⟨hx, hn⟩ := List.mem_filter.mp hx
    rw [Bool.not_eq_true', Bool.eq_false_iff, ne_eq, any_price_iff] at hn
    exact ⟨Decimal.units_zero, List.mem_map.mpr ⟨x, hx, rfl⟩, hn⟩
  · rintro ⟨rfl, hp, hn⟩
    obtain ⟨x, hx, rfl⟩ := List.mem_map.mp hp
    rw [← any_price_iff, ← ne_eq, ← Bool.eq_false_iff, ← Bool.not_eq_true'] at hn
    refine List.mem_map.mpr ⟨⟨x.price, .zero⟩, List.mem_map.mpr ⟨x, ?_, rfl⟩, ?_⟩
    · exact List.mem_filter.mpr ⟨hx, hn⟩
    · rw [Level.units, Decimal.units_zero]
  · intro h
    obtain ⟨x, hx, he⟩ := List.mem_map.mp h
    obtain ⟨hx, hn⟩ := List.mem_filter.mp hx
    rw [Bool.not_eq_true', Bool.eq_false_iff, ne_eq, any_same_iff, he] at hn
    exact ⟨he ▸ List.mem_map_of_mem hx, hn⟩
  · rintro ⟨hmem, hn⟩
    obtain ⟨x, hx, he⟩ := List.mem_map.mp hmem
    rw [← he, ← any_same_iff, ← ne_eq, ← Bool.eq_false_iff, ← Bool.not_eq_true'] at hn
    exact List.mem_map.mpr ⟨x, List.mem_filter.mpr ⟨hx, hn⟩, he⟩

lemma distinct_windowChanges :
    Distinct (levelsOn side (Book.windowChanges side before.levels after.levels)) := by
  rw [Book.levelsOn_windowChanges, Distinct, List.map_append, List.map_map, List.nodup_append]
  refine ⟨before.distinct.sublist (List.filter_sublist.map _),
    after.distinct.sublist (List.filter_sublist.map _), ?_⟩
  rintro _ ha _ hb rfl
  obtain ⟨x, hx, hxe⟩ := List.mem_map.mp ha
  obtain ⟨y, hy, hye⟩ := List.mem_map.mp hb
  -- a price that is left out is not one of the new levels
  have hn := (List.mem_filter.mp hx).2
  rw [Bool.not_eq_true', Bool.eq_false_iff, ne_eq, any_price_iff] at hn
  refine hn (List.mem_map.mpr ⟨y, (List.mem_filter.mp hy).1, ?_⟩)
  exact hye.trans hxe.symm

lemma turns_windowChanges :
    Turns (levelsOn side (Book.windowChanges side before.levels after.levels)) before.levels
      after.levels where
  distinct := distinct_windowChanges
  gone p := by
    rw [mem_windowChanges_iff, or_iff_left]
    · simp
    · rintro ⟨hp, _⟩
      exact (mem_units_iff.mp hp).2 rfl
  news p q hq := by
    rw [mem_windowChanges_iff, or_iff_right]
    rintro ⟨h, _⟩
    exact hq h

lemma windowChanges_of_units_eq
    (h : before.levels.map Level.units = after.levels.map Level.units) :
    Book.windowChanges side before.levels after.levels = [] := by
  have hprices : before.levels.map (·.price.units) = after.levels.map (·.price.units) := by
    have hf := congrArg (List.map Prod.fst) h
    rwa [List.map_map, List.map_map] at hf
  rw [Book.windowChanges, List.append_eq_nil_iff, List.map_eq_nil_iff, List.map_eq_nil_iff,
    List.filter_eq_nil_iff, List.filter_eq_nil_iff]
  constructor
  · intro x hx
    rw [Bool.not_eq_true', Bool.not_eq_false, any_price_iff, ← hprices]
    exact List.mem_map_of_mem hx
  · intro x hx
    rw [Bool.not_eq_true', Bool.not_eq_false, any_same_iff, h]
    exact List.mem_map_of_mem hx

end Ladder

namespace Book

variable {b b' : Book} {cs : List Change}

def numbers (b : Book) : List (Int × Int) × List (Int × Int) :=
  (b.bids.levels.map Level.units, b.asks.levels.map Level.units)

lemma numbers_eq_iff : b.numbers = b'.numbers ↔ b.quotes = b'.quotes := by
  rw [numbers, numbers, Prod.mk.injEq]
  constructor
  · rintro ⟨hbids, hasks⟩
    funext side
    cases side with
    | bid => exact depthOf_congr hbids
    | ask => exact depthOf_congr hasks
  · intro h
    exact ⟨Ladder.units_eq_of_depth_eq (congrFun h .bid),
      Ladder.units_eq_of_depth_eq (congrFun h .ask)⟩

lemma alters_iff {c : Change} : b.alters c = true ↔ b.numbers ≠ (b.change c).numbers := by
  rw [ne_eq, numbers_eq_iff, quotes_change]
  constructor
  · intro h hq
    have hs : b.quotes c.side c.price.units = c.size.units := by
      rw [hq, Quotes.apply, Function.update_self]
      exact Function.update_self ..
    rw [alters] at h
    cases hc : c.side <;> rw [hc] at h hs <;> exact Ladder.alters_iff.mp h hs
  · intro h
    by_contra hn
    exact h (apply_eq_self_of_not_alters (Bool.eq_false_iff.mpr hn)).symm

lemma altering_eq_filter (b : Book) (cs : List Change) :
    b.altering cs = (cs.zipIdx.filter fun e =>
      (b.changeAll (cs.take e.2)).numbers ≠ (b.changeAll (cs.take (e.2 + 1))).numbers).map
        Prod.fst := by
  induction cs generalizing b with
  | nil => rfl
  | cons c r ih =>
    -- the members behind the first one are counted from it on
    have hrest : ∀ i, (b.changeAll ((c :: r).take (i + 1))).numbers =
        ((b.change c).changeAll (r.take i)).numbers := fun _ => rfl
    have hnone : ∀ b : Book, b.changeAll [] = b := fun _ => rfl
    rw [List.zipIdx_cons, Nat.zero_add, List.zipIdx_succ, List.filter_cons, List.filter_map,
      altering]
    simp only [Function.comp_def, hrest, List.take_zero, hnone]
    by_cases h : b.alters c = true
    · rw [if_pos h, if_pos (decide_eq_true (alters_iff.mp h)), ih (b.change c), List.map_cons,
        List.map_map]
      rfl
    · rw [if_neg h, if_neg (by simpa using mt alters_iff.mpr h), ih (b.change c), List.map_map]
      rfl

def window (b : Book) (side : BookSide) : Ladder side :=
  b.maxDepth.elim (b.ladder side) (b.ladder side).take

lemma levels_window (b : Book) (side : BookSide) : (b.window side).levels = b.shownOn side := by
  cases h : b.maxDepth with
  | none => rw [window, h, shownOn_of_unbounded h, Option.elim_none]
  | some d =>
    rw [window, h, shownOn_of_bounded h, Option.elim_some]
    rfl

lemma units_shownOn_congr (hd : b.maxDepth = b'.maxDepth) (hq : b.quotes = b'.quotes)
    (side : BookSide) :
    (b.shownOn side).map Level.units = (b'.shownOn side).map Level.units := by
  rw [← levels_window, ← levels_window]
  apply Ladder.units_eq_of_depth_eq
  have h := congrFun (shownQuotes_congr hd hq) side
  rwa [shownQuotes, shownQuotes, ← levels_window, ← levels_window] at h

lemma maxDepth_changeAll (b : Book) (cs : List Change) :
    (b.changeAll cs).maxDepth = b.maxDepth := by
  rw [b.changeAll_frame cs]

lemma report_of_bounded {d : Nat} (h : b.maxDepth = some d) (cs : List Change) :
    b.report cs =
      windowChanges .bid (b.window .bid).levels ((b.changeAll cs).window .bid).levels ++
        windowChanges .ask (b.window .ask).levels ((b.changeAll cs).window .ask).levels := by
  rw [report, h]
  by_cases he : (b.altering cs).isEmpty = true
  · -- nothing altered, so the shown levels are as before
    have hq := quotes_of_altering_isEmpty he
    have hunits : ∀ side, (b.window side).levels.map Level.units =
        ((b.changeAll cs).window side).levels.map Level.units := by
      intro side
      rw [levels_window, levels_window]
      exact units_shownOn_congr (b.maxDepth_changeAll cs).symm hq side
    simp only [he, if_true]
    rw [Ladder.windowChanges_of_units_eq (hunits .bid),
      Ladder.windowChanges_of_units_eq (hunits .ask), List.append_nil]
  · simp only [he, Bool.false_eq_true, if_false]
    rw [levels_window, levels_window, levels_window, levels_window]
    rfl

lemma levelsOn_report {d : Nat} (h : b.maxDepth = some d) (cs : List Change) (side : BookSide) :
    levelsOn side (b.report cs) = levelsOn side
      (windowChanges side (b.window side).levels ((b.changeAll cs).window side).levels) := by
  rw [report_of_bounded h]
  exact levelsOn_windows (fun side => (b.window side).levels)
    (fun side => ((b.changeAll cs).window side).levels) side

lemma turns_report {d : Nat} (h : b.maxDepth = some d) (cs : List Change) (side : BookSide) :
    Turns (levelsOn side (b.report cs)) (b.shownOn side) ((b.changeAll cs).shownOn side) := by
  rw [levelsOn_report h, ← levels_window, ← levels_window]
  exact Ladder.turns_windowChanges

lemma report_eq_nil_iff {d : Nat} (h : b.maxDepth = some d) (cs : List Change) :
    b.report cs = [] ↔ ∀ side,
      (b.shownOn side).map Level.units = ((b.changeAll cs).shownOn side).map Level.units := by
  constructor
  · intro hr side
    have hq := b.applyAll_report cs
    rw [hr, Quotes.applyAll_nil] at hq
    have hside := congrFun hq side
    rw [shownQuotes, shownQuotes, ← levels_window, ← levels_window] at hside
    rw [← levels_window, ← levels_window]
    exact Ladder.units_eq_of_depth_eq hside
  · intro hunits
    have hwindow : ∀ side, (b.window side).levels.map Level.units =
        ((b.changeAll cs).window side).levels.map Level.units := by
      intro side
      rw [levels_window, levels_window]
      exact hunits side
    rw [report_of_bounded h, Ladder.windowChanges_of_units_eq (hwindow .bid),
      Ladder.windowChanges_of_units_eq (hwindow .ask), List.append_nil]

lemma quotes_changeAll_changeAll (b : Book) (cs : List Change) :
    ((b.changeAll cs).changeAll cs).quotes = (b.changeAll cs).quotes := by
  rw [quotes_changeAll, quotes_changeAll, Quotes.applyAll_applyAll]

lemma report_changeAll {d : Nat} (h : b.maxDepth = some d) (cs : List Change) :
    (b.changeAll cs).report cs = [] := by
  rw [report_eq_nil_iff ((b.maxDepth_changeAll cs).trans h)]
  exact units_shownOn_congr ((b.changeAll cs).maxDepth_changeAll cs).symm
    (b.quotes_changeAll_changeAll cs).symm

/-- With a bound on the depth the report turns the shown levels of before into those of after, and
is empty just if they are the same; without one it is the part of the batch that made a difference.
Making the batch again changes nothing. -/
theorem report_exact (b : Book) (cs : List Change) :
    (match b.maxDepth with
      | some _ =>
        (b.report cs = [] ↔ ∀ side, (b.shownOn side).map Level.units =
          ((b.changeAll cs).shownOn side).map Level.units) ∧
        (∀ side, Turns (levelsOn side (b.report cs)) (b.shownOn side)
          ((b.changeAll cs).shownOn side)) ∧
        (b.changeAll cs).report cs = []
      | none => b.report cs = (cs.zipIdx.filter fun e =>
          (b.changeAll (cs.take e.2)).numbers ≠
            (b.changeAll (cs.take (e.2 + 1))).numbers).map Prod.fst) ∧
    ((b.changeAll cs).changeAll cs).numbers = (b.changeAll cs).numbers := by
  refine ⟨?_, numbers_eq_iff.mpr (b.quotes_changeAll_changeAll cs)⟩
  cases h : b.maxDepth with
  | none =>
    have hr : b.report cs = b.altering cs := by rw [report, h]
    exact hr.trans (b.altering_eq_filter cs)
  | some d => exact ⟨report_eq_nil_iff h cs, turns_report h cs, report_changeAll h cs⟩

end Book

end MarketFeed
