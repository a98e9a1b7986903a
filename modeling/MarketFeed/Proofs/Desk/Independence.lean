import Mathlib.Data.List.Nodup
import MarketFeed.Proofs.Desk.Turn

namespace MarketFeed

def Operation.about (s : String) : Operation → Option Operation
  | .subscribe symbol => if symbol = s then some (.subscribe symbol) else none
  | .unsubscribe symbol => if symbol = s then some (.unsubscribe symbol) else none
  | .reset symbols => if s ∈ symbols then some (.reset (symbols.filter (· = s))) else none
  | .resetAll => some (.reset [s])
  | .update u time => if u.symbol = s then some (.update u time) else none
  | .answer f result time => if f.symbol = s then some (.answer f result time) else none

def Outcome.about (s : String) : Outcome → Outcome
  | .closed symbols => .closed (symbols.filter (· = s))
  | o => o

structure Showing where
  tracker : Option Tracker
  book : Option Book
  outcomes : List Outcome
  events : List BookEvent
  fetches : List Fetch

def Desk.showing (d : Desk) (s : String) (os : List Operation) : Showing where
  tracker := (d.run os).desk.tracker? s
  book := (d.run os).desk.book? s
  outcomes :=
    ((os.zip (d.run os).result).filter fun (o, _) => (o.about s).isSome).map fun (_, r) => r.about s
  events := (d.run os).events.filter (·.symbol = s)
  fetches := (d.run os).fetches.filter (·.symbol = s)

structure Desk.Matches (d d' : Desk) (s : String) : Prop where
  exchange : d.shelf.exchange = d'.shelf.exchange
  maxDepth : d.shelf.maxDepth = d'.shelf.maxDepth
  tracker : d.tracker? s = d'.tracker? s
  book : d.book? s = d'.book? s

structure Step.Matches (n n' : Step Outcome) (s : String) : Prop where
  desk : n.desk.Matches n'.desk s
  result : n.result.about s = n'.result.about s
  events : n.events = n'.events
  fetches : n.fetches = n'.fetches

variable {d d' : Desk} {s : String} {o o' : Operation}

lemma Operation.about_of_about (h : o.about s = some o') : o'.about s = some o' := by
  cases o with
  | resetAll =>
    cases h
    simp [about]
  | reset symbols =>
    simp only [about, Option.ite_none_right_eq_some, Option.some.injEq] at h
    obtain ⟨hs, rfl⟩ := h
    simp [about, hs]
  | _ =>
    simp only [about, Option.ite_none_right_eq_some, Option.some.injEq] at h
    obtain ⟨rfl, rfl⟩ := h
    exact if_pos rfl

namespace Desk

lemma setting_foldl_close (symbols : List String) (d : Desk) :
    (symbols.foldl close d).shelf.exchange = d.shelf.exchange ∧
      (symbols.foldl close d).shelf.maxDepth = d.shelf.maxDepth := by
  induction symbols generalizing d with
  | nil => exact ⟨rfl, rfl⟩
  | cons n r ih => exact ih (d.close n)

lemma setting_perform (d : Desk) (o : Operation) :
    (d.perform o).desk.shelf.exchange = d.shelf.exchange ∧
      (d.perform o).desk.shelf.maxDepth = d.shelf.maxDepth := by
  cases o with
  | subscribe symbol => exact ⟨rfl, rfl⟩
  | unsubscribe symbol =>
    rw [perform, unsubscribe]
    split <;> exact ⟨rfl, rfl⟩
  | reset symbols => exact setting_foldl_close _ d
  | resetAll => exact setting_foldl_close _ d
  | update u time =>
    rw [perform]
    cases d.updates u time with
    | pass _ _ h | ask _ _ h | apply _ _ _ h | lose _ _ h | gap _ _ _ _ h =>
      rw [h]
      exact ⟨rfl, rfl⟩
  | answer f result time =>
    rw [perform]
    cases he : (d.tracker f.symbol).expects f.epoch with
    | false =>
      rw [answer_of_not_expects he]
      exact ⟨rfl, rfl⟩
    | true =>
      cases result with
      | ok snapshot =>
        rw [answer_ok_of_expects he]
        exact ⟨rfl, rfl⟩
      | error cause =>
        rw [answer_error_of_expects he]
        exact ⟨rfl, rfl⟩

lemma leaves_of_about_eq_none (hd : d.Labelled) (h : o.about s = none) :
    (d.perform o).Leaves s (d.tracker? s) (d.book? s) [] [] := by
  cases o with
  | subscribe symbol =>
    exact (within_subscribe hd symbol).leaves (by simpa [Operation.about, eq_comm] using h)
  | unsubscribe symbol =>
    exact (within_unsubscribe d symbol).leaves (by simpa [Operation.about, eq_comm] using h)
  | reset symbols =>
    have hs : s ∉ symbols := by simpa [Operation.about] using h
    obtain ⟨ht, hb⟩ := reset_of_not_mem fun hm => hs (mem_reset.mp hm).1
    exact ⟨ht, hb, rfl, rfl⟩
  | resetAll => cases h
  | update u time =>
    exact (within_update hd u time).leaves (by simpa [Operation.about, eq_comm] using h)
  | answer f result time =>
    exact (within_answer hd f result time).leaves (by simpa [Operation.about, eq_comm] using h)

namespace Matches

lemma refl (d : Desk) (s : String) : d.Matches d s := ⟨rfl, rfl, rfl, rfl⟩

lemma tracker_eq (h : d.Matches d' s) : d.tracker s = d'.tracker s := by
  rw [Desk.tracker, Desk.tracker, h.tracker]

lemma isOpen_eq (h : d.Matches d' s) : d.isOpen s = d'.isOpen s := by
  rw [isOpen, isOpen, h.tracker]

lemma bookOrNew_eq (h : d.Matches d' s) : d.shelf.bookOrNew s = d'.shelf.bookOrNew s := by
  have hb : d.shelf.book? s = d'.shelf.book? s := h.book
  rw [Shelf.bookOrNew, Shelf.bookOrNew, h.exchange, h.maxDepth, hb]

lemma setTracker (h : d.Matches d' s) (t : Tracker) :
    (d.setTracker s t).Matches (d'.setTracker s t) s :=
  ⟨h.exchange, h.maxDepth, by simp, h.book⟩

lemma removeBook (h : d.Matches d' s) : (d.removeBook s).Matches (d'.removeBook s) s :=
  ⟨h.exchange, h.maxDepth, h.tracker, by simp⟩

lemma putBook (h : d.Matches d' s) (t : Tracker) (b : Book) :
    ((d.setTracker s t).setBooks (d.shelf.put s b)).Matches
      ((d'.setTracker s t).setBooks (d'.shelf.put s b)) s :=
  ⟨h.exchange, h.maxDepth, by simp, by simp [book?_put]⟩

lemma perform_left (h : d.Matches d' s) (hd : d.Labelled) (ho : o.about s = none) :
    (d.perform o).desk.Matches d' s := by
  have hn := leaves_of_about_eq_none hd ho
  obtain ⟨he, hm⟩ := setting_perform d o
  exact ⟨he.trans h.exchange, hm.trans h.maxDepth, hn.tracker.trans h.tracker,
    hn.book.trans h.book⟩

lemma reset (h : d.Matches d' s) (symbols symbols' : List String)
    (hs : d.isOpen s = true → (s ∈ symbols ↔ s ∈ symbols')) :
    (d.reset symbols).1.Matches (d'.reset symbols').1 s ∧
      (d.reset symbols).2.filter (· = s) = (d'.reset symbols').2.filter (· = s) := by
  have hn : ∀ (d : Desk) symbols, (d.reset symbols).2.Nodup := fun _ _ => Table.sortNames_nodup _
  have hmem : s ∈ (d.reset symbols).2 ↔ s ∈ (d'.reset symbols').2 := by
    rw [mem_reset, mem_reset, ← h.isOpen_eq]
    exact and_congr_left hs
  have hkept : (d.reset symbols).1.tracker? s = (d'.reset symbols').1.tracker? s ∧
      (d.reset symbols).1.book? s = (d'.reset symbols').1.book? s := by
    by_cases hdue : s ∈ (d.reset symbols).2
    · obtain ⟨ht, hb⟩ := reset_of_mem hdue
      obtain ⟨ht', hb'⟩ := reset_of_mem (hmem.mp hdue)
      rw [ht, ht', hb, hb', h.tracker_eq]
      exact ⟨rfl, rfl⟩
    · obtain ⟨ht, hb⟩ := reset_of_not_mem hdue
      obtain ⟨ht', hb'⟩ := reset_of_not_mem (mt hmem.mpr hdue)
      rw [ht, ht', hb, hb']
      exact ⟨h.tracker, h.book⟩
  obtain ⟨he, hm⟩ := setting_foldl_close (d.reset symbols).2 d
  obtain ⟨he', hm'⟩ := setting_foldl_close (d'.reset symbols').2 d'
  refine ⟨⟨he.trans (h.exchange.trans he'.symm), hm.trans (h.maxDepth.trans hm'.symm), hkept.1,
    hkept.2⟩, ?_⟩
  rw [List.filter_eq, List.filter_eq, (hn d symbols).count, (hn d' symbols').count]
  simp only [hmem]

lemma update {u : Update} (h : d.Matches d' u.symbol) (time : Int64) :
    (d.perform (.update u time)).Matches (d'.perform (.update u time)) u.symbol := by
  rw [perform, perform, Desk.update, Desk.update, ← h.tracker_eq]
  obtain ⟨t, action⟩ := (d.tracker u.symbol).update u.span
  cases action with
  | apply =>
    change (Step.map _ (d.applyUpdate u t time)).Matches (Step.map _ (d'.applyUpdate u t time)) _
    cases hb : d.book? u.symbol with
    | none =>
      rw [applyUpdate_of_none hb, applyUpdate_of_none (h.book.symm.trans hb)]
      exact ⟨h.setTracker t.close, rfl, rfl, rfl⟩
    | some b =>
      rw [applyUpdate_of_some hb, applyUpdate_of_some (h.book.symm.trans hb)]
      exact ⟨h.putBook t (b.apply u time), rfl, rfl, rfl⟩
  | gap cursor first fetch => exact ⟨(h.setTracker t).removeBook, rfl, rfl, rfl⟩
  | _ => exact ⟨h.setTracker t, rfl, rfl, rfl⟩

lemma answer {f : Fetch} (h : d.Matches d' f.symbol) (result : Except FetchError Snapshot)
    (time : Int64) :
    (d.perform (.answer f result time)).Matches (d'.perform (.answer f result time)) f.symbol := by
  rw [perform, perform]
  cases he : (d.tracker f.symbol).expects f.epoch with
  | false =>
    rw [answer_of_not_expects he, answer_of_not_expects (h.tracker_eq ▸ he)]
    exact ⟨h, rfl, rfl, rfl⟩
  | true =>
    have he' := h.tracker_eq ▸ he
    cases result with
    | ok snapshot =>
      rw [answer_ok_of_expects he, answer_ok_of_expects he', ← h.tracker_eq]
      refine ⟨?_, rfl, ?_, rfl⟩
      · rw [install, install, Shelf.load, Shelf.load, h.bookOrNew_eq]
        exact h.putBook _ _
      · simp [install, Step.map, Shelf.load, book?_put, h.bookOrNew_eq]
    | error cause =>
      rw [answer_error_of_expects he, answer_error_of_expects he', ← h.tracker_eq]
      exact ⟨h.setTracker _, rfl, rfl, rfl⟩

lemma perform (h : d.Matches d' s) (ho : o.about s = some o') :
    (d.perform o).Matches (d'.perform o') s := by
  cases o with
  | subscribe symbol =>
    simp only [Operation.about, Option.ite_none_right_eq_some, Option.some.injEq] at ho
    obtain ⟨rfl, rfl⟩ := ho
    rw [Desk.perform, Desk.perform, Desk.subscribe, Desk.subscribe, h.tracker_eq]
    exact ⟨h.setTracker _, rfl, rfl, rfl⟩
  | unsubscribe symbol =>
    simp only [Operation.about, Option.ite_none_right_eq_some, Option.some.injEq] at ho
    obtain ⟨rfl, rfl⟩ := ho
    rw [Desk.perform, Desk.perform, unsubscribe, unsubscribe, close, close, h.tracker,
      h.tracker_eq]
    split
    · exact ⟨(h.setTracker _).removeBook, rfl, rfl, rfl⟩
    · exact ⟨h, rfl, rfl, rfl⟩
  | reset symbols =>
    simp only [Operation.about, Option.ite_none_right_eq_some, Option.some.injEq] at ho
    obtain ⟨hs, rfl⟩ := ho
    obtain ⟨hdesk, hdue⟩ := h.reset symbols (symbols.filter (· = s)) fun _ => by simp
    exact ⟨hdesk, congrArg Outcome.closed hdue, rfl, rfl⟩
  | resetAll =>
    cases ho
    obtain ⟨hdesk, hdue⟩ := h.reset d.trackers.names [s] fun ho => by simp [mem_names_of_isOpen ho]
    exact ⟨hdesk, congrArg Outcome.closed hdue, rfl, rfl⟩
  | update u time =>
    simp only [Operation.about, Option.ite_none_right_eq_some, Option.some.injEq] at ho
    obtain ⟨rfl, rfl⟩ := ho
    exact h.update time
  | answer f result time =>
    simp only [Operation.about, Option.ite_none_right_eq_some, Option.some.injEq] at ho
    obtain ⟨rfl, rfl⟩ := ho
    exact h.answer result time

end Matches

lemma showing_cons_of_none (hd : d.Labelled) (ho : o.about s = none) (r : List Operation) :
    d.showing s (o :: r) = (d.perform o).desk.showing s r := by
  have hn := leaves_of_about_eq_none hd ho
  simp [showing, run, ho, hn.events, hn.fetches]

lemma showing_cons_of_some (ho : o.about s = some o') (r : List Operation) :
    d.showing s (o :: r) =
      let rest := (d.perform o).desk.showing s r
      { rest with
        outcomes := (d.perform o).result.about s :: rest.outcomes
        events := (d.perform o).events.filter (·.symbol = s) ++ rest.events
        fetches := (d.perform o).fetches.filter (·.symbol = s) ++ rest.fetches } := by
  simp [showing, run, ho]

lemma Matches.showing_eq (h : d.Matches d' s) (hd : d.Labelled) (os : List Operation) :
    d.showing s os = d'.showing s (os.filterMap (·.about s)) := by
  induction os generalizing d d' with
  | nil => simp [showing, run, h.tracker, h.book]
  | cons o r ih =>
    cases ho : o.about s with
    | none =>
      rw [List.filterMap_cons_none ho, showing_cons_of_none hd ho]
      exact ih (h.perform_left hd ho) (hd.perform o)
    | some o' =>
      have hn := h.perform ho
      rw [List.filterMap_cons_some ho, showing_cons_of_some ho,
        showing_cons_of_some (Operation.about_of_about ho), ih hn.desk (hd.perform o), hn.result,
        hn.events, hn.fetches]

/-- What a run shows of a symbol is what is shown if only the operations about that symbol are done,
each cut down to it. So the order in which operations about different symbols come makes no
difference to any of them. -/
theorem symbols_independent (exchange : Exchange) (maxDepth : Option Nat) (s : String) :
    let d := empty exchange maxDepth
    (∀ os, d.showing s os = d.showing s (os.filterMap (·.about s))) ∧
      ∀ os os' : List Operation, os.filterMap (·.about s) = os'.filterMap (·.about s) →
        d.showing s os = d.showing s os' := by
  intro d
  have h : ∀ os, d.showing s os = d.showing s (os.filterMap (·.about s)) :=
    (Matches.refl d s).showing_eq (labelled_empty exchange maxDepth)
  refine ⟨h, fun os os' he => ?_⟩
  rw [h os, h os', he]

theorem symbols_independent_over_a_gap_and_a_reset :
    let s := "BTC-USDT"
    let other := "ETH-USDT"
    let snapshot : Snapshot := ⟨[⟨.whole 100, .whole 2⟩], [], some 5, none, none⟩
    let taken : Update := ⟨s, [⟨.bid, .whole 100, .zero⟩], some ⟨6, 6⟩, none, none⟩
    let beyond : Update := ⟨other, [], some ⟨9, 9⟩, none, none⟩
    let os : List Operation := [.subscribe other, .subscribe s, .answer ⟨s, 0⟩ (.ok snapshot) 1,
      .answer ⟨other, 0⟩ (.ok snapshot) 2, .update beyond 3, .update taken 4, .reset [other, s]]
    let os' : List Operation := [.subscribe s, .answer ⟨s, 0⟩ (.ok snapshot) 1, .update taken 4,
      .subscribe other, .resetAll, .reset [other], .update beyond 7]
    let d := empty .kucoin none
    os.filterMap (·.about s) = os'.filterMap (·.about s) ∧ d.showing s os = d.showing s os' ∧
      (d.showing s os).outcomes =
        [.done, .answer .installed, .update (.applied 1), .closed [s]] ∧
      (d.showing s os').events.length = 2 := by
  intro s other snapshot taken beyond os os' d
  have he : os.filterMap (·.about s) = os'.filterMap (·.about s) := rfl
  exact ⟨he, (symbols_independent .kucoin none s).2 os os' he, by decide, by decide⟩

end Desk

end MarketFeed
