import MarketFeed.Proofs.Desk.Effect

namespace MarketFeed

inductive Turn (d : Desk) (s : String) (o : Operation) : Prop
  | still (hc : s ∉ d.closedBy o)
      (ha : ∀ f result time, o = .answer f result time → f.symbol = s →
        (d.tracker s).expects f.epoch = false)
      (h : (d.perform o).Leaves s (d.tracker? s) (d.book? s) [] [])
  | ask {cursor : Option UInt64}
      (ho : o = .subscribe s ∨ (d.tracker s).phase ≠ .closed ∧ ∃ u time, o = .update u time)
      (hw : (d.tracker s).Wants)
      (hc : cursor = none ∨ cursor = (d.tracker s).cursor)
      (h : (d.perform o).Leaves s (some ((d.tracker s).asking cursor)) (d.book? s) []
        [(d.tracker s).fetch])
  | apply {u : Update} {time : Int64} {b : Book} (ho : o = .update u time) (hs : u.symbol = s)
      (hp : (d.tracker s).phase = .live) (hb : d.book? s = some b)
      (hc : Tracker.Follows (d.tracker s).cursor u.span)
      (h : (d.perform o).Leaves s
        (some { d.tracker s with cursor := (u.span.map Span.last).or (d.tracker s).cursor })
        (some (b.apply u time)) (b.deltaEvents u time) [])
  | gap {u : Update} {time : Int64} {c : UInt64} {r : Span} (ho : o = .update u time)
      (hs : u.symbol = s) (hp : (d.tracker s).phase = .live) (hc : (d.tracker s).cursor = some c)
      (hr : u.span = some r) (hg : nextSequence c < r.first)
      (h : (d.perform o).Leaves s (some ((d.tracker s).asking none)) none []
        [(d.tracker s).fetch])
  | install {f : Fetch} {snapshot : Snapshot} {time : Int64}
      (ho : o = .answer f (.ok snapshot) time) (hs : f.symbol = s)
      (he : (d.tracker s).expects f.epoch = true)
      (h : (d.perform o).Leaves s
        (some { d.tracker s with fetching := false, phase := .live, cursor := snapshot.sequence })
        (some ((d.shelf.bookOrNew s).load snapshot time))
        [((d.shelf.bookOrNew s).load snapshot time).snapshotEvent snapshot.raw] [])
  | fail {f : Fetch} {cause : FetchError} {time : Int64} (ho : o = .answer f (.error cause) time)
      (hs : f.symbol = s) (he : (d.tracker s).expects f.epoch = true)
      (h : (d.perform o).Leaves s (some { d.tracker s with fetching := false }) (d.book? s) [] [])
  | close
      (hc : s ∈ d.closedBy o ∨
        (∃ u time, o = .update u time) ∧ (d.tracker s).phase = .live ∧ d.book? s = none)
      (h : (d.perform o).Leaves s (some (d.tracker s).close) none [] [])

namespace Desk

variable {d : Desk} {s : String}

lemma Turn.of_within {o : Operation} {symbol : String} (h : (d.perform o).Within d symbol)
    (hc : s ∉ d.closedBy o) (ha : ∀ f result time, o = .answer f result time → f.symbol = symbol)
    (here : s = symbol → Turn d s o) : Turn d s o := by
  by_cases hs : s = symbol
  · exact here hs
  · refine .still hc (fun f result time ho hf => ?_) (h.leaves hs)
    exact absurd (hf.symm.trans (ha f result time ho)) hs

lemma turn_subscribe (hd : d.Labelled) (symbol : String) : Turn d s (.subscribe symbol) := by
  have hsym := hd.symbol_tracker symbol
  have hc : s ∉ d.closedBy (.subscribe symbol) := List.not_mem_nil
  have hn : d.perform (.subscribe symbol) = ⟨d.setTracker symbol (d.tracker symbol).subscribe.1,
    .done, [], (d.tracker symbol).subscribe.2.toList⟩ := rfl
  refine Turn.of_within (within_subscribe hd symbol) hc (by simp) ?_
  rintro rfl
  rcases (d.tracker s).subscribe_cases with ⟨hp, he⟩ | ⟨hw, cursor, hcur, he⟩
  · rw [he] at hn
    exact .still hc (by simp) ⟨by simp [hn, tracker?_of_phase_ne hp], by simp [hn], by simp [hn],
      by simp [hn]⟩
  · rw [he] at hn
    exact .ask (Or.inl rfl) hw hcur ⟨by simp [hn], by simp [hn], by simp [hn],
      by simp [hn, Tracker.fetch, hsym]⟩

lemma turn_unsubscribe (symbol : String) : Turn d s (.unsubscribe symbol) := by
  by_cases hs : s ∈ d.closedBy (.unsubscribe symbol)
  · obtain ⟨hk, rfl⟩ := mem_closedBy_unsubscribe.mp hs
    refine .close (Or.inl hs) ⟨?_, ?_, rfl, rfl⟩
    all_goals simp [perform, unsubscribe, hk]
  · refine .still hs (by simp) ⟨?_, ?_, rfl, rfl⟩
    all_goals
      by_cases hk : (d.tracker? symbol).isSome = true
      · have hne : s ≠ symbol := fun e => hs (mem_closedBy_unsubscribe.mpr ⟨hk, e⟩)
        simp [perform, unsubscribe, hk, hne]
      · simp [perform, unsubscribe, hk]

lemma turn_of_reset {o : Operation} {symbols : List String}
    (h : d.perform o = ⟨(d.reset symbols).1, .closed (d.reset symbols).2, [], []⟩)
    (hc : d.closedBy o = (d.reset symbols).2)
    (ho : ∀ f result time, o ≠ .answer f result time) : Turn d s o := by
  by_cases hs : s ∈ (d.reset symbols).2
  · obtain ⟨ht, hb⟩ := reset_of_mem hs
    exact .close (Or.inl (hc ▸ hs)) (h ▸ ⟨ht, hb, rfl, rfl⟩)
  · obtain ⟨ht, hb⟩ := reset_of_not_mem hs
    exact .still (hc ▸ hs) (fun f result time he => absurd he (ho f result time))
      (h ▸ ⟨ht, hb, rfl, rfl⟩)

lemma turn_update (hd : d.Labelled) (u : Update) (time : Int64) : Turn d s (.update u time) := by
  have hsym := hd.symbol_tracker u.symbol
  have hc : s ∉ d.closedBy (.update u time) := List.not_mem_nil
  have hwithin := within_update hd u time
  refine Turn.of_within hwithin hc (by simp) ?_
  rintro rfl
  cases d.updates u time with
  | pass hp _ h =>
    refine .still hc (by simp) ⟨?_, ?_, ?_, ?_⟩ <;> rw [perform, h]
    · simp [Step.map, tracker?_of_phase_ne hp]
    · rfl
    · rfl
    · rfl
  | ask hp hw h =>
    refine .ask (Or.inr ⟨hp, u, time, rfl⟩) hw (Or.inr rfl) ⟨?_, ?_, ?_, ?_⟩ <;> rw [perform, h]
    · simp [Step.map]
    · rfl
    · rfl
    · simp [Step.map, Tracker.fetch, hsym]
  | apply hp hb hf h =>
    have hev := List.filter_eq_self.mpr fun e he => decide_eq_true (hwithin.events e he)
    refine .apply rfl rfl hp hb hf ⟨?_, ?_, hev.trans ?_, ?_⟩ <;> rw [perform, h]
    · simp [Step.map]
    · simp [Step.map, book?_put]
    · rfl
    · rfl
  | lose hp hb h =>
    refine .close (Or.inr ⟨⟨u, time, rfl⟩, hp, hb⟩) ⟨?_, ?_, ?_, ?_⟩ <;> rw [perform, h]
    · simp [Step.map]
    · exact hb
    · rfl
    · rfl
  | gap hp hcur hr hg h =>
    refine .gap rfl rfl hp hcur hr hg ⟨?_, ?_, ?_, ?_⟩ <;> rw [perform, h]
    · simp [Step.map]
    · simp [Step.map]
    · rfl
    · simp [Step.map, Tracker.fetch, hsym]

lemma turn_answer (hd : d.Labelled) (f : Fetch) (result : Except FetchError Snapshot)
    (time : Int64) : Turn d s (.answer f result time) := by
  have hc : s ∉ d.closedBy (.answer f result time) := List.not_mem_nil
  have hwithin := within_answer hd f result time
  refine Turn.of_within hwithin hc (by simp +contextual) ?_
  rintro rfl
  cases he : (d.tracker f.symbol).expects f.epoch with
  | false =>
    refine .still hc ?_ ⟨?_, ?_, ?_, ?_⟩
    · rintro g result' time' hg _
      cases hg
      exact he
    all_goals
      rw [perform, answer_of_not_expects he]
      rfl
  | true =>
    cases result with
    | ok snapshot =>
      have hev := List.filter_eq_self.mpr fun e he => decide_eq_true (hwithin.events e he)
      refine .install rfl rfl he ⟨?_, ?_, hev.trans ?_, ?_⟩ <;>
        rw [perform, answer_ok_of_expects he]
      · simp [install, Step.map]
      · simp [install, Step.map, Shelf.load, book?_put]
      · simp [install, Step.map, Shelf.load, book?_put]
      · rfl
    | error cause =>
      refine .fail rfl rfl he ⟨?_, ?_, ?_, ?_⟩ <;> rw [perform, answer_error_of_expects he]
      · simp [Step.map]
      · rfl
      · rfl
      · rfl

lemma turn (hd : d.Labelled) (s : String) (o : Operation) : Turn d s o := by
  cases o with
  | subscribe symbol => exact turn_subscribe hd symbol
  | unsubscribe symbol => exact turn_unsubscribe symbol
  | reset symbols => exact turn_of_reset rfl rfl (by simp)
  | resetAll => exact turn_of_reset rfl rfl (by simp)
  | update u time => exact turn_update hd u time
  | answer f result time => exact turn_answer hd f result time

lemma labelled_empty (exchange : Exchange) (maxDepth : Option Nat) :
    (empty exchange maxDepth).Labelled := by
  refine ⟨fun h => ?_, fun h => ?_⟩
  · cases h
  · cases h

lemma Labelled.perform (hd : d.Labelled) (o : Operation) : (d.perform o).desk.Labelled := by
  have key : ∀ s, (∀ t, (d.perform o).desk.tracker? s = some t → t.symbol = s) ∧
      ∀ b, (d.perform o).desk.book? s = some b → b.symbol = s := by
    intro s
    have hsym := hd.symbol_tracker s
    cases turn hd s o with
    | still _ _ h =>
      rw [h.tracker, h.book]
      exact ⟨fun t => hd.tracker, fun b => hd.book⟩
    | ask _ _ _ h =>
      rw [h.tracker, h.book]
      exact ⟨fun t ht => Option.some.inj ht ▸ hsym, fun b => hd.book⟩
    | apply _ _ _ hb _ h =>
      rw [h.tracker, h.book]
      refine ⟨fun t ht => Option.some.inj ht ▸ hsym, fun b he => ?_⟩
      rw [← Option.some.inj he, Book.symbol_apply, hd.book hb]
    | gap _ _ _ _ _ _ h =>
      rw [h.tracker, h.book]
      exact ⟨fun t ht => Option.some.inj ht ▸ hsym, by simp⟩
    | install _ _ _ h =>
      rw [h.tracker, h.book]
      exact ⟨fun t ht => Option.some.inj ht ▸ hsym,
        fun b hb => Option.some.inj hb ▸ hd.symbol_bookOrNew s⟩
    | fail _ _ _ h =>
      rw [h.tracker, h.book]
      exact ⟨fun t ht => Option.some.inj ht ▸ hsym, fun b => hd.book⟩
    | close _ h =>
      rw [h.tracker, h.book]
      exact ⟨fun t ht => Option.some.inj ht ▸ hsym, by simp⟩
  exact ⟨fun {s t} => (key s).1 t, fun {s b} => (key s).2 b⟩

lemma Labelled.run (hd : d.Labelled) (os : List Operation) : (d.run os).desk.Labelled :=
  run_invariant hd fun _ o _ h => h.perform o

def reached (exchange : Exchange) (maxDepth : Option Nat) (os : List Operation) : Desk :=
  ((empty exchange maxDepth).run os).desk

lemma labelled_reached (exchange : Exchange) (maxDepth : Option Nat) (os : List Operation) :
    (reached exchange maxDepth os).Labelled :=
  (labelled_empty exchange maxDepth).run os

end Desk

end MarketFeed
