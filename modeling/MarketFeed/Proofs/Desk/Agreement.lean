import MarketFeed.Proofs.Desk.Turn

namespace MarketFeed

lemma Book.sequence_apply (b : Book) (u : Update) (time : Int64) :
    (b.apply u time).sequence = (u.span.map Span.last).or b.sequence := by
  change (u.span.map Span.last).or (b.changeAll u.changes).sequence = _
  rw [b.changeAll_frame u.changes]

namespace Desk

variable {d : Desk} {s : String}

structure Agrees (d : Desk) (s : String) : Prop where
  live : (d.book? s).isSome = true ↔ d.phase s = .live
  cursor : (d.tracker s).cursor = (d.book? s).bind (·.sequence)

lemma agrees_empty (exchange : Exchange) (maxDepth : Option Nat) (s : String) :
    (empty exchange maxDepth).Agrees s := by
  refine ⟨⟨fun h => ?_, fun h => ?_⟩, rfl⟩
  · cases h
  · cases h

lemma Agrees.book?_eq_none (h : d.Agrees s) (hp : d.phase s ≠ .live) : d.book? s = none := by
  rw [← Option.not_isSome_iff_eq_none, h.live]
  exact hp

lemma Agrees.exists_book (h : d.Agrees s) (hp : d.phase s = .live) :
    ∃ b, d.book? s = some b ∧ b.sequence = (d.tracker s).cursor := by
  obtain ⟨b, hb⟩ := Option.isSome_iff_exists.mp (h.live.mpr hp)
  exact ⟨b, hb, by rw [h.cursor, hb]; rfl⟩

lemma Agrees.cursor_eq_none (h : d.Agrees s) (hp : d.phase s ≠ .live) :
    (d.tracker s).cursor = none := by
  rw [h.cursor, h.book?_eq_none hp]
  rfl

lemma Agrees.of_none {t : Tracker} (ht : d.tracker? s = some t) (hb : d.book? s = none)
    (hp : t.phase ≠ .live) (hc : t.cursor = none) : d.Agrees s := by
  refine ⟨?_, ?_⟩
  · rw [phase, tracker_eq ht, hb]
    simpa using hp
  · rw [tracker_eq ht, hb, hc]
    rfl

lemma Agrees.of_some {t : Tracker} {b : Book} (ht : d.tracker? s = some t)
    (hb : d.book? s = some b) (hp : t.phase = .live) (hc : t.cursor = b.sequence) :
    d.Agrees s := by
  refine ⟨?_, ?_⟩
  · rw [phase, tracker_eq ht, hb]
    simpa using hp
  · rw [tracker_eq ht, hb, hc]
    rfl

lemma Agrees.perform (h : d.Agrees s) (hd : d.Labelled) (o : Operation) :
    (d.perform o).desk.Agrees s := by
  cases turn hd s o with
  | still _ _ hn =>
    refine ⟨?_, ?_⟩
    · rw [phase, Desk.tracker, hn.tracker, hn.book]
      exact h.live
    · rw [Desk.tracker, hn.tracker, hn.book]
      exact h.cursor
  | ask _ hw hc hn =>
    have hcur : (d.tracker s).cursor = none := h.cursor_eq_none hw.1
    rw [h.book?_eq_none hw.1] at hn
    refine .of_none hn.tracker hn.book Phase.noConfusion ?_
    rcases hc with hc | hc
    · exact hc
    · exact hc.trans hcur
  | apply _ _ hp hb _ hn =>
    obtain ⟨b', hb', hc⟩ := h.exists_book hp
    obtain rfl := Option.some.inj (hb.symm.trans hb')
    refine .of_some hn.tracker hn.book hp ?_
    rw [Book.sequence_apply, hc]
  | gap _ _ _ _ _ _ hn => exact .of_none hn.tracker hn.book Phase.noConfusion rfl
  | install _ _ _ hn => exact .of_some hn.tracker hn.book rfl rfl
  | fail _ _ he hn =>
    have hl : d.phase s ≠ .live := by
      rw [phase, (Tracker.expects_iff.mp he).2.1]
      exact Phase.noConfusion
    rw [h.book?_eq_none hl] at hn
    exact .of_none hn.tracker hn.book hl (h.cursor_eq_none hl)
  | close _ hn => exact .of_none hn.tracker hn.book Phase.noConfusion rfl

lemma Agrees.run (h : d.Agrees s) (hd : d.Labelled) (os : List Operation) :
    (d.run os).desk.Agrees s := by
  have hall : (d.run os).desk.Labelled ∧ (d.run os).desk.Agrees s :=
    run_invariant (P := fun d => d.Labelled ∧ d.Agrees s) ⟨hd, h⟩
      fun _ o _ h => ⟨h.1.perform o, h.2.perform h.1 o⟩
  exact hall.2

lemma agrees_reached (exchange : Exchange) (maxDepth : Option Nat) (os : List Operation)
    (s : String) : (reached exchange maxDepth os).Agrees s :=
  (agrees_empty exchange maxDepth s).run (labelled_empty exchange maxDepth) os

/-- Whatever is done to a desk that starts with nothing, a symbol has a book exactly while it is
live, book and tracker have one cursor, and an update that the tracker takes finds its book. -/
theorem book_and_tracker_agree (exchange : Exchange) (maxDepth : Option Nat)
    (os : List Operation) (symbol : String) :
    let d := reached exchange maxDepth os
    ((d.book? symbol).isSome = true ↔ d.phase symbol = .live) ∧
      (∀ b, d.book? symbol = some b → b.sequence = (d.tracker symbol).cursor) ∧
      (d.book? symbol = none → (d.tracker symbol).cursor = none) ∧
      ∀ u time, u.symbol = symbol → ((d.tracker symbol).update u.span).2 = .apply →
        (d.shelf.apply u time).isSome = true := by
  intro d
  have h : d.Agrees symbol := agrees_reached exchange maxDepth os symbol
  refine ⟨h.live, fun b hb => ?_, fun hb => ?_, fun u time hs ha => ?_⟩
  · rw [h.cursor, hb]
    rfl
  · rw [h.cursor, hb]
    rfl
  · obtain ⟨b, hb, _⟩ := h.exists_book (Tracker.live_of_update_apply ha)
    subst hs
    rw [Shelf.apply, Option.isSome_map]
    exact Option.isSome_iff_exists.mpr ⟨b, hb⟩

theorem book_and_tracker_agree_once_installed :
    let snapshot : Snapshot := ⟨[⟨.whole 100, .whole 2⟩], [], some 50, none, none⟩
    let d := reached .kucoin none [.subscribe "BTC-USDT", .answer ⟨"BTC-USDT", 0⟩ (.ok snapshot) 7]
    d.phase "BTC-USDT" = .live ∧ (d.tracker "BTC-USDT").cursor = some 50 ∧
      (d.shelf.apply ⟨"BTC-USDT", [], some ⟨51, 52⟩, none, none⟩ 8).isSome = true :=
  ⟨by decide, by decide,
    (book_and_tracker_agree .kucoin none _ "BTC-USDT").2.2.2 _ 8 rfl (by decide)⟩

end Desk

end MarketFeed
