import MarketFeed.Proofs.Book.Window
import MarketFeed.Proofs.Desk.Agreement

namespace MarketFeed

def BookEvent.levels (e : BookEvent) : BookSide → List Level
  | .bid => e.bids
  | .ask => e.asks

def Quotes.hear (q : Quotes) (e : BookEvent) : Quotes := fun side =>
  match e.kind with
  | .snapshot => Depth.putAll (fun _ => 0) (e.levels side)
  | .delta => (q side).putAll (e.levels side)

namespace Book

lemma hear_snapshotEvent (b : Book) (raw : Option Json) (q : Quotes) :
    q.hear (b.snapshotEvent raw) = b.shownQuotes := by
  funext side
  have hl : (b.snapshotEvent raw).levels side = b.shownOn side := by
    cases side <;> rfl
  change Depth.putAll (fun _ => 0) ((b.snapshotEvent raw).levels side) = _
  rw [hl, putAll_zero_eq_depthOf (b.distinct_shownOn side)]
  rfl

lemma hear_deltaEvent (b : Book) (cs : List Change) (raw : Option Json) (q : Quotes) :
    q.hear (b.deltaEvent cs raw) = q.applyAll cs := by
  funext side
  have hl : (b.deltaEvent cs raw).levels side = levelsOn side cs := by
    cases side <;> rfl
  change (q side).putAll ((b.deltaEvent cs raw).levels side) = _
  rw [hl, Quotes.applyAll_side]

lemma hear_deltaEvents (b : Book) (u : Update) (time : Int64) :
    (b.deltaEvents u time).foldl Quotes.hear b.shownQuotes = (b.apply u time).shownQuotes := by
  have happly : (b.apply u time).shownQuotes = (b.changeAll u.changes).shownQuotes :=
    shownQuotes_congr rfl rfl
  rw [happly, ← applyAll_report, deltaEvents]
  split
  · rename_i he
    rw [List.isEmpty_iff.mp he]
    rfl
  · rw [List.foldl_cons, List.foldl_nil, hear_deltaEvent]

end Book

namespace Desk

variable {d : Desk} {s : String} {q : Quotes} {o : Operation}

def Mirrored (d : Desk) (s : String) (q : Quotes) : Prop :=
  ∀ b, d.book? s = some b → q = b.shownQuotes

lemma Mirrored.perform (h : d.Mirrored s q) (hd : d.Labelled) (o : Operation) :
    (d.perform o).desk.Mirrored s
      (((d.perform o).events.filter (·.symbol = s)).foldl Quotes.hear q) := by
  intro b hb
  cases turn hd s o with
  | still _ _ hn =>
    rw [hn.events]
    exact h b (hn.book ▸ hb)
  | ask _ _ _ hn =>
    rw [hn.events]
    exact h b (hn.book ▸ hb)
  | apply _ _ _ hold _ hn =>
    obtain rfl := Option.some.inj (hn.book.symm.trans hb)
    rw [hn.events, h _ hold, Book.hear_deltaEvents]
  | gap _ _ _ _ _ _ hn => cases hn.book.symm.trans hb
  | install _ _ _ hn =>
    obtain rfl := Option.some.inj (hn.book.symm.trans hb)
    rw [hn.events, List.foldl_cons, List.foldl_nil, Book.hear_snapshotEvent]
  | fail _ _ _ hn =>
    rw [hn.events]
    exact h b (hn.book ▸ hb)
  | close _ hn => cases hn.book.symm.trans hb

lemma Mirrored.run (h : d.Mirrored s q) (hd : d.Labelled) (os : List Operation) :
    (d.run os).desk.Mirrored s
      (((d.run os).events.filter (·.symbol = s)).foldl Quotes.hear q) := by
  induction os generalizing d q with
  | nil => exact h
  | cons o r ih =>
    rw [events_run_cons, List.filter_append, List.foldl_append]
    exact ih (h.perform hd o) (hd.perform o)

lemma head?_events_of_book?_eq_none (hd : d.Labelled) (hb : d.book? s = none)
    (os : List Operation) :
    ∀ e ∈ ((d.run os).events.filter (·.symbol = s)).head?, e.kind = .snapshot := by
  induction os generalizing d with
  | nil => exact fun e he => by cases he
  | cons o r ih =>
    have hnext : (d.perform o).events.filter (·.symbol = s) = [] →
        (d.perform o).desk.book? s = none →
        ∀ e ∈ ((d.run (o :: r)).events.filter (·.symbol = s)).head?, e.kind = .snapshot := by
      intro he hb
      rw [events_run_cons, List.filter_append, he, List.nil_append]
      exact ih (hd.perform o) hb
    cases turn hd s o with
    | still _ _ hn => exact hnext hn.events (hn.book.trans hb)
    | ask _ _ _ hn => exact hnext hn.events (hn.book.trans hb)
    | apply _ _ _ hold => cases hb.symm.trans hold
    | gap _ _ _ _ _ _ hn => exact hnext hn.events hn.book
    | install _ _ _ hn =>
      rw [events_run_cons, List.filter_append, hn.events]
      intro e he
      obtain rfl := Option.some.inj he
      rfl
    | fail _ _ _ hn => exact hnext hn.events (hn.book.trans hb)
    | close _ hn => exact hnext hn.events hn.book

inductive Cuts (d : Desk) (s : String) : Operation → Prop
  | gap {u : Update} {time : Int64} (hs : u.symbol = s) (hr : (d.update u time).result = .gap) :
      Cuts d s (.update u time)
  | unsubscribe : Cuts d s (.unsubscribe s)
  | reset {symbols : List String} (hs : s ∈ symbols) : Cuts d s (.reset symbols)
  | resetAll : Cuts d s .resetAll

lemma book?_reset (ha : d.Agrees s) {symbols : List String}
    (hs : d.isOpen s = true → s ∈ symbols) : (d.reset symbols).1.book? s = none := by
  by_cases hr : s ∈ (d.reset symbols).2
  · exact (reset_of_mem hr).2
  · refine (reset_of_not_mem hr).2.trans (ha.book?_eq_none fun hp => hr ?_)
    have ho := isOpen_of_live hp
    exact mem_reset.mpr ⟨hs ho, ho⟩

lemma book?_unsubscribe (ha : d.Agrees s) : (d.unsubscribe s).book? s = none := by
  rw [unsubscribe]
  split
  · simp
  · rename_i hk
    refine ha.book?_eq_none fun hp => hk ?_
    rw [tracker?_of_live hp]
    rfl

lemma update_of_result_gap {u : Update} {time : Int64} (hr : (d.update u time).result = .gap) :
    d.update u time = ⟨(d.setTracker u.symbol ((d.tracker u.symbol).asking none)).removeBook
      u.symbol, .gap, [], [(d.tracker u.symbol).fetch]⟩ := by
  cases d.updates u time with
  | gap _ _ _ _ h => exact h
  | pass _ hq h =>
    rw [h] at hr
    rcases hq with rfl | rfl | rfl <;> cases hr
  | ask _ _ h | apply _ _ _ h | lose _ _ h =>
    rw [h] at hr
    cases hr

lemma book?_of_result_gap {u : Update} {time : Int64} (hr : (d.update u time).result = .gap) :
    (d.update u time).desk.book? u.symbol = none := by
  rw [update_of_result_gap hr]
  simp

lemma Cuts.book?_eq_none (hc : d.Cuts s o) (ha : d.Agrees s) :
    (d.perform o).desk.book? s = none := by
  cases hc with
  | gap hs hr => exact hs ▸ book?_of_result_gap hr
  | unsubscribe => exact book?_unsubscribe ha
  | reset hs => exact book?_reset ha fun _ => hs
  | resetAll => exact book?_reset ha mem_names_of_isOpen

lemma phase_of_mem_events (hd : d.Labelled) {e : BookEvent} (he : e ∈ (d.perform o).events) :
    (d.perform o).desk.phase e.symbol = .live := by
  have hm : e ∈ (d.perform o).events.filter (·.symbol = e.symbol) :=
    List.mem_filter.mpr ⟨he, decide_eq_true rfl⟩
  cases turn hd e.symbol o with
  | still _ _ hn => cases hn.events ▸ hm
  | ask _ _ _ hn => cases hn.events ▸ hm
  | apply _ _ hp _ _ hn => rw [phase, tracker_eq hn.tracker, hp]
  | gap _ _ _ _ _ _ hn => cases hn.events ▸ hm
  | install _ _ _ hn => rw [phase, tracker_eq hn.tracker]
  | fail _ _ _ hn => cases hn.events ▸ hm
  | close _ hn => cases hn.events ▸ hm

/-- Whatever is done to a desk, a consumer of a symbol that takes what is published about it holds
what its book shows, from whatever it held at the start. Once a symbol is cut off, the next that
is published about it is a snapshot, and only a step that leaves a symbol live publishes. -/
theorem consumer_rebuilds_book (exchange : Exchange) (maxDepth : Option Nat)
    (os : List Operation) (symbol : String) :
    let d := reached exchange maxDepth os
    let published := ((empty exchange maxDepth).run os).events.filter (·.symbol = symbol)
    (∀ b, d.book? symbol = some b → ∀ q : Quotes, published.foldl Quotes.hear q = b.shownQuotes) ∧
      (∀ o after, d.Cuts symbol o →
        ∀ e ∈ (((d.perform o).desk.run after).events.filter (·.symbol = symbol)).head?,
          e.kind = .snapshot) ∧
      ∀ o, ∀ e ∈ (d.perform o).events, (d.perform o).desk.phase e.symbol = .live := by
  intro d published
  have hd : d.Labelled := labelled_reached exchange maxDepth os
  have ha : d.Agrees symbol := agrees_reached exchange maxDepth os symbol
  refine ⟨fun b hb q => ?_, fun o after hc => ?_, fun o e he => phase_of_mem_events hd he⟩
  · have hempty : (empty exchange maxDepth).Mirrored symbol q := fun b hb => by cases hb
    exact hempty.run (labelled_empty exchange maxDepth) os b hb
  · exact head?_events_of_book?_eq_none (hd.perform o) (hc.book?_eq_none ha) after

theorem consumer_rebuilds_book_across_a_gap :
    let s := "BTC-USDT"
    let snapshot : Snapshot :=
      ⟨[⟨.whole 100, .whole 2⟩, ⟨.whole 99, .whole 3⟩], [], some 5, none, none⟩
    let os : List Operation := [.subscribe s, .answer ⟨s, 0⟩ (.ok snapshot) 1,
      .update ⟨s, [⟨.bid, .whole 100, .zero⟩], some ⟨6, 6⟩, none, none⟩ 2]
    let d := reached .kucoin (some 1) os
    let gap : Operation := .update ⟨s, [], some ⟨9, 9⟩, none, none⟩ 3
    let published := ((empty .kucoin (some 1)).run os).events.filter (·.symbol = s)
    let after := ((d.perform gap).desk.run [.answer ⟨s, 0⟩ (.ok snapshot) 4]).events
    (∃ b, d.book? s = some b ∧ b.shownBids = [⟨.whole 99, .whole 3⟩] ∧
        published.foldl Quotes.hear (fun _ _ => 0) = b.shownQuotes) ∧
      d.Cuts s gap ∧ ∃ e, (after.filter (·.symbol = s)).head? = some e ∧ e.kind = .snapshot := by
  intro s snapshot os d gap published after
  obtain ⟨hbook, hcut, _⟩ := consumer_rebuilds_book .kucoin (some 1) os s
  have hc : d.Cuts s gap := .gap rfl (by decide)
  obtain ⟨b, hb⟩ := Option.isSome_iff_exists.mp
    (show (d.book? s).isSome = true by decide)
  have hbids : (d.book? s).map Book.shownBids = some [⟨.whole 99, .whole 3⟩] := by decide
  rw [hb] at hbids
  obtain ⟨e, he⟩ := Option.isSome_iff_exists.mp
    (show (after.filter (·.symbol = s)).head?.isSome = true by decide)
  exact ⟨⟨b, hb, Option.some.inj hbids, hbook b hb _⟩, hc, e, he, hcut gap _ hc e he⟩

end Desk

end MarketFeed
