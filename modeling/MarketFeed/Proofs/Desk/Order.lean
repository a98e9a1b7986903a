import Mathlib.Data.List.Induction
import MarketFeed.Proofs.Desk.Cursor

namespace MarketFeed

lemma inOrder_iff_map {es : List BookEvent} : InOrder es ↔
    (es.map (·.sequence)).Pairwise fun a b => ∀ m ∈ a, ∀ n ∈ b, m ≤ n := by
  rw [InOrder, List.pairwise_map]

namespace Desk

variable {d : Desk} {s : String} {o : Operation} {os : List Operation} {es : List BookEvent}

inductive TakesLagging (d : Desk) (s : String) (es : List BookEvent) : Operation → Prop
  | answer {f : Fetch} {snapshot : Snapshot} {time : Int64} {e : BookEvent} {m n : UInt64}
      (hs : f.symbol = s) (hi : (d.answer f (.ok snapshot) time).result = .installed)
      (he : e ∈ es) (hes : e.symbol = s) (hm : e.sequence = some m)
      (hn : snapshot.sequence = some n) (hlt : n < m) :
      TakesLagging d s es (.answer f (.ok snapshot) time)

def Numbered (s : String) (os : List Operation) : Prop :=
  ∀ f snapshot time, .answer f (.ok snapshot) time ∈ os → f.symbol = s →
    ∃ n, snapshot.sequence = some n

def Passed (d : Desk) (s : String) (es : List BookEvent) : Prop :=
  d.phase s = .live → ∀ e ∈ es, e.symbol = s → ∀ m ∈ e.sequence,
    ∃ c, (d.tracker s).cursor = some c ∧ m ≤ c

lemma Passed.perform (h : d.Passed s es) (hd : d.Labelled) (hn : Numbered s [o])
    (hl : ¬ d.TakesLagging s es o) : (d.perform o).desk.Passed s es := by
  intro hp e he hes m hm
  have hlive : ∀ {t}, (d.perform o).desk.tracker? s = some t → t.phase = .live := by
    intro t ht
    rwa [phase, tracker_eq ht] at hp
  cases turn hd s o with
  | still _ _ hn =>
    rw [phase, tracker, hn.tracker] at hp
    rw [tracker, hn.tracker]
    exact h hp e he hes m hm
  | ask _ _ _ hn => cases hlive hn.tracker
  | @apply u _ _ _ _ hp _ hf hn =>
    rw [tracker_eq hn.tracker]
    obtain ⟨c, hc, hle⟩ := h hp e he hes m hm
    cases hr : u.span with
    | none => exact ⟨c, hc, hle⟩
    | some r => exact ⟨r.last, rfl, UInt64.le_trans hle (hf c hc r hr).1⟩
  | gap _ _ _ _ _ _ hn => cases hlive hn.tracker
  | @install f snapshot time ho hs hx hleaves =>
    subst ho hs
    obtain ⟨n, hseq⟩ := hn f snapshot time (List.mem_singleton.mpr rfl) rfl
    rw [tracker_eq hleaves.tracker]
    refine ⟨n, hseq, UInt64.not_lt.mp fun hlt => hl ?_⟩
    have hi : (d.answer f (.ok snapshot) time).result = .installed := by
      rw [answer_ok_of_expects hx]
      rfl
    exact .answer rfl hi he hes hm hseq hlt
  | fail _ _ hx hn =>
    have hphase := hlive hn.tracker
    cases (Tracker.expects_iff.mp hx).2.1.symm.trans hphase
  | close _ hn => cases hlive hn.tracker

/-- Somewhere in the run a snapshot is taken that is behind what the run has published. -/
def Lagging (d : Desk) (s : String) (os : List Operation) : Prop :=
  ∃ before o after, os = before ++ o :: after ∧
    (d.run before).desk.TakesLagging s (d.run before).events o

lemma Lagging.append (h : d.Lagging s os) (os' : List Operation) : d.Lagging s (os ++ os') := by
  obtain ⟨before, o, after, rfl, ho⟩ := h
  exact ⟨before, o, after ++ os', by rw [List.append_assoc, List.cons_append], ho⟩

lemma desk_run_concat : (d.run (os ++ [o])).desk = ((d.run os).desk.perform o).desk :=
  desk_run_append d os [o]

lemma events_run_concat :
    (d.run (os ++ [o])).events = (d.run os).events ++ ((d.run os).desk.perform o).events := by
  rw [events_run_append, events_run_cons]
  exact congrArg _ (List.append_nil _)

lemma inOrder_and_passed_run (hd : d.Labelled) (ha : d.Agrees s) (hn : Numbered s os)
    (hl : ¬ d.Lagging s os) :
    InOrder ((d.run os).events.filter (·.symbol = s)) ∧
      (d.run os).desk.Passed s (d.run os).events := by
  -- The run grows at its end: what the last step may publish depends on all that came before.
  induction os using List.reverseRecOn with
  | nil => exact ⟨.nil, fun _ e he => absurd he List.not_mem_nil⟩
  | append_singleton os o ih =>
    obtain ⟨hold, hpassed⟩ := ih (fun f x t h => hn f x t (List.mem_append_left _ h))
      fun h => hl (h.append [o])
    have hnext : ((d.run os).desk.perform o).desk.Passed s (d.run os).events :=
      hpassed.perform (hd.run os) (fun f x t h => hn f x t (List.mem_append_right _ h))
        fun h => hl ⟨os, o, [], rfl, h⟩
    have hnew : ∀ e ∈ ((d.run os).desk.perform o).events.filter (·.symbol = s),
        e.sequence = (((d.run os).desk.perform o).desk.tracker s).cursor ∧
          ((d.run os).desk.perform o).desk.phase s = .live := by
      intro e he
      obtain ⟨hmem, hs⟩ := List.mem_filter.mp he
      obtain rfl := of_decide_eq_true hs
      exact ⟨sequence_of_mem_events (hd.run os) ((ha.run hd os).perform (hd.run os) o) hmem,
        phase_of_mem_events (hd.run os) hmem⟩
    rw [desk_run_concat, events_run_concat, List.filter_append]
    refine ⟨inOrder_append.mpr ⟨hold, inOrder_of_sequence_eq fun e he => (hnew e he).1,
      fun a ha b hb m hm n hn => ?_⟩, fun hp e he hs m hm => ?_⟩
    · obtain ⟨ha, hs⟩ := List.mem_filter.mp ha
      obtain ⟨hseq, hp⟩ := hnew b hb
      obtain ⟨c, hc, hle⟩ := hnext hp a ha (of_decide_eq_true hs) m hm
      rw [hseq, hc] at hn
      cases hn
      exact hle
    · rcases List.mem_append.mp he with he | he
      · exact hnext hp e he hs m hm
      · obtain ⟨hseq, _⟩ := hnew e (List.mem_filter.mpr ⟨he, decide_eq_true hs⟩)
        exact ⟨m, hseq.symm.trans hm, UInt64.le_refl m⟩

lemma events_answer_of_installed {f : Fetch} {snapshot : Snapshot} {time : Int64}
    (h : (d.answer f (.ok snapshot) time).result = .installed) :
    (d.answer f (.ok snapshot) time).events =
      [((d.shelf.bookOrNew f.symbol).load snapshot time).snapshotEvent snapshot.raw] := by
  rw [answer_ok_of_expects (expects_of_installed h)]
  simp [install, Shelf.load, book?_put]

lemma TakesLagging.not_inOrder (h : d.TakesLagging s es o) (hd : d.Labelled) :
    ¬ InOrder ((es ++ (d.perform o).events).filter (·.symbol = s)) := by
  cases h with
  | @answer f snapshot time e m n hs hi he hes hm hn hlt =>
    subst hs
    let b := ((d.shelf.bookOrNew f.symbol).load snapshot time).snapshotEvent snapshot.raw
    have hb : b ∈ (d.perform (.answer f (.ok snapshot) time)).events := by
      change b ∈ (d.answer f (.ok snapshot) time).events
      rw [events_answer_of_installed hi]
      exact List.mem_singleton.mpr rfl
    have hbs : b.symbol = f.symbol := hd.symbol_bookOrNew f.symbol
    rw [List.filter_append]
    intro h
    have hle : m ≤ n := (inOrder_append.mp h).2.2 e (List.mem_filter.mpr ⟨he, decide_eq_true hes⟩)
      b (List.mem_filter.mpr ⟨hb, decide_eq_true hbs⟩) m hm n hn
    exact UInt64.not_lt.mpr hle hlt

lemma Lagging.not_inOrder (h : d.Lagging s os) (hd : d.Labelled) :
    ¬ InOrder ((d.run os).events.filter (·.symbol = s)) := by
  obtain ⟨before, o, after, rfl, ho⟩ := h
  rw [events_run_append, events_run_cons, ← List.append_assoc, List.filter_append]
  exact fun h => ho.not_inOrder (hd.run before) (inOrder_append.mp h).1

lemma installed_of_gap (hd : d.Labelled) {u : Update} {time : Int64}
    (hg : (d.update u time).result = .gap) {f : Fetch} (hf : f ∈ (d.update u time).fetches)
    (snapshot : Snapshot) (time' : Int64) :
    ((d.update u time).desk.answer f (.ok snapshot) time').result = .installed := by
  rw [update_of_result_gap hg] at hf ⊢
  obtain rfl := List.mem_singleton.mp hf
  have hs : (d.tracker u.symbol).fetch.symbol = u.symbol := hd.symbol_tracker u.symbol
  rw [answer_ok_of_expects]
  · rfl
  · rw [hs, tracker, tracker?_removeBook, tracker?_setTracker, if_pos rfl]
    exact Tracker.expects_iff.mpr ⟨rfl, rfl, rfl⟩

/-- From every desk that can be reached, what a run publishes about a symbol is in order exactly if
no snapshot is taken in it that is behind what it has published. The desk itself refuses none: a gap
makes it forget its cursor, and any number that the answer bears becomes the next one. -/
theorem published_in_order_iff (exchange : Exchange) (maxDepth : Option Nat)
    (before os : List Operation) (symbol : String) (hn : Numbered symbol os) :
    let d := reached exchange maxDepth before
    (InOrder ((d.run os).events.filter (·.symbol = symbol)) ↔ ¬ d.Lagging symbol os) ∧
      ∀ u time, let n := (d.run os).desk.update u time
        n.result = .gap → ∀ f ∈ n.fetches, ∀ snapshot time',
          (n.desk.answer f (.ok snapshot) time').result = .installed := by
  intro d
  have hd : d.Labelled := labelled_reached exchange maxDepth before
  have ha : d.Agrees symbol := agrees_reached exchange maxDepth before symbol
  refine ⟨⟨fun h hl => hl.not_inOrder hd h, fun hl => (inOrder_and_passed_run hd ha hn hl).1⟩, ?_⟩
  exact fun u time hg f hf snapshot time' => installed_of_gap (hd.run os) hg hf snapshot time'

theorem published_in_order_over_fresh_snapshots :
    let s := "BTC-USDT"
    let snapshot (n : UInt64) : Snapshot := ⟨[⟨.whole 100, .whole 2⟩], [], some n, none, none⟩
    let update (first last : UInt64) : Operation :=
      .update ⟨s, [⟨.bid, .whole 100, .whole 3⟩], some ⟨first, last⟩, none, none⟩ 2
    let d := reached .kucoin none [.subscribe s]
    let os := [.answer ⟨s, 0⟩ (.ok (snapshot 50)) 1, update 52 53,
      .answer ⟨s, 0⟩ (.ok (snapshot 53)) 3, update 54 55]
    let published := (d.run os).events.filter (·.symbol = s)
    Numbered s os ∧ published.map (·.sequence) = [some 50, some 53, some 55] ∧
      ¬ d.Lagging s os := by
  intro s snapshot update d os published
  have hn : Numbered s os := by
    intro f x time h _
    simp only [os, update, List.mem_cons, Operation.answer.injEq, Except.ok.injEq, reduceCtorEq,
      List.not_mem_nil, false_or, or_false] at h
    rcases h with ⟨_, rfl, _⟩ | ⟨_, rfl, _⟩ <;> exact ⟨_, rfl⟩
  have hsequences : published.map (·.sequence) = [some 50, some 53, some 55] := by decide
  refine ⟨hn, hsequences, (published_in_order_iff .kucoin none [.subscribe s] os s hn).1.mp ?_⟩
  rw [inOrder_iff_map, hsequences]
  simp

theorem published_sequence_falls_at_a_lagging_snapshot :
    let s := "BTC-USDT"
    let snapshot (n : UInt64) : Snapshot := ⟨[⟨.whole 100, .whole 2⟩], [], some n, none, none⟩
    let os : List Operation := [.subscribe s, .answer ⟨s, 0⟩ (.ok (snapshot 50)) 1,
      .update ⟨s, [], some ⟨60, 60⟩, none, none⟩ 2, .answer ⟨s, 0⟩ (.ok (snapshot 40)) 3]
    let published := ((empty .kucoin none).run os).events.filter (·.symbol = s)
    published.map (·.sequence) = [some 50, some 40] ∧ ¬ InOrder published := by
  intro s snapshot os published
  have hsequences : published.map (·.sequence) = [some 50, some 40] := by decide
  refine ⟨hsequences, ?_⟩
  rw [inOrder_iff_map, hsequences]
  simp

end Desk

end MarketFeed
