import MarketFeed.Proofs.Desk.Closing
import MarketFeed.Proofs.Station

namespace MarketFeed.Desk

lemma reset_of_other_connection {c : ExchangeConfig} {st : Station} {global : GlobalConfig}
    (h : Station.of c = .ok st) {conn conn' : Connection} (hc : conn ∈ st.connections global)
    (hc' : conn' ∈ st.connections global) (hne : conn ≠ conn') {s : String}
    (hs : s ∈ conn'.symbols) (d : Desk) :
    (d.reset conn.symbols).1.tracker? s = d.tracker? s ∧
      (d.reset conn.symbols).1.book? s = d.book? s :=
  reset_of_not_mem fun hm => Station.disjoint_connections h hc hc' hne (mem_reset.mp hm).1 hs

/-- A reset closes the open symbols of its list, each of which then has no book, publishes nothing
and asks for nothing until it is subscribed again, whatever else is done and whichever late answers
come. It leaves all others as they are; so a lost connection does not touch the books of another. -/
theorem dropped_symbols_stay_closed (exchange : Exchange) (maxDepth : Option Nat)
    (before : List Operation) (symbols : List String) :
    let d := reached exchange maxDepth before
    let dropped := (d.reset symbols).1
    let due := (d.reset symbols).2
    due.Pairwise (· < ·) ∧
      (∀ s, s ∈ due ↔ s ∈ symbols ∧ ∃ t, d.tracker? s = some t ∧ t.phase ≠ .closed) ∧
      (∀ s ∈ due, ∃ t, d.tracker? s = some t ∧
        dropped.tracker? s = some { t with
          phase := .closed, epoch := t.epoch + 1, cursor := none, fetching := false } ∧
        dropped.book? s = none) ∧
      (∀ s, s ∉ due → dropped.tracker? s = d.tracker? s ∧ dropped.book? s = d.book? s) ∧
      (∀ s ∈ due, ∀ later : List Operation, .subscribe s ∉ later →
        let n := dropped.run later
        n.desk.phase s = .closed ∧ n.desk.book? s = none ∧
          (∀ e ∈ n.events, e.symbol ≠ s) ∧ ∀ f ∈ n.fetches, f.symbol ≠ s) ∧
      ∀ c st global, Station.of c = .ok st → ∀ conn ∈ st.connections global,
        ∀ conn' ∈ st.connections global, conn ≠ conn' → ∀ s ∈ conn'.symbols,
          (d.reset conn.symbols).1.tracker? s = d.tracker? s ∧
            (d.reset conn.symbols).1.book? s = d.book? s := by
  intro d dropped due
  have hmem : ∀ s, s ∈ due ↔ s ∈ symbols ∧ ∃ t, d.tracker? s = some t ∧ t.phase ≠ .closed :=
    fun s => mem_reset.trans (and_congr_right fun _ => isOpen_iff)
  have hlabelled : dropped.Labelled :=
    (labelled_reached exchange maxDepth before).perform (.reset symbols)
  refine ⟨Table.sortNames_pairwise _, hmem, fun s hs => ?_, fun s hs => reset_of_not_mem hs,
    fun s hs later hlater => ?_, fun c st global h conn hc conn' hc' hne s hs =>
      reset_of_other_connection h hc hc' hne hs d⟩
  · obtain ⟨_, t, ht, _⟩ := (hmem s).mp hs
    obtain ⟨hclose, hbook⟩ := reset_of_mem hs
    exact ⟨t, ht, hclose.trans (by rw [tracker_eq ht]; rfl), hbook⟩
  · obtain ⟨⟨hphase, hbook⟩, hevents, hfetches⟩ :=
      (shut_reset_of_mem hs).run hlabelled hlater
    refine ⟨hphase, hbook, fun e he => ?_, fun f hf => ?_⟩
    · simpa using List.filter_eq_nil_iff.mp hevents e he
    · simpa using List.filter_eq_nil_iff.mp hfetches f hf

theorem dropped_symbols_stay_closed_under_late_answers :
    let c : ExchangeConfig := ⟨"kucoin", "KuCoin", true, "http://[::]", "ws://[::]", [], none,
      [⟨"BTC", "USDT", .spot, "BTC-USDT"⟩, ⟨"ETH", "USDT", .spot, "ETH-USDT"⟩],
      [.book, .balances], { maxSymbolsPerConnection := some 1, shardConnections := true }⟩
    let snapshot : Snapshot := ⟨[⟨.whole 100, .whole 2⟩], [], some 5, none, none⟩
    let before : List Operation := [.subscribe "BTC-USDT", .subscribe "ETH-USDT",
      .answer ⟨"BTC-USDT", 0⟩ (.ok snapshot) 1, .subscribe "SOL-USDT", .unsubscribe "SOL-USDT"]
    let later : List Operation := [.answer ⟨"ETH-USDT", 0⟩ (.ok snapshot) 2,
      .update ⟨"ETH-USDT", [⟨.bid, .whole 99, .whole 1⟩], some ⟨6, 6⟩, none, none⟩ 3,
      .subscribe "BTC-USDT", .reset ["ETH-USDT"], .answer ⟨"ETH-USDT", 1⟩ (.ok snapshot) 4]
    let d := reached .kucoin none before
    let dropped := d.reset ["XRP-USDT", "ETH-USDT", "SOL-USDT", "BTC-USDT", "ETH-USDT"]
    let n := dropped.1.run later
    dropped.2 = ["BTC-USDT", "ETH-USDT"] ∧ n.desk.phase "ETH-USDT" = .closed ∧
      n.desk.book? "ETH-USDT" = none ∧ (∀ e ∈ n.events, e.symbol ≠ "ETH-USDT") ∧
      n.fetches = [⟨"BTC-USDT", 1⟩] ∧
      ∃ st, Station.of c = .ok st ∧ ∃ conn ∈ st.connections {}, ∃ conn' ∈ st.connections {},
        conn ≠ conn' ∧ "BTC-USDT" ∈ conn'.symbols ∧ (d.book? "BTC-USDT").isSome = true ∧
          (d.reset conn.symbols).1.book? "BTC-USDT" = d.book? "BTC-USDT" := by
  intro c snapshot before later d dropped n
  have hdue : dropped.2 = ["BTC-USDT", "ETH-USDT"] := by decide
  have hdropped := dropped_symbols_stay_closed .kucoin none before
    ["XRP-USDT", "ETH-USDT", "SOL-USDT", "BTC-USDT", "ETH-USDT"]
  obtain ⟨_, _, _, _, hdead, hothers⟩ := hdropped
  have heth : "ETH-USDT" ∈ dropped.2 := by
    rw [hdue]
    decide
  obtain ⟨hphase, hbook, hevents, _⟩ := hdead "ETH-USDT" heth later (by simp [later])
  have hvalid : c.validate = .ok () := by decide +kernel
  obtain ⟨st, hst⟩ := Station.exists_of_validate hvalid
  have hof : (Station.of c).map (·.shards) = .ok [["BTC-USDT"], ["ETH-USDT"]] := by
    decide +kernel
  rw [hst] at hof
  have hshards : st.shards = [["BTC-USDT"], ["ETH-USDT"]] := Except.ok.inj hof
  have hconns : st.connections {} =
      [st.connection {} 0 ["BTC-USDT"], st.connection {} 1 ["ETH-USDT"]] := by
    rw [Station.connections, hshards]
    rfl
  have hfirst : st.connection {} 0 ["BTC-USDT"] ∈ st.connections {} := by simp [hconns]
  have hsecond : st.connection {} 1 ["ETH-USDT"] ∈ st.connections {} := by simp [hconns]
  have hne : st.connection {} 1 ["ETH-USDT"] ≠ st.connection {} 0 ["BTC-USDT"] :=
    fun h => absurd (congrArg Connection.index h) Nat.one_ne_zero
  have hcarried : "BTC-USDT" ∈ (st.connection {} 0 ["BTC-USDT"]).symbols := List.mem_singleton_self _
  exact ⟨hdue, hphase, hbook, hevents, by decide, st, hst, _, hsecond, _, hfirst, hne, hcarried,
    by decide, (hothers c st {} hst _ hsecond _ hfirst hne _ hcarried).2⟩

end MarketFeed.Desk
