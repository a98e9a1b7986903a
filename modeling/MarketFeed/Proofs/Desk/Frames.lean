import MarketFeed.Connection
import MarketFeed.Proofs.Bus.Lines
import MarketFeed.Proofs.Desk.Turn
import MarketFeed.Proofs.Venue.Reading

namespace MarketFeed

lemma Book.length_deltaEvent (b : Book) (cs : List Change) (raw : Option Json) :
    (b.deltaEvent cs raw).bids.length + (b.deltaEvent cs raw).asks.length = cs.length := by
  have hsides : ∀ cs : List Change,
      (cs.filter (·.side = .bid)).length + (cs.filter (·.side = .ask)).length = cs.length := by
    intro cs
    induction cs with
    | nil => rfl
    | cons c r ih => cases hs : c.side <;> simp [hs] <;> omega
  simpa [deltaEvent, event] using hsides cs

namespace Hub

variable (h : Hub)

@[simp] lemma react_quiet (result : FrameResult) : h.react (.quiet h.desk result) = h := by
  simp [react, Reaction.quiet, publish, Bus.publishAll]

structure Issues (e : FeedEvent) (h' : Hub) : Prop where
  desk : h'.desk = h.desk
  fetches : h'.fetches = h.fetches
  bus : h.bus.Publishes e h'.bus

lemma issues_react (what : Handled) (e : FeedEvent) :
    h.Issues e (h.react (.published h.desk what e)) :=
  ⟨rfl, List.append_nil h.fetches, h.bus.publishes e⟩

end Hub

namespace Desk

variable {d : Desk} {venue : Venue} {dir : Directory} {text : String} {time : Int64}

inductive Handles (d : Desk) (venue : Venue) (dir : Directory) (text : String) (time : Int64) : Prop
  | refused {cause : FeedError}
      (h : d.handle venue dir text time = .quiet d (.refused cause))
  | control (h : d.handle venue dir text time = .quiet d (.handled .control))
  | overflow (h : d.handle venue dir text time = .quiet d .overflow)
  | book {msg : Json} {u : Update} (hm : Json.ofText? text = some msg)
      (hr : venue.readUpdate dir msg = .ok u)
      (h : d.handle venue dir text time = .ofStep (d.update { u with raw := some msg } time))
  | trade {msg : Json} {t : TradeEvent} (hm : Json.ofText? text = some msg)
      (hr : venue.readTrade dir msg time = .ok t)
      (h : d.handle venue dir text time = .published d .trade (.trade { t with raw := some msg }))
  | order {msg : Json} {o : OrderEvent} (hm : Json.ofText? text = some msg)
      (hr : venue.readOrder dir msg time = .ok o)
      (h : d.handle venue dir text time = .published d .order (.order { o with raw := some msg }))
  | balance {msg : Json} {b : BalanceEvent} (hm : Json.ofText? text = some msg)
      (hr : venue.readBalance dir msg time = .ok b)
      (h : d.handle venue dir text time =
        .published d .balance (.balance { b with raw := some msg }))

lemma handles (d : Desk) (venue : Venue) (dir : Directory) (text : String) (time : Int64) :
    d.Handles venue dir text time := by
  cases hm : Json.ofText? text with
  | none => exact .refused (by rw [handle, hm]; rfl)
  | some msg =>
    have hjson : d.handle venue dir text time = d.handleJson venue dir msg time := by
      rw [handle, hm]
    cases hi : venue.inspect msg with
    | control => exact .control (by rw [hjson, handleJson, hi])
    | refusal detail => exact .refused (by rw [hjson, handleJson, hi]; rfl)
    | data topic =>
      cases hc : venue.channel? topic with
      | none => exact .refused (by simp only [hjson, handleJson, hi, hc]; rfl)
      | some channel =>
        have hdata : d.handle venue dir text time = d.handleData venue dir channel msg time := by
          simp only [hjson, handleJson, hi, hc]
        cases channel with
        | book =>
          cases hr : venue.readUpdate dir msg with
          | error cause => exact .refused (by rw [hdata, handleData, hr]; rfl)
          | ok u => exact .book hm hr (by rw [hdata, handleData, hr])
        | trades =>
          cases hr : venue.readTrade dir msg time with
          | error cause => exact .refused (by rw [hdata, handleData, hr]; rfl)
          | ok t => exact .trade hm hr (by rw [hdata, handleData, hr])
        | orders =>
          cases hr : venue.readOrder dir msg time with
          | error cause => exact .refused (by rw [hdata, handleData, hr]; rfl)
          | ok o => exact .order hm hr (by rw [hdata, handleData, hr])
        | balances =>
          rcases hr : venue.readBalance dir msg time with (cause | _) | b
          · exact .refused (by rw [hdata, handleData, hr]; rfl)
          · exact .overflow (by rw [hdata, handleData, hr])
          · exact .balance hm hr (by rw [hdata, handleData, hr])

lemma events_update (hd : d.Labelled) (u : Update) (time : Int64) :
    (∀ n, 0 < n → (d.update u time).result = .applied n →
      ∃ e, (d.update u time).events = [e] ∧ e.kind = .delta ∧ e.symbol = u.symbol ∧
        e.bids.length + e.asks.length = n ∧ e.raw = u.raw) ∧
      ((∀ n, 0 < n → (d.update u time).result ≠ .applied n) → (d.update u time).events = []) := by
  cases d.updates u time with
  | pass _ hr h =>
    rw [h]
    refine ⟨fun n _ happlied => ?_, fun _ => rfl⟩
    rcases hr with hr | hr | hr <;> cases hr.symm.trans happlied
  | @apply b _ hb _ h =>
    rw [h]
    refine ⟨fun n hn happlied => ?_, fun hnone => ?_⟩
    · obtain rfl := UpdateOutcome.applied.inj happlied
      have hne : (b.report u.changes).isEmpty = false := by
        simpa [List.isEmpty_eq_false_iff, List.length_pos_iff] using hn
      refine ⟨(b.apply u time).deltaEvent (b.report u.changes) u.raw, ?_, rfl, ?_, ?_, rfl⟩
      · simp [Book.deltaEvents, hne]
      · exact (b.symbol_apply u time).trans (hd.book hb)
      · exact Book.length_deltaEvent _ _ _
    · have hzero : ¬ 0 < (b.report u.changes).length := fun hpos => hnone _ hpos rfl
      have hempty : (b.report u.changes).isEmpty = true := by
        simpa [List.length_pos_iff] using hzero
      simp [Book.deltaEvents, hempty]
  | ask _ _ h | lose _ _ h | gap _ _ _ _ h =>
    rw [h]
    exact ⟨fun n _ happlied => (by cases happlied), fun _ => rfl⟩

lemma react_ofStep {hub : Hub} (hd : hub.desk.Labelled) (u : Update) (time : Int64) :
    let n := hub.desk.update u time
    let hub' := hub.react (.ofStep n)
    (∀ s, s ≠ u.symbol → hub'.desk.tracker? s = hub.desk.tracker? s ∧
        hub'.desk.book? s = hub.desk.book? s) ∧
      (∃ new, hub'.fetches = hub.fetches ++ new ∧ ∀ f ∈ new, f.symbol = u.symbol) ∧
      (∀ k, 0 < k → n.result = .applied k → ∃ e : BookEvent, n.events.map FeedEvent.book = [.book e] ∧
        hub.bus.Publishes (.book e) hub'.bus ∧ e.kind = .delta ∧ e.symbol = u.symbol ∧
          e.bids.length + e.asks.length = k ∧ e.raw = u.raw) ∧
      ((∀ k, 0 < k → n.result ≠ .applied k) →
        n.events.map FeedEvent.book = [] ∧ hub'.bus = hub.bus) := by
  intro n hub'
  have hwithin := within_update hd u time
  have hbus : hub'.bus = hub.bus.publishAll (n.events.map .book) := rfl
  obtain ⟨hsome, hnone⟩ := events_update hd u time
  refine ⟨fun s hs => ⟨hwithin.tracker s hs, hwithin.book s hs⟩, ⟨n.fetches, rfl, hwithin.fetches⟩,
    fun k hk hr => ?_, fun hr => ?_⟩
  · obtain ⟨e, he, hevent⟩ := hsome k hk hr
    refine ⟨e, by rw [he, List.map_singleton], ?_, hevent⟩
    rw [hbus, he]
    exact hub.bus.publishes (.book e)
  · rw [hbus, hnone hr]
    exact ⟨rfl, rfl⟩

/-- A frame that is refused, or is no message, changes nothing. A trade, an order or a balance is
published as one event and leaves the desk alone. A book update concerns one symbol of the directory
and publishes one event if it makes a change to report, and nothing otherwise. -/
theorem frames_atomic (venue : Venue) (dir : Directory) (exchange : Exchange)
    (maxDepth : Option Nat) (before : List Operation) (bus : Bus) (fetches : List Fetch)
    (text : String) (time : Int64) :
    let hub : Hub := ⟨reached exchange maxDepth before, bus, fetches⟩
    let r := hub.desk.handle venue dir text time
    let hub' := hub.react r
    (∀ cause, r.result = .refused cause → r.events = [] ∧ r.fetches = [] ∧ hub' = hub) ∧
      (r.result = .handled .control → r.events = [] ∧ r.fetches = [] ∧ hub' = hub) ∧
      (r.result = .handled .trade → ∃ msg t, Json.ofText? text = some msg ∧
        r.events = [.trade t] ∧ hub.Issues (.trade t) hub' ∧ t.exchange = venue.exchange ∧
          t.symbol ∈ dir.symbols ∧ t.raw = some msg) ∧
      (r.result = .handled .order → ∃ msg o, Json.ofText? text = some msg ∧
        r.events = [.order o] ∧ hub.Issues (.order o) hub' ∧ o.exchange = venue.exchange ∧
          o.symbol ∈ dir.symbols ∧ o.raw = some msg) ∧
      (r.result = .handled .balance → ∃ msg b, Json.ofText? text = some msg ∧
        r.events = [.balance b] ∧ hub.Issues (.balance b) hub' ∧ b.exchange = venue.exchange ∧
          b.raw = some msg) ∧
      ∀ o, r.result = .handled (.book o) → ∃ msg symbol, Json.ofText? text = some msg ∧
        symbol ∈ dir.symbols ∧
        (∀ s, s ≠ symbol → hub'.desk.tracker? s = hub.desk.tracker? s ∧
          hub'.desk.book? s = hub.desk.book? s) ∧
        (∃ new, hub'.fetches = hub.fetches ++ new ∧ ∀ f ∈ new, f.symbol = symbol) ∧
        (∀ n, 0 < n → o = .applied n → ∃ e : BookEvent, r.events = [.book e] ∧
          hub.bus.Publishes (.book e) hub'.bus ∧ e.kind = .delta ∧ e.symbol = symbol ∧
            e.bids.length + e.asks.length = n ∧ e.raw = some msg) ∧
        ((∀ n, 0 < n → o ≠ .applied n) → r.events = [] ∧ hub'.bus = hub.bus) := by
  intro hub r hub'
  have hd : hub.desk.Labelled := labelled_reached exchange maxDepth before
  cases hub.desk.handles venue dir text time with
  | refused h | control h | overflow h =>
    have hsame : hub' = hub := (congrArg hub.react h).trans (hub.react_quiet _)
    have hr : r = _ := h
    simp [hr, hsame, Reaction.quiet]
  | trade hm hread h =>
    have hr : r.result = .handled .trade := congrArg Reaction.result h
    have hissues : hub.Issues _ hub' := congrArg hub.react h ▸ hub.issues_react _ _
    obtain ⟨hexchange, hsymbol⟩ := Venue.of_readTrade hread
    simp only [hr, reduceCtorEq, false_imp_iff, implies_true, FrameResult.handled.injEq, true_and,
      true_imp_iff, and_true]
    exact ⟨_, _, hm, congrArg Reaction.events h, hissues, hexchange, hsymbol, rfl⟩
  | order hm hread h =>
    have hr : r.result = .handled .order := congrArg Reaction.result h
    have hissues : hub.Issues _ hub' := congrArg hub.react h ▸ hub.issues_react _ _
    obtain ⟨hexchange, hsymbol⟩ := Venue.of_readOrder hread
    simp only [hr, reduceCtorEq, false_imp_iff, implies_true, FrameResult.handled.injEq, true_and,
      true_imp_iff, and_true]
    exact ⟨_, _, hm, congrArg Reaction.events h, hissues, hexchange, hsymbol, rfl⟩
  | balance hm hread h =>
    have hr : r.result = .handled .balance := congrArg Reaction.result h
    have hissues : hub.Issues _ hub' := congrArg hub.react h ▸ hub.issues_react _ _
    have hexchange := Venue.of_readBalance hread
    simp only [hr, reduceCtorEq, false_imp_iff, implies_true, FrameResult.handled.injEq, true_and,
      true_imp_iff, and_true]
    exact ⟨_, _, hm, congrArg Reaction.events h, hissues, hexchange, rfl⟩
  | @book msg u hm hread h =>
    have hr : r = _ := h
    have heffect := react_ofStep hd { u with raw := some msg } time
    have hreacted : hub' = _ := congrArg hub.react h
    rw [hr, hreacted]
    simp only [Reaction.ofStep, reduceCtorEq, false_imp_iff, implies_true,
      FrameResult.handled.injEq, Handled.book.injEq, true_and]
    rintro o rfl
    exact ⟨msg, u.symbol, hm, Venue.symbol_of_readUpdate hread, heffect⟩

theorem frames_atomic_before_two_readers :
    let s := "BTC-USDT"
    let dir : Directory := ⟨.kucoin, [(s, ⟨.of "BTC" "USDT" .spot, s⟩)]⟩
    let snapshot : Snapshot := ⟨[⟨.whole 100, .whole 2⟩], [], some 5, none, none⟩
    let before : List Operation := [.subscribe s, .answer ⟨s, 0⟩ (.ok snapshot) 1]
    let inboxes := [("all", Inbox.fresh none), ("eth", .fresh (some (.of .kucoin "ETH-USDT")))]
    let hub : Hub := ⟨reached .kucoin none before, ⟨4096, 1, true, inboxes⟩, []⟩
    let update := "\x7b\"topic\":\"/market/level2\",\"data\":\x7b\"symbol\":\"BTC-USDT\"," ++
      "\"sequenceStart\":6,\"sequenceEnd\":6,\"changes\":" ++
        "\x7b\"bids\":[[\"100\",\"0\"]],\"asks\":[[\"101\",\"1\"]]\x7d\x7d\x7d"
    let r := hub.desk.handle .kucoin dir update 2
    let trade := "\x7b\"topic\":\"/market/match\",\"data\":\x7b\"symbol\":\"BTC-USDT\"," ++
      "\"side\":\"buy\",\"price\":\"100\",\"size\":\"1\",\"time\":7\x7d\x7d"
    let r' := hub.desk.handle .kucoin dir trade 2
    let cut := "\x7b\"topic\":\"/market/level2\",\"data\":\x7b\x7d\x7d"
    let r'' := hub.desk.handle .kucoin dir cut 2
    r.result = .handled (.book (.applied 2)) ∧
      (∃ msg e, Json.ofText? update = some msg ∧ r.events = [.book e] ∧ e.symbol = s ∧
        e.bids.length + e.asks.length = 2 ∧ e.raw = some msg ∧
          (hub.react r).bus.inboxes.lookup "all" = some ⟨none, [.book e], 0⟩) ∧
      r'.result = .handled .trade ∧
      (∃ msg t, Json.ofText? trade = some msg ∧ r'.events = [.trade t] ∧ t.symbol = s ∧
        t.raw = some msg ∧ (hub.react r').bus.published = 2 ∧
          (hub.react r').bus.inboxes.lookup "all" = some ⟨none, [.trade t], 0⟩ ∧
            (hub.react r').bus.inboxes.lookup "eth" = hub.bus.inboxes.lookup "eth") ∧
      r''.result = .refused (.unreadable (.missing "symbol")) ∧ hub.react r'' = hub := by
  intro s dir snapshot before inboxes hub update r trade r' cut r''
  have hr : r.result = .handled (.book (.applied 2)) := by decide +kernel
  have hr' : r'.result = .handled .trade := by decide +kernel
  have hr'' : r''.result = .refused (.unreadable (.missing "symbol")) := by decide +kernel
  obtain ⟨_, _, _, _, _, hbook⟩ := frames_atomic .kucoin dir .kucoin none before hub.bus [] update 2
  obtain ⟨_, _, htrade, _⟩ := frames_atomic .kucoin dir .kucoin none before hub.bus [] trade 2
  obtain ⟨hrefused, _⟩ := frames_atomic .kucoin dir .kucoin none before hub.bus [] cut 2
  obtain ⟨msg, symbol, hm, hsymbol, _, _, hevent, _⟩ := hbook _ hr
  obtain rfl : symbol = s := List.mem_singleton.mp hsymbol
  obtain ⟨e, hevents, hbus, _, hs, hcount, hraw⟩ := hevent 2 (by decide) rfl
  obtain ⟨msg', t, hm', hevents', hissues, hexchange, hsymbol', hraw'⟩ := htrade hr'
  have hs' : t.symbol = s := List.mem_singleton.mp hsymbol'
  have hother : ∀ x, FeedEvent.symbol (.trade t) = some x →
      Market.of (FeedEvent.exchange (.trade t)) x ≠ .of .kucoin "ETH-USDT" := by
    rintro x ⟨⟩
    rw [hs', FeedEvent.exchange, hexchange]
    decide
  exact ⟨hr, ⟨msg, e, hm, hevents, hs, hcount, hraw, hbus.concerned "all" _ rfl nofun⟩, hr',
    ⟨msg', t, hm', hevents', hs', hraw', hissues.bus.count,
      hissues.bus.concerned "all" _ rfl nofun, hissues.bus.others "eth" _ _ rfl rfl hother⟩,
    hr'', (hrefused _ hr'').2.2⟩

end Desk

end MarketFeed
