import MarketFeed.Proofs.Connection
import MarketFeed.Proofs.Station

namespace MarketFeed

lemma Connection.Opens.exists_covers_iff {c : Connection} {sent : List Json} {channel : Channel}
    {venueId : String} (h : c.Opens sent) :
    (∃ frame ∈ sent, c.venue.Covers channel venueId frame) ↔
      ∃ frame ∈ c.frames, c.venue.Covers channel venueId frame := by
  rw [Connection.opens_iff.mp h, Connection.stamped]
  constructor
  · rintro ⟨frame, hf, hc⟩
    obtain ⟨i, hi, rfl⟩ := List.mem_mapIdx.mp hf
    exact ⟨_, List.getElem_mem hi, Venue.covers_stamp.mp hc⟩
  · rintro ⟨frame, hf, hc⟩
    obtain ⟨i, hi, rfl⟩ := List.getElem_of_mem hf
    exact ⟨_, List.mem_mapIdx.mpr ⟨i, hi, rfl⟩, Venue.covers_stamp.mpr hc⟩

namespace Station

variable {c : ExchangeConfig} {s : Station} {global : GlobalConfig}

def Asks (s : Station) (global : GlobalConfig) (channel : Channel) (venueId : String) : Prop :=
  ∃ conn ∈ s.connections global, ∃ frame ∈ conn.frames, s.venue.Covers channel venueId frame

def FirstNames (s : Station) (venueId : String) : Prop :=
  ∃ shard ∈ s.shards.head?, ∃ symbol ∈ shard, ∃ v, s.directory.venueId? symbol = some v ∧
    Vertex.productJson v = Vertex.productJson venueId

variable {channel : Channel} {venueId : String}

lemma asks_iff_of_opens {sent : Connection → List Json}
    (h : ∀ conn ∈ s.connections global, conn.Opens (sent conn)) :
    (∃ conn ∈ s.connections global, ∃ frame ∈ sent conn, s.venue.Covers channel venueId frame) ↔
      s.Asks global channel venueId := by
  refine exists_congr fun conn => and_congr_right fun hconn => ?_
  obtain ⟨i, _, rfl⟩ := List.mem_mapIdx.mp hconn
  exact (h _ hconn).exists_covers_iff

lemma asks_iff : s.Asks global channel venueId ↔
    ∃ (i : Nat) (hi : i < s.shards.length), ∃ channel' ∈ s.config.channels,
      (channel'.isPrivate = true → i = 0) ∧
        ∃ frame ∈ s.venue.subscribeFrames channel'
            (s.shards[i].filterMap s.directory.venueId?) s.config.account,
          s.venue.Covers channel venueId frame := by
  have hcarries : ∀ i shard channel', (s.connection global i shard).carries channel' = true ↔
      (channel'.isPrivate = true → i = 0) := by
    intro i shard channel'
    rw [Connection.carries, Bool.or_eq_true, decide_eq_true_iff]
    cases channel'.isPrivate <;> simp [connection]
  constructor
  · rintro ⟨conn, hconn, frame, hf, hcov⟩
    obtain ⟨i, hi, rfl⟩ := List.mem_mapIdx.mp hconn
    obtain ⟨channel', hc, hcarry, hf⟩ := Connection.mem_frames_iff.mp hf
    exact ⟨i, hi, channel', hc, (hcarries i _ channel').mp hcarry, frame, hf, hcov⟩
  · rintro ⟨i, hi, channel', hc, hcarry, frame, hf, hcov⟩
    exact ⟨s.connection global i s.shards[i], List.mem_mapIdx.mpr ⟨i, hi, rfl⟩, frame,
      Connection.mem_frames_iff.mpr ⟨channel', hc, (hcarries i _ channel').mpr hcarry, hf⟩, hcov⟩

lemma asks_iff_of_row (h : of c = .ok s) (hc : channel ∈ c.channels) {row : SymbolConfig}
    (hr : row ∈ c.symbols) : s.Asks global channel row.venueId ↔
      (s.venue = .vertex → channel.isPrivate = true → s.FirstNames row.venueId) := by
  obtain ⟨hconfig, _⟩ := of_eq_ok h
  obtain ⟨shard, hshard, hsymbol⟩ := exists_shard h hr
  obtain ⟨i, hi, rfl⟩ := List.getElem_of_mem hshard
  have hid : row.venueId ∈ s.shards[i].filterMap s.directory.venueId? :=
    List.mem_filterMap.mpr ⟨_, hsymbol, venueId?_row h hr⟩
  rw [asks_iff, hconfig]
  cases hp : channel.isPrivate with
  | false =>
    refine iff_of_true ⟨i, hi, channel, hc, by simp [hp], ?_⟩ fun _ hfalse => by cases hfalse
    exact Venue.exists_covers _ (Or.inr hid)
  | true =>
    cases hv : s.venue with
    | kucoin =>
      refine iff_of_true ⟨0, Nat.zero_lt_of_lt hi, channel, hc, fun _ => rfl, ?_⟩
        fun hfalse => by cases hfalse
      exact Venue.exists_covers _ (Or.inl ⟨rfl, hp⟩)
    | vertex =>
      simp only [forall_const]
      constructor
      -- The frame names one product, so its symbol is among those of the connection that sent it.
      · rintro ⟨j, hj, channel', _, hfirst, hcov⟩
        obtain ⟨rfl, v, hv, hproduct⟩ := Vertex.exists_covers_iff.mp hcov
        obtain rfl := hfirst hp
        obtain ⟨symbol, hs, hvenue⟩ := List.mem_filterMap.mp hv
        exact ⟨_, List.head?_eq_getElem?.trans (List.getElem?_eq_getElem hj), symbol, hs, v, hvenue,
          hproduct⟩
      · rintro ⟨first, hfirst, symbol, hs, v, hvenue, hproduct⟩
        have hzero : 0 < s.shards.length := Nat.zero_lt_of_lt hi
        obtain rfl : s.shards[0] = first := Option.some.inj
          ((List.getElem?_eq_getElem hzero).symm.trans (List.head?_eq_getElem?.symm.trans hfirst))
        exact ⟨0, hzero, channel, hc, fun _ => rfl, Vertex.exists_covers_iff.mpr
          ⟨rfl, v, List.mem_filterMap.mpr ⟨symbol, hs, hvenue⟩, hproduct⟩⟩

/-- Suppose that every connection of an exchange with valid settings can send what it wants to. Then
the frames ask for every configured channel of every configured symbol, except that a private
channel of Vertex is asked for only at the products of the first connection. -/
theorem subscriptions_cover_iff (c : ExchangeConfig) (global : GlobalConfig)
    (h : c.validate = .ok ()) : ∃ s, of c = .ok s ∧ ∀ sent : Connection → List Json,
      (∀ conn ∈ s.connections global, conn.Opens (sent conn)) →
        ∀ channel ∈ c.channels, ∀ row ∈ c.symbols,
          ((∃ conn ∈ s.connections global, ∃ frame ∈ sent conn,
              s.venue.Covers channel row.venueId frame) ↔
            (s.venue = .vertex → channel.isPrivate = true → s.FirstNames row.venueId)) := by
  obtain ⟨s, hs⟩ := exists_of_validate h
  refine ⟨s, hs, fun sent hopen channel hc row hr => ?_⟩
  rw [asks_iff_of_opens hopen, asks_iff_of_row hs hc hr]

theorem subscriptions_cover_over_two_connections :
    let c : ExchangeConfig := ⟨"kucoin", "KuCoin", true, "http://[::]", "ws://[::]", [], none,
      [⟨"BTC", "USDT", .spot, "BTC-USDT"⟩, ⟨"ETH", "USDT", .spot, "ETH-USDT"⟩],
      [.book, .balances], { maxSymbolsPerConnection := some 1, shardConnections := true }⟩
    c.validate = .ok () ∧ ∃ s, of c = .ok s ∧
      s.shards.length = 2 ∧ ∀ channel ∈ c.channels, ∀ row ∈ c.symbols,
        ∃ conn ∈ s.connections {}, ∃ frame ∈ Connection.stamped 1 conn.frames,
          s.venue.Covers channel row.venueId frame := by
  intro c
  have hvalid : c.validate = .ok () := by decide +kernel
  obtain ⟨s, hs, hcover⟩ := subscriptions_cover_iff c {} hvalid
  obtain ⟨_, _, hv, _⟩ := of_eq_ok hs
  have hkucoin : s.venue = .kucoin :=
    Except.ok.inj (hv.symm.trans (show c.venue = .ok .kucoin by decide +kernel))
  have hlength : (of c).map (·.shards.length) = .ok 2 := by decide +kernel
  rw [hs] at hlength
  refine ⟨hvalid, s, hs, Except.ok.inj hlength, fun channel hc row hr => ?_⟩
  refine (hcover _ (fun conn _ => Connection.opens_iff.mpr rfl) channel hc row hr).mpr ?_
  rw [hkucoin]
  exact fun h => by cases h

theorem second_connection_leaves_out_orders :
    let c : ExchangeConfig := ⟨"vertex", "Vertex", true, "http://[::]", "ws://[::]", [], none,
      [⟨"BTC", "USDC", .perpetual, "2"⟩, ⟨"ETH", "USDC", .perpetual, "4"⟩], [.orders],
      { maxSymbolsPerConnection := some 1, shardConnections := true }⟩
    c.validate = .ok () ∧ ∃ s, of c = .ok s ∧ ∃ sent : Connection → List Json,
      (∀ conn ∈ s.connections {}, conn.Opens (sent conn)) ∧
        ∃ channel ∈ c.channels, ∃ row ∈ c.symbols,
          ¬ ∃ conn ∈ s.connections {}, ∃ frame ∈ sent conn,
            s.venue.Covers channel row.venueId frame := by
  intro c
  have hvalid : c.validate = .ok () := by decide +kernel
  obtain ⟨s, hs⟩ := exists_of_validate hvalid
  obtain ⟨_, _, hv, _⟩ := of_eq_ok hs
  have hvertex : s.venue = .vertex :=
    Except.ok.inj (hv.symm.trans (show c.venue = .ok .vertex by decide +kernel))
  have hfirst : (of c).map (fun s => (s.shards.head?, s.directory.venueId? "BTC-USDC-PERP")) =
      .ok (some ["BTC-USDC-PERP"], some "2") := by decide +kernel
  rw [hs] at hfirst
  obtain ⟨hshard, hid⟩ := Prod.mk.inj (Except.ok.inj hfirst)
  have hopen : ∀ conn ∈ s.connections {}, conn.Opens (Connection.stamped 1 conn.frames) :=
    fun conn _ => Connection.opens_iff.mpr rfl
  have horders : Channel.orders ∈ c.channels := List.mem_singleton.mpr rfl
  have hrow : (⟨"ETH", "USDC", .perpetual, "4"⟩ : SymbolConfig) ∈ c.symbols :=
    List.mem_cons_of_mem _ (List.mem_singleton.mpr rfl)
  refine ⟨hvalid, s, hs, _, hopen, _, horders, _, hrow, ?_⟩
  rw [asks_iff_of_opens hopen, asks_iff_of_row hs horders hrow]
  intro h
  obtain ⟨shard, hs, symbol, hsymbol, v, hvenue, hproduct⟩ := h hvertex rfl
  obtain rfl := Option.some.inj (hshard.symm.trans hs)
  obtain rfl := List.mem_singleton.mp hsymbol
  obtain rfl := Option.some.inj (hid.symm.trans hvenue)
  exact absurd (Json.num.inj hproduct) (by decide)

end Station

end MarketFeed
