import MarketFeed.Proofs.Station

namespace MarketFeed

lemma BookConfig.connectionLimit_eq_min? (c : BookConfig) (venueLimit : Option Nat) :
    c.connectionLimit venueLimit =
      (c.maxSymbolsPerConnection.toList ++ venueLimit.toList).min? := by
  unfold connectionLimit
  cases c.maxSymbolsPerConnection <;> cases venueLimit <;> rfl

section Shards

variable {symbols shard : List String} {n : Nat}

lemma shardSymbols_of_le (h : symbols.length ≤ n) : shardSymbols symbols (some n) = [symbols] := by
  simp [shardSymbols, Nat.not_lt.mpr h]

lemma shardSymbols_of_lt (hn : 0 < n) (h : n < symbols.length) :
    shardSymbols symbols (some n) = chunks n symbols := by
  simp [shardSymbols, hn, h]

lemma length_of_mem_shardSymbols (hn : 0 < n) (hs : symbols ≠ [])
    (h : shard ∈ shardSymbols symbols (some n)) : 0 < shard.length ∧ shard.length ≤ n := by
  rcases Nat.lt_or_ge n symbols.length with hlt | hle
  · rw [shardSymbols_of_lt hn hlt] at h
    exact length_of_mem_chunks hn h
  · rw [shardSymbols_of_le hle] at h
    obtain rfl := List.mem_singleton.mp h
    exact ⟨List.length_pos_of_ne_nil hs, hle⟩

lemma length_shardSymbols (hn : 0 < n) (hs : symbols ≠ []) :
    (shardSymbols symbols (some n)).length = symbols.length ⌈/⌉ n := by
  rcases Nat.lt_or_ge n symbols.length with hlt | hle
  · rw [shardSymbols_of_lt hn hlt, length_chunks hn]
  · rw [shardSymbols_of_le hle, ceilDiv_eq_succ hn (List.length_pos_of_ne_nil hs),
      Nat.sub_eq_zero_of_le hle, zero_ceilDiv]
    rfl

end Shards

namespace ExchangeConfig

variable {c : ExchangeConfig}

lemma checkLimit_eq_ok_iff {venue : Venue} {count : Nat} : c.checkLimit venue count = .ok () ↔
    ∀ limit, c.books.connectionLimit venue.symbolsPerConnection = some limit →
      0 < limit ∧ (limit < count → c.books.shardConnections = true) := by
  rw [checkLimit]
  cases c.books.connectionLimit venue.symbolsPerConnection with
  | none => simp
  | some limit =>
    by_cases h : limit = 0 <;> cases c.books.shardConnections <;> simp [h, Nat.pos_iff_ne_zero]

end ExchangeConfig

namespace Station

variable {c : ExchangeConfig} {s : Station}

lemma checkLimit_of_validate (h : c.validate = .ok ()) (hs : of c = .ok s) :
    c.checkLimit s.venue s.directory.symbols.length = .ok () := by
  obtain ⟨_, hdirectory, hvenue, _⟩ := of_eq_ok hs
  obtain ⟨_, _, h⟩ := bind_eq_ok_iff.mp h
  obtain ⟨_, _, h⟩ := bind_eq_ok_iff.mp h
  obtain ⟨directory, hd, h⟩ := bind_eq_ok_iff.mp h
  obtain ⟨venue, hv, h⟩ := bind_eq_ok_iff.mp h
  obtain ⟨_, _, h⟩ := bind_eq_ok_iff.mp h
  obtain rfl := Except.ok.inj (hdirectory.symm.trans hd)
  obtain rfl := Except.ok.inj (hvenue.symm.trans hv)
  rwa [Directory.symbols, Table.names, List.length_map]

lemma symbols_perm (hs : of c = .ok s) :
    s.directory.symbols.Perm (c.symbols.map (·.instrument.symbol)) := by
  have h := Directory.symbols_perm_of_ofList (directory_of hs)
  rwa [List.map_map] at h

lemma symbols_ne_nil (hs : of c = .ok s) : s.directory.symbols ≠ [] := by
  obtain ⟨_, hd, _⟩ := of_eq_ok hs
  have hrows : c.symbols ≠ [] := by
    rintro hnil
    rw [ExchangeConfig.directory, hnil] at hd
    cases hd
  intro hnil
  have hperm := symbols_perm hs
  rw [hnil] at hperm
  exact hrows (List.map_eq_nil_iff.mp hperm.nil_eq.symm)

lemma symbols_connections (global : GlobalConfig) :
    (s.connections global).map (·.symbols) = s.shards := by
  refine List.ext_getElem (by simp [connections]) fun i _ _ => ?_
  simp [connections, connection]

lemma existsUnique_connection_of_mem (hs : of c = .ok s) (global : GlobalConfig) {symbol : String}
    (h : symbol ∈ s.directory.symbols) :
    ∃! conn, conn ∈ s.connections global ∧ symbol ∈ conn.symbols := by
  obtain ⟨row, hr, rfl⟩ := List.mem_map.mp ((symbols_perm hs).mem_iff.mp h)
  exact existsUnique_connection hs hr

lemma length_of_mem_shards (h : c.validate = .ok ()) (hs : of c = .ok s) {shard : List String}
    (hshard : shard ∈ s.shards) : 0 < shard.length ∧
      ∀ limit ∈ c.books.connectionLimit s.venue.symbolsPerConnection, shard.length ≤ limit := by
  obtain ⟨_, _, _, hshards⟩ := of_eq_ok hs
  have hlimit := ExchangeConfig.checkLimit_eq_ok_iff.mp (checkLimit_of_validate h hs)
  rw [hshards] at hshard
  cases hl : c.books.connectionLimit s.venue.symbolsPerConnection with
  | none =>
    rw [hl] at hshard
    obtain rfl := List.mem_singleton.mp hshard
    exact ⟨List.length_pos_of_ne_nil (symbols_ne_nil hs), by simp⟩
  | some n =>
    rw [hl] at hshard
    have hlength := length_of_mem_shardSymbols (hlimit n hl).1 (symbols_ne_nil hs) hshard
    exact ⟨hlength.1, by simpa using hlength.2⟩

lemma length_shards_of_limit (h : c.validate = .ok ()) (hs : of c = .ok s) {limit : Nat}
    (hl : c.books.connectionLimit s.venue.symbolsPerConnection = some limit) :
    s.shards.length = c.symbols.length ⌈/⌉ limit := by
  obtain ⟨_, _, _, hshards⟩ := of_eq_ok hs
  have hlimit := ExchangeConfig.checkLimit_eq_ok_iff.mp (checkLimit_of_validate h hs) limit hl
  rw [hshards, hl, length_shardSymbols hlimit.1 (symbols_ne_nil hs), (symbols_perm hs).length_eq,
    List.length_map]

lemma length_shards_undivided (h : c.validate = .ok ()) (hs : of c = .ok s)
    (hl : c.books.connectionLimit s.venue.symbolsPerConnection = none ∨
      c.books.shardConnections = false) : s.shards.length = 1 := by
  obtain ⟨_, _, _, hshards⟩ := of_eq_ok hs
  have hlimit := ExchangeConfig.checkLimit_eq_ok_iff.mp (checkLimit_of_validate h hs)
  rw [hshards]
  cases hn : c.books.connectionLimit s.venue.symbolsPerConnection with
  | none => rfl
  | some n =>
    have hoff := hl.resolve_left (by simp [hn])
    have hle : s.directory.symbols.length ≤ n := by
      refine Nat.not_lt.mp fun hlt => ?_
      cases hoff.symm.trans ((hlimit n hn).2 hlt)
    rw [shardSymbols_of_le hle]
    rfl

/-- The connections of an exchange with valid settings carry its symbols in order, each symbol on
one of them and none of them empty. Where there is a limit no connection carries more, and there are
as few of them as can be; without a limit, or where the symbols may not be divided, there is one. -/
theorem shards_partition_symbols (c : ExchangeConfig) (global : GlobalConfig)
    (h : c.validate = .ok ()) : ∃ s, of c = .ok s ∧
      (s.connections global).map (·.symbols) = s.shards ∧
      s.shards.flatten = s.directory.symbols ∧ s.directory.symbols.Pairwise (· < ·) ∧
      s.directory.symbols.Perm (c.symbols.map (·.instrument.symbol)) ∧
      (∀ symbol ∈ s.directory.symbols,
        ∃! conn, conn ∈ s.connections global ∧ symbol ∈ conn.symbols) ∧
      (∀ shard ∈ s.shards, shard ≠ []) ∧
      (∀ limit, (c.books.maxSymbolsPerConnection.toList ++
          s.venue.symbolsPerConnection.toList).min? = some limit →
        (∀ shard ∈ s.shards, shard.length ≤ limit) ∧
          s.shards.length = c.symbols.length ⌈/⌉ limit) ∧
      (c.books.maxSymbolsPerConnection = none ∧ s.venue.symbolsPerConnection = none ∨
        c.books.shardConnections = false → s.shards.length = 1) := by
  obtain ⟨s, hs⟩ := exists_of_validate h
  refine ⟨s, hs, symbols_connections global, flatten_shards hs,
    Directory.symbols_pairwise_of_insertAll (directory_of hs) .nil, symbols_perm hs,
    fun symbol => existsUnique_connection_of_mem hs global,
    fun shard hshard => List.ne_nil_of_length_pos (length_of_mem_shards h hs hshard).1,
    fun limit hl => ?_, fun hundivided => ?_⟩
  · rw [← BookConfig.connectionLimit_eq_min?] at hl
    exact ⟨fun shard hshard => (length_of_mem_shards h hs hshard).2 limit hl,
      length_shards_of_limit h hs hl⟩
  · refine length_shards_undivided h hs (hundivided.imp_left fun ⟨hc, hv⟩ => ?_)
    rw [BookConfig.connectionLimit_eq_min?, hc, hv]
    rfl

def threeSymbols : ExchangeConfig where
  id := "kucoin"
  name := "KuCoin"
  enabled := true
  restUrl := "http://[::]"
  wsUrl := "ws://[::]"
  headers := []
  account := none
  symbols := [⟨"ETH", "USDT", .spot, "ETH-USDT"⟩, ⟨"BTC", "USDT", .spot, "BTC-USDT"⟩,
    ⟨"XBT", "USDT", .perpetual, "XBTUSDTM"⟩]
  channels := [.book]
  books := { maxSymbolsPerConnection := some 2, shardConnections := true }

lemma validate_threeSymbols : threeSymbols.validate = .ok () := by decide

theorem shards_partition_symbols_one_over_the_limit :
    threeSymbols.validate = .ok () ∧ ∃ s, of threeSymbols = .ok s ∧ s.shards.length = 2 ∧
      ∀ shard ∈ s.shards, shard ≠ [] ∧ shard.length ≤ 2 := by
  obtain ⟨s, hs, _, _, _, _, _, hfull, hlimit, _⟩ :=
    shards_partition_symbols threeSymbols {} validate_threeSymbols
  obtain ⟨_, _, hv, _⟩ := of_eq_ok hs
  have hkucoin : s.venue = .kucoin :=
    Except.ok.inj (hv.symm.trans (show threeSymbols.venue = .ok .kucoin by decide))
  obtain ⟨hmost, hcount⟩ := hlimit 2 (by rw [hkucoin]; decide)
  have htwo : threeSymbols.symbols.length ⌈/⌉ 2 = 2 := Nat.ceilDiv_eq_add_pred_div 3 2
  exact ⟨validate_threeSymbols, s, hs, hcount.trans htwo,
    fun shard hshard => ⟨hfull shard hshard, hmost shard hshard⟩⟩

end Station

end MarketFeed
