import MarketFeed.Proofs.Directory
import MarketFeed.Venue.Dialect

namespace MarketFeed

variable {dir : Directory} {msg : Json} {time : Int64}

namespace Kucoin

lemma symbol_of_readUpdate {u : Update} (h : readUpdate dir msg = .ok u) :
    u.symbol ∈ dir.symbols := by
  simp only [readUpdate, bind_eq_ok_iff, Except.ok.injEq] at h
  obtain ⟨_, _, _, _, symbol, hs, _, _, _, _, _, _, _, _, _, _, rfl⟩ := h
  exact Directory.mem_symbols_of_resolve hs

lemma of_readTrade {t : TradeEvent} (h : readTrade dir msg time = .ok t) :
    t.exchange = .kucoin ∧ t.symbol ∈ dir.symbols := by
  simp only [readTrade, bind_eq_ok_iff, Except.ok.injEq] at h
  obtain ⟨_, _, _, _, symbol, hs, _, _, _, _, _, _, _, _, _, _, _, _, rfl⟩ := h
  exact ⟨rfl, Directory.mem_symbols_of_resolve hs⟩

lemma of_readOrder {o : OrderEvent} (h : readOrder dir msg time = .ok o) :
    o.exchange = .kucoin ∧ o.symbol ∈ dir.symbols := by
  simp only [readOrder, bind_eq_ok_iff, Except.ok.injEq] at h
  obtain ⟨_, _, _, _, symbol, hs, _, _, _, _, _, _, _, _, _, _, _, _, _, _, _, _, _, _, rfl⟩ := h
  exact ⟨rfl, Directory.mem_symbols_of_resolve hs⟩

lemma of_readBalance {b : BalanceEvent} (h : readBalance msg time = .ok b) :
    b.exchange = .kucoin := by
  simp only [readBalance, bind_eq_ok_iff, Except.ok.injEq] at h
  obtain ⟨_, _, ⟨_, _, _⟩, _, _, _, rfl⟩ := h
  rfl

end Kucoin

namespace Vertex

lemma symbol_of_readSymbol {symbol : String} (h : readSymbol dir msg = .ok symbol) :
    symbol ∈ dir.symbols := by
  obtain ⟨_, _, hs⟩ := bind_eq_ok_iff.mp h
  exact Directory.mem_symbols_of_resolve hs

lemma symbol_of_readUpdate {u : Update} (h : readUpdate dir msg = .ok u) :
    u.symbol ∈ dir.symbols := by
  simp only [readUpdate, bind_eq_ok_iff, Except.ok.injEq] at h
  obtain ⟨symbol, hs, _, _, _, _, _, _, rfl⟩ := h
  exact symbol_of_readSymbol hs

lemma of_readTrade {t : TradeEvent} (h : readTrade dir msg time = .ok t) :
    t.exchange = .vertex ∧ t.symbol ∈ dir.symbols := by
  simp only [readTrade, bind_eq_ok_iff, Except.ok.injEq] at h
  obtain ⟨_, _, symbol, hs, _, _, _, _, _, _, rfl⟩ := h
  exact ⟨rfl, symbol_of_readSymbol hs⟩

lemma of_readOrder {o : OrderEvent} (h : readOrder dir msg time = .ok o) :
    o.exchange = .vertex ∧ o.symbol ∈ dir.symbols := by
  simp only [readOrder, bind_eq_ok_iff, Except.ok.injEq] at h
  obtain ⟨_, _, _, _, symbol, hs, _, _, _, _, _, _, _, _, rfl⟩ := h
  exact ⟨rfl, symbol_of_readSymbol hs⟩

lemma of_readBalance {b : BalanceEvent} (h : readBalance dir msg time = .ok b) :
    b.exchange = .vertex := by
  simp only [readBalance, bind_eq_ok_iff, Except.ok.injEq] at h
  obtain ⟨_, _, _, _, _, _, _, _, rfl⟩ := h
  rfl

end Vertex

namespace Venue

variable {venue : Venue}

lemma symbol_of_readUpdate {u : Update} (h : venue.readUpdate dir msg = .ok u) :
    u.symbol ∈ dir.symbols := by
  cases venue with
  | kucoin => exact Kucoin.symbol_of_readUpdate h
  | vertex => exact Vertex.symbol_of_readUpdate h

lemma of_readTrade {t : TradeEvent} (h : venue.readTrade dir msg time = .ok t) :
    t.exchange = venue.exchange ∧ t.symbol ∈ dir.symbols := by
  cases venue with
  | kucoin => exact Kucoin.of_readTrade h
  | vertex => exact Vertex.of_readTrade h

lemma of_readOrder {o : OrderEvent} (h : venue.readOrder dir msg time = .ok o) :
    o.exchange = venue.exchange ∧ o.symbol ∈ dir.symbols := by
  cases venue with
  | kucoin => exact Kucoin.of_readOrder h
  | vertex => exact Vertex.of_readOrder h

lemma of_readBalance {b : BalanceEvent} (h : venue.readBalance dir msg time = .ok b) :
    b.exchange = venue.exchange := by
  cases venue with
  | kucoin => exact Kucoin.of_readBalance h
  | vertex => exact Vertex.of_readBalance (Fault.lift_eq_ok_iff.mp h)

end Venue

end MarketFeed
