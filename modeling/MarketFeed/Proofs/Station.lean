import Mathlib.Data.List.Nodup
import MarketFeed.Gateway
import MarketFeed.Proofs.Directory
import MarketFeed.Proofs.Venue.Subscription

namespace MarketFeed

lemma flatten_shardSymbols (symbols : List String) (limit : Option Nat) :
    (shardSymbols symbols limit).flatten = symbols := by
  cases limit with
  | none => exact List.flatten_singleton
  | some n =>
    rw [shardSymbols]
    split
    · rename_i h
      simp only [Bool.and_eq_true, decide_eq_true_eq] at h
      exact flatten_chunks h.1 symbols
    · exact List.flatten_singleton

namespace Station

variable {c : ExchangeConfig} {s : Station} {global : GlobalConfig} {row : SymbolConfig}

lemma of_eq_ok (h : of c = .ok s) :
    s.config = c ∧ c.directory = .ok s.directory ∧ c.venue = .ok s.venue ∧
      s.shards = shardSymbols s.directory.symbols
        (c.books.connectionLimit s.venue.symbolsPerConnection) := by
  rw [of] at h
  obtain ⟨directory, hd, h⟩ := bind_eq_ok_iff.mp h
  obtain ⟨venue, hv, h⟩ := bind_eq_ok_iff.mp h
  cases h
  exact ⟨rfl, hd, hv, rfl⟩

lemma exists_of_validate (h : c.validate = .ok ()) : ∃ s, of c = .ok s := by
  obtain ⟨_, _, h⟩ := bind_eq_ok_iff.mp h
  obtain ⟨_, _, h⟩ := bind_eq_ok_iff.mp h
  obtain ⟨directory, hd, h⟩ := bind_eq_ok_iff.mp h
  obtain ⟨venue, hv, h⟩ := bind_eq_ok_iff.mp h
  exact ⟨_, bind_eq_ok_iff.mpr ⟨directory, hd, bind_eq_ok_iff.mpr ⟨venue, hv, rfl⟩⟩⟩

lemma directory_of (h : of c = .ok s) :
    Directory.ofList (.named c.id) (c.symbols.map fun s => (s.instrument, s.venueId)) =
      .ok s.directory := by
  obtain ⟨_, hd, _⟩ := of_eq_ok h
  rw [ExchangeConfig.directory] at hd
  split at hd
  · cases hd
  · exact mapError_eq_ok_iff.mp hd

lemma venueId?_row (h : of c = .ok s) (hr : row ∈ c.symbols) :
    s.directory.venueId? row.instrument.symbol = some row.venueId :=
  Directory.venueId?_of_ofList (directory_of h) (List.mem_map.mpr ⟨row, hr, rfl⟩)

lemma flatten_shards (h : of c = .ok s) : s.shards.flatten = s.directory.symbols := by
  obtain ⟨_, _, _, hs⟩ := of_eq_ok h
  rw [hs, flatten_shardSymbols]

lemma exists_shard (h : of c = .ok s) (hr : row ∈ c.symbols) :
    ∃ shard ∈ s.shards, row.instrument.symbol ∈ shard := by
  have hmem : row.instrument.symbol ∈ s.shards.flatten := by
    rw [flatten_shards h, Directory.mem_symbols_iff]
    exact ⟨row.venueId, venueId?_row h hr⟩
  exact List.mem_flatten.mp hmem

lemma disjoint_connections (h : of c = .ok s) {conn conn' : Connection}
    (hc : conn ∈ s.connections global) (hc' : conn' ∈ s.connections global) (hne : conn ≠ conn') :
    conn.symbols.Disjoint conn'.symbols := by
  have hnodup : s.shards.flatten.Nodup :=
    flatten_shards h ▸ Directory.symbols_nodup_of_ofList (directory_of h)
  have hdisjoint := List.pairwise_iff_getElem.mp (List.nodup_flatten.mp hnodup).2
  obtain ⟨i, hi, rfl⟩ := List.mem_mapIdx.mp hc
  obtain ⟨j, hj, rfl⟩ := List.mem_mapIdx.mp hc'
  rcases lt_trichotomy i j with hij | rfl | hij
  · exact hdisjoint i j hi hj hij
  · exact absurd rfl hne
  · exact List.disjoint_symm (hdisjoint j i hj hi hij)

lemma existsUnique_connection (h : of c = .ok s) (hr : row ∈ c.symbols) :
    ∃! conn, conn ∈ s.connections global ∧ row.instrument.symbol ∈ conn.symbols := by
  obtain ⟨shard, hshard, hsymbol⟩ := exists_shard h hr
  obtain ⟨i, hi, rfl⟩ := List.getElem_of_mem hshard
  have hconn : s.connection global i s.shards[i] ∈ s.connections global :=
    List.mem_mapIdx.mpr ⟨i, hi, rfl⟩
  refine ⟨_, ⟨hconn, hsymbol⟩, fun conn ⟨hc, hs⟩ => ?_⟩
  by_contra hne
  exact disjoint_connections h hc hconn hne hs hsymbol

end Station

end MarketFeed
