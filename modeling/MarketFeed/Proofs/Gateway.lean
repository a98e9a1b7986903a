import Mathlib.Data.List.Dedup
import MarketFeed.Proofs.Station

namespace MarketFeed

def ExchangeConfig.venueName (c : ExchangeConfig) : String := Text.lower c.id

lemma Venue.name_of_ofName? {name : String} {v : Venue} (h : ofName? name = some v) :
    v.exchange.name = Text.lower name := by
  rw [ofName?] at h
  by_cases hk : Text.lower name = "kucoin"
  · rw [hk] at h ⊢
    cases h
    rfl
  · by_cases hv : Text.lower name = "vertex"
    · rw [hv] at h ⊢
      cases h
      rfl
    · simp [List.lookup_cons, beq_false_of_ne hk, beq_false_of_ne hv] at h

lemma Station.name_of {c : ExchangeConfig} {s : Station} (h : of c = .ok s) :
    s.venue.exchange.name = c.venueName := by
  obtain ⟨_, _, hv, _⟩ := of_eq_ok h
  rw [ExchangeConfig.venue] at hv
  split at hv
  · rename_i v hname
    cases hv
    exact Venue.name_of_ofName? hname
  · cases hv

def Station.Serves (s : Station) (global : GlobalConfig) (row : SymbolConfig) : Prop :=
  s.directory.venueId? row.instrument.symbol = some row.venueId ∧
    ∃! conn, conn ∈ s.connections global ∧ row.instrument.symbol ∈ conn.symbols

lemma Station.serves_of {c : ExchangeConfig} {s : Station} (h : of c = .ok s)
    {global : GlobalConfig} {row : SymbolConfig} (hr : row ∈ c.symbols) : s.Serves global row :=
  ⟨venueId?_row h hr, existsUnique_connection h hr⟩

namespace Gateway

variable {c : GatewayConfig} {g : Gateway} {stations table : Table Station}
  {cs : List ExchangeConfig} {e : ExchangeConfig} {name : String} {s : Station}

lemma exists_of_addAll_cons (h : addAll stations (e :: cs) = .ok table) :
    ∃ s, Station.of e = .ok s ∧ addAll (stations.insert e.venueName s) cs = .ok table := by
  obtain ⟨s, hs, hr⟩ := bind_eq_ok_iff.mp h
  exact ⟨s, hs, Station.name_of hs ▸ hr⟩

lemma config_lookup_addAll (h : addAll stations cs = .ok table) (name : String) :
    (table.lookup name).map (·.config) =
      (cs.filter (·.venueName = name)).getLast?.or ((stations.lookup name).map (·.config)) := by
  induction cs generalizing stations with
  | nil =>
    cases h
    rfl
  | cons e r ih =>
    obtain ⟨s, hs, hr⟩ := exists_of_addAll_cons h
    obtain ⟨hconfig, _⟩ := Station.of_eq_ok hs
    rw [ih hr, Table.lookup_insert]
    by_cases he : e.venueName = name
    -- The entry stands for its name until one of the rest takes its place.
    · simp only [he, decide_true, List.filter_cons_of_pos, if_true, Option.map_some, hconfig,
        List.getLast?_cons]
      cases (r.filter (·.venueName = name)).getLast? <;> rfl
    · simp [he, Ne.symm he]

lemma built_addAll (h : addAll stations cs = .ok table)
    (hb : ∀ name s, stations.lookup name = some s → Station.of s.config = .ok s) :
    ∀ name s, table.lookup name = some s → Station.of s.config = .ok s := by
  induction cs generalizing stations with
  | nil =>
    cases h
    exact hb
  | cons e r ih =>
    obtain ⟨s, hs, hr⟩ := exists_of_addAll_cons h
    obtain ⟨hconfig, _⟩ := Station.of_eq_ok hs
    refine ih hr fun name s' hfind => ?_
    rw [Table.lookup_insert] at hfind
    split at hfind
    · obtain rfl := Option.some.inj hfind
      rw [hconfig, hs]
    · exact hb name s' hfind

lemma names_pairwise_addAll (h : addAll stations cs = .ok table)
    (hs : stations.names.Pairwise (· < ·)) : table.names.Pairwise (· < ·) := by
  induction cs generalizing stations with
  | nil =>
    cases h
    exact hs
  | cons e r ih =>
    obtain ⟨s, _, hr⟩ := exists_of_addAll_cons h
    exact ih hr (Table.names_insert_pairwise hs)

lemma addAll_of_start (h : start c = .ok g) :
    g.global = c.global ∧ addAll [] c.enabled = .ok g.stations := by
  obtain ⟨_, _, h⟩ := bind_eq_ok_iff.mp h
  split at h
  · cases h
  · obtain ⟨stations, hs, h⟩ := bind_eq_ok_iff.mp h
    cases h
    exact ⟨rfl, mapError_eq_ok_iff.mp hs⟩

lemma config_lookup_start (h : start c = .ok g) (name : String) :
    (g.stations.lookup name).map (·.config) =
      (c.enabled.filter (·.venueName = name)).getLast? := by
  obtain ⟨_, hadd⟩ := addAll_of_start h
  rw [config_lookup_addAll hadd name]
  exact Option.or_none

lemma mem_names_start_iff (h : start c = .ok g) :
    name ∈ g.stations.names ↔ name ∈ c.enabled.map (·.venueName) := by
  rw [Table.mem_names_iff, ← Option.isSome_map, config_lookup_start h name, List.getLast?_isSome]
  simp

lemma length_stations_start (h : start c = .ok g) :
    g.stations.length = (c.enabled.map (·.venueName)).dedup.length := by
  obtain ⟨_, hadd⟩ := addAll_of_start h
  have hnodup : g.stations.names.Nodup := (names_pairwise_addAll hadd .nil).imp fun h => ne_of_lt h
  have hperm : g.stations.names.Perm (c.enabled.map (·.venueName)).dedup := by
    rw [List.perm_ext_iff_of_nodup hnodup (List.nodup_dedup _)]
    intro name
    rw [List.mem_dedup, mem_names_start_iff h]
  rw [← hperm.length_eq, Table.names, List.length_map]

lemma entry_of_lookup_start (h : start c = .ok g) (hs : g.stations.lookup name = some s) :
    s.config ∈ c.enabled ∧ s.config.venueName = name ∧ Station.of s.config = .ok s := by
  have hlast := config_lookup_start h name
  rw [hs, Option.map_some] at hlast
  obtain ⟨hmem, hname⟩ := List.mem_filter.mp (List.mem_of_getLast? hlast.symm)
  obtain ⟨_, hadd⟩ := addAll_of_start h
  exact ⟨hmem, of_decide_eq_true hname, built_addAll hadd (fun _ _ hnone => by cases hnone) _ _ hs⟩

lemma lookup_start_of_nodup (h : start c = .ok g) (hn : (c.enabled.map (·.venueName)).Nodup)
    (he : e ∈ c.enabled) : ∃ s, g.stations.lookup e.venueName = some s ∧ s.config = e := by
  have hname := (mem_names_start_iff h).mpr (List.mem_map_of_mem he)
  obtain ⟨s, hs⟩ := Option.isSome_iff_exists.mp (Table.mem_names_iff.mp hname)
  obtain ⟨hmem, hvenue, _⟩ := entry_of_lookup_start h hs
  exact ⟨s, hs, List.inj_on_of_nodup_map hn hmem he hvenue⟩

/-- A gateway that was started has one station for each enabled entry, with all its symbols, exactly
if no two of them name the same venue. Of those that do the last one stays, and it alone. -/
theorem every_entry_kept_iff (c : GatewayConfig) (g : Gateway) (h : start c = .ok g) :
    ((g.stations.length = c.enabled.length ∧ ∀ e ∈ c.enabled,
        ∃ s, g.stations.lookup e.venueName = some s ∧ s.config = e ∧
          ∀ row ∈ e.symbols, s.Serves g.global row) ↔
      (c.enabled.map (·.venueName)).Nodup) ∧
      (∀ name, (g.stations.lookup name).map (·.config) =
        (c.enabled.filter (·.venueName = name)).getLast?) ∧
      ∀ name s, g.stations.lookup name = some s → s.venue.exchange.name = name ∧
        ∀ row ∈ s.config.symbols, s.Serves g.global row := by
  refine ⟨⟨fun ⟨hlength, _⟩ => ?_, fun hn => ⟨?_, fun e he => ?_⟩⟩, config_lookup_start h,
    fun name s hs => ?_⟩
  · have hall : (c.enabled.map (·.venueName)).dedup.length =
        (c.enabled.map (·.venueName)).length := by
      rw [← length_stations_start h, hlength, List.length_map]
    exact List.dedup_eq_self.mp ((List.dedup_sublist _).eq_of_length hall)
  · rw [length_stations_start h, List.dedup_eq_self.mpr hn, List.length_map]
  · obtain ⟨s, hs, rfl⟩ := lookup_start_of_nodup h hn he
    obtain ⟨_, _, hof⟩ := entry_of_lookup_start h hs
    exact ⟨s, hs, rfl, fun row hr => Station.serves_of hof hr⟩
  · obtain ⟨_, hname, hof⟩ := entry_of_lookup_start h hs
    exact ⟨(Station.name_of hof).trans hname, fun row hr => Station.serves_of hof hr⟩

theorem every_entry_kept_on_two_venues :
    let first : ExchangeConfig := ⟨"KuCoin", "KuCoin", true, "http://[::]", "ws://[::]", [], none,
      [⟨"BTC", "USDT", .spot, "BTC-USDT"⟩, ⟨"ETH", "USDT", .spot, "ETH-USDT"⟩], [.book],
      { maxSymbolsPerConnection := some 1, shardConnections := true }⟩
    let second : ExchangeConfig := { first with id := "vertex", books := {} }
    let c : GatewayConfig := ⟨[first, { first with enabled := false }, second], {}⟩
    ∃ g, start c = .ok g ∧ g.stations.length = 2 ∧ ∀ e ∈ c.enabled,
      ∃ s, g.stations.lookup e.venueName = some s ∧ s.config = e ∧
        ∀ row ∈ e.symbols, s.Serves g.global row := by
  intro first second c
  have hstart : (start c).isOk = true := by decide +kernel
  obtain ⟨g, hg⟩ : ∃ g, start c = .ok g := by
    cases hs : start c with
    | error cause => simp [hs, Except.isOk, Except.toBool] at hstart
    | ok g => exact ⟨g, rfl⟩
  have hn : (c.enabled.map (·.venueName)).Nodup := by decide +kernel
  obtain ⟨hlength, hentries⟩ := (every_entry_kept_iff c g hg).1.mpr hn
  exact ⟨g, hg, hlength, hentries⟩

theorem later_entry_replaces_earlier :
    let first : ExchangeConfig := ⟨"kucoin", "KuCoin", true, "http://[::]", "ws://[::]", [], none,
      [⟨"BTC", "USDT", .spot, "BTC-USDT"⟩], [.book], {}⟩
    let second : ExchangeConfig :=
      { first with id := "KuCoin", symbols := [⟨"ETH", "USDT", .spot, "ETH-USDT"⟩] }
    let c : GatewayConfig := ⟨[first, second], {}⟩
    c.validate = .ok () ∧ ∃ g s, start c = .ok g ∧ c.enabled.length = 2 ∧
      g.stations = [("kucoin", s)] ∧ ∀ row ∈ first.symbols, ¬ s.Serves g.global row := by
  intro first second c
  have hvalid : c.validate = .ok () := by decide +kernel
  have hview : (start c).map (fun g => g.stations.map fun e =>
      (e.1, e.2.directory.venueId? "BTC-USDT")) = .ok [("kucoin", none)] := by
    decide +kernel
  cases hg : start c with
  | error cause => cases hg ▸ hview
  | ok g =>
    rw [hg] at hview
    obtain ⟨⟨name, s⟩, hstations, hs⟩ := List.map_eq_singleton_iff.mp (Except.ok.inj hview)
    obtain ⟨rfl, hnone⟩ := Prod.mk.inj hs
    refine ⟨hvalid, g, s, rfl, rfl, hstations, fun row hr hserves => ?_⟩
    obtain rfl := List.mem_singleton.mp hr
    have hknown : s.directory.venueId? "BTC-USDT" = some "BTC-USDT" := hserves.1
    cases hnone.symm.trans hknown

end Gateway

end MarketFeed
