import MarketFeed.Directory
import MarketFeed.Proofs.Except
import MarketFeed.Proofs.Table

namespace MarketFeed.Directory

variable {d d' : Directory} {entries : List (Instrument × String)} {symbol venueId : String}

lemma mem_symbols_iff : symbol ∈ d.symbols ↔ ∃ venueId, d.venueId? symbol = some venueId := by
  rw [symbols, Table.mem_names_iff, Option.isSome_iff_exists]
  simp only [venueId?, Option.map_eq_some_iff]
  exact ⟨fun ⟨l, hl⟩ => ⟨l.venueId, l, hl, rfl⟩, fun ⟨_, l, hl, _⟩ => ⟨l, hl⟩⟩

lemma resolve_eq_ok_iff : d.resolve venueId = .ok symbol ↔ d.symbol? venueId = some symbol := by
  rw [resolve]
  cases d.symbol? venueId <;> simp

lemma mem_symbols_of_resolve (h : d.resolve venueId = .ok symbol) : symbol ∈ d.symbols := by
  obtain ⟨⟨name, l⟩, hfound, rfl⟩ := Option.map_eq_some_iff.mp (resolve_eq_ok_iff.mp h)
  exact List.mem_map.mpr ⟨(name, l), List.mem_of_find?_eq_some hfound, rfl⟩

lemma exists_instrument (h : d.symbol? venueId = some symbol) :
    ∃ i, d.instrument? symbol = some i := by
  have hs := mem_symbols_of_resolve (resolve_eq_ok_iff.mpr h)
  rw [symbols, Table.mem_names_iff, Option.isSome_iff_exists] at hs
  obtain ⟨l, hl⟩ := hs
  exact ⟨l.instrument, Option.map_eq_some_iff.mpr ⟨l, hl, rfl⟩⟩

lemma insert_eq_ok_iff {i : Instrument} {v : String} : d.insert i v = .ok d' ↔
    d.venueId? i.symbol = none ∧ d.symbol? v = none ∧
      { d with listings := d.listings.insert i.symbol ⟨i, v⟩ } = d' := by
  rw [insert, venueId?, Option.map_eq_none_iff, Table.contains]
  cases d.listings.lookup i.symbol <;> cases d.symbol? v <;> simp

lemma venueId?_of_insert {i : Instrument} {v : String} (h : d.insert i v = .ok d') (s : String) :
    d.venueId? i.symbol = none ∧
      d'.venueId? s = if s = i.symbol then some v else d.venueId? s := by
  obtain ⟨hnone, _, rfl⟩ := insert_eq_ok_iff.mp h
  refine ⟨hnone, ?_⟩
  rw [venueId?, Table.lookup_insert]
  split <;> rfl

lemma exists_of_insertAll_cons {e : Instrument × String} (h : d.insertAll (e :: entries) = .ok d') :
    ∃ next, d.insert e.1 e.2 = .ok next ∧ next.insertAll entries = .ok d' :=
  bind_eq_ok_iff.mp h

lemma venueId?_of_insertAll (h : d.insertAll entries = .ok d') :
    (∀ s v, d.venueId? s = some v → d'.venueId? s = some v) ∧
      ∀ e ∈ entries, d'.venueId? e.1.symbol = some e.2 := by
  induction entries generalizing d with
  | nil =>
    cases h
    exact ⟨fun s v hs => hs, fun e he => absurd he List.not_mem_nil⟩
  | cons e r ih =>
    obtain ⟨next, hi, hr⟩ := exists_of_insertAll_cons h
    obtain ⟨hkeep, hall⟩ := ih hr
    refine ⟨fun s w hs => hkeep s w ?_, List.forall_mem_cons.mpr ⟨hkeep _ _ ?_, hall⟩⟩
    · obtain ⟨hnone, hs'⟩ := venueId?_of_insert hi s
      rw [hs', if_neg, hs]
      rintro rfl
      cases hnone.symm.trans hs
    · rw [(venueId?_of_insert hi e.1.symbol).2, if_pos rfl]

lemma venueId?_of_ofList {exchange : Exchange} (h : ofList exchange entries = .ok d)
    {i : Instrument} (he : (i, venueId) ∈ entries) : d.venueId? i.symbol = some venueId :=
  (venueId?_of_insertAll h).2 (i, venueId) he

lemma listings_perm_of_insert {i : Instrument} (h : d.insert i venueId = .ok d') :
    d'.listings.Perm ((i.symbol, ⟨i, venueId⟩) :: d.listings) := by
  obtain ⟨hnone, _, rfl⟩ := insert_eq_ok_iff.mp h
  refine Table.insert_perm fun hmem => ?_
  obtain ⟨v, hv⟩ := mem_symbols_iff.mp hmem
  cases hnone.symm.trans hv

lemma symbols_perm_of_insert {i : Instrument} (h : d.insert i venueId = .ok d') :
    d'.symbols.Perm (i.symbol :: d.symbols) :=
  (listings_perm_of_insert h).map fun e : String × Listing => e.1

lemma symbols_perm_of_insertAll (h : d.insertAll entries = .ok d') :
    d'.symbols.Perm (entries.map (·.1.symbol) ++ d.symbols) := by
  induction entries generalizing d with
  | nil =>
    cases h
    exact .refl _
  | cons e r ih =>
    obtain ⟨next, hi, hr⟩ := exists_of_insertAll_cons h
    exact (ih hr).trans (((symbols_perm_of_insert hi).append_left _).trans List.perm_middle)

lemma symbols_perm_of_ofList {exchange : Exchange} (h : ofList exchange entries = .ok d) :
    d.symbols.Perm (entries.map (·.1.symbol)) := by
  simpa [symbols, empty, Table.names] using symbols_perm_of_insertAll h

lemma symbols_pairwise_of_insertAll (h : d.insertAll entries = .ok d')
    (hd : d.symbols.Pairwise (· < ·)) : d'.symbols.Pairwise (· < ·) := by
  induction entries generalizing d with
  | nil =>
    cases h
    exact hd
  | cons e r ih =>
    obtain ⟨next, hi, hr⟩ := exists_of_insertAll_cons h
    obtain ⟨_, _, rfl⟩ := insert_eq_ok_iff.mp hi
    exact ih hr (Table.names_insert_pairwise hd)

lemma symbols_nodup_of_ofList {exchange : Exchange} (h : ofList exchange entries = .ok d) :
    d.symbols.Nodup :=
  (symbols_pairwise_of_insertAll h .nil).imp fun h => ne_of_lt h

end MarketFeed.Directory
