import Mathlib.Data.List.Nodup
import MarketFeed.Config.Validation
import MarketFeed.Proofs.Directory

namespace MarketFeed.Directory

variable {d d' : Directory} {i : Instrument} {symbol venueId : String}
  {entries : List (Instrument × String)}

def insertEach {σ : Type} (put : σ → Instrument → String → Except ListingError σ) (s : σ) :
    List (Instrument × String) → σ × List (Except ListingError Unit)
  | [] => (s, [])
  | (i, v) :: r =>
    match put s i v with
    | .ok next => ((insertEach put next r).1, .ok () :: (insertEach put next r).2)
    | .error e => ((insertEach put s r).1, .error e :: (insertEach put s r).2)

structure Paired where
  exchange : Exchange
  listings : Table Listing
  symbols : Table String

def Paired.empty (exchange : Exchange) : Paired := ⟨exchange, [], []⟩

def Paired.insert (p : Paired) (i : Instrument) (venueId : String) : Except ListingError Paired :=
  if p.listings.contains i.symbol then .error (.symbolTaken p.exchange i.symbol)
  else if p.symbols.contains venueId then .error (.venueIdTaken p.exchange venueId)
  else .ok { p with
    listings := p.listings.insert i.symbol ⟨i, venueId⟩
    symbols := p.symbols.insert venueId i.symbol }

structure Paired.Shows (p : Paired) (d : Directory) : Prop where
  exchange : p.exchange = d.exchange
  listings : p.listings = d.listings
  symbols : ∀ venueId, p.symbols.lookup venueId = d.symbol? venueId

def Free (d : Directory) (e : Instrument × String) : Prop :=
  e.1.symbol ∉ d.symbols ∧ e.2 ∉ d.venueIds

structure Orderly (d : Directory) : Prop where
  sorted : d.symbols.Pairwise (· < ·)
  own : ∀ name l, (name, l) ∈ d.listings → l.instrument.symbol = name
  ids : d.venueIds.Nodup

structure TwoWay (d : Directory) : Prop where
  inverse : ∀ venueId symbol, d.symbol? venueId = some symbol ↔ d.venueId? symbol = some venueId
  known : ∀ symbol, (d.instrument? symbol).isSome = (d.venueId? symbol).isSome
  named : ∀ symbol i, d.instrument? symbol = some i → i.symbol = symbol
  listed : ∀ symbol, symbol ∈ d.symbols ↔ ∃ venueId, d.venueId? symbol = some venueId
  sorted : d.symbols.Pairwise (· < ·)
  ids : d.venueIds.map some = d.symbols.map d.venueId?

lemma Orderly.names_nodup (h : d.Orderly) : d.listings.names.Nodup :=
  h.sorted.imp fun h => ne_of_lt h

lemma symbol?_eq_none_iff : d.symbol? venueId = none ↔ venueId ∉ d.venueIds := by
  simp [symbol?, venueIds]

lemma symbol?_eq_some_iff (h : d.Orderly) :
    d.symbol? venueId = some symbol ↔ ∃ i, (symbol, ⟨i, venueId⟩) ∈ d.listings := by
  rw [symbol?, Option.map_eq_some_iff]
  constructor
  · rintro ⟨⟨name, l⟩, hfound, rfl⟩
    have hid : l.venueId = venueId := by simpa using List.find?_some hfound
    exact ⟨l.instrument, hid ▸ List.mem_of_find?_eq_some hfound⟩
  · rintro ⟨i, hmem⟩
    have hfound : (List.find? (fun e => e.2.venueId == venueId) d.listings).isSome :=
      List.find?_isSome.mpr ⟨_, hmem, beq_self_eq_true venueId⟩
    obtain ⟨e, he⟩ := Option.isSome_iff_exists.mp hfound
    have hid : e.2.venueId = venueId := by simpa using List.find?_some he
    have hsame := List.inj_on_of_nodup_map h.ids (List.mem_of_find?_eq_some he) hmem hid
    exact ⟨e, he, congrArg Prod.fst hsame⟩

lemma venueId?_eq_some_iff (h : d.Orderly) :
    d.venueId? symbol = some venueId ↔ ∃ i, (symbol, ⟨i, venueId⟩) ∈ d.listings := by
  simp only [venueId?, Option.map_eq_some_iff, Table.lookup_eq_some_iff h.names_nodup]
  constructor
  · rintro ⟨l, hl, rfl⟩
    exact ⟨l.instrument, hl⟩
  · rintro ⟨i, hi⟩
    exact ⟨_, hi, rfl⟩

lemma orderly_empty (exchange : Exchange) : (empty exchange).Orderly :=
  ⟨.nil, fun _ _ h => absurd h List.not_mem_nil, List.nodup_nil⟩

lemma venueIds_perm_of_insert (h : d.insert i venueId = .ok d') :
    d'.venueIds.Perm (venueId :: d.venueIds) :=
  (listings_perm_of_insert h).map fun e : String × Listing => e.2.venueId

lemma Orderly.of_insert (hd : d.Orderly) (h : d.insert i venueId = .ok d') : d'.Orderly := by
  obtain ⟨_, hid, _⟩ := insert_eq_ok_iff.mp h
  refine ⟨?_, fun name l hl => ?_, ?_⟩
  · obtain ⟨_, _, rfl⟩ := insert_eq_ok_iff.mp h
    exact Table.names_insert_pairwise hd.sorted
  · rcases List.mem_cons.mp ((listings_perm_of_insert h).mem_iff.mp hl) with heq | hl
    · cases heq
      rfl
    · exact hd.own name l hl
  · exact (venueIds_perm_of_insert h).nodup_iff.mpr
      (List.nodup_cons.mpr ⟨symbol?_eq_none_iff.mp hid, hd.ids⟩)

lemma Orderly.insertEach (hd : d.Orderly) : (insertEach insert d entries).1.Orderly := by
  induction entries generalizing d with
  | nil => exact hd
  | cons e r ih =>
    rw [Directory.insertEach]
    split
    · rename_i next hi
      exact ih (hd.of_insert hi)
    · exact ih hd

lemma Orderly.twoWay (hd : d.Orderly) : d.TwoWay := by
  refine ⟨fun v s => ?_, fun s => ?_, fun s i hi => ?_, fun s => mem_symbols_iff, hd.sorted, ?_⟩
  · rw [symbol?_eq_some_iff hd, venueId?_eq_some_iff hd]
  · simp [instrument?, venueId?]
  · obtain ⟨l, hl, rfl⟩ := Option.map_eq_some_iff.mp hi
    exact hd.own s l ((Table.lookup_eq_some_iff hd.names_nodup).mp hl)
  · simp only [venueIds, symbols, Table.names, List.map_map]
    refine List.map_congr_left fun e he => ?_
    exact ((venueId?_eq_some_iff hd).mpr ⟨e.2.instrument, he⟩).symm

lemma length_insertEach :
    (insertEach insert d entries).1.listings.length =
      d.listings.length + (insertEach insert d entries).2.countP (·.isOk) := by
  induction entries generalizing d with
  | nil => rfl
  | cons e r ih =>
    rw [Directory.insertEach]
    split
    · rename_i next hi
      rw [ih, (listings_perm_of_insert hi).length_eq, List.countP_cons_of_pos rfl, List.length_cons]
      omega
    · rw [ih, List.countP_cons_of_neg (by simp [Except.isOk, Except.toBool])]

lemma insertEach_append {σ : Type} {put : σ → Instrument → String → Except ListingError σ} {s : σ}
    (entries' : List (Instrument × String)) :
    insertEach put s (entries ++ entries') =
      ((insertEach put (insertEach put s entries).1 entries').1,
        (insertEach put s entries).2 ++
          (insertEach put (insertEach put s entries).1 entries').2) := by
  induction entries generalizing s with
  | nil => rfl
  | cons e r ih => cases h : put s e.1 e.2 <;> simp [insertEach, h, ih]

lemma exchange_insertEach : (insertEach insert d entries).1.exchange = d.exchange := by
  induction entries generalizing d with
  | nil => rfl
  | cons e r ih =>
    rw [insertEach]
    split
    · rename_i next hi
      obtain ⟨_, _, rfl⟩ := insert_eq_ok_iff.mp hi
      exact ih
    · exact ih

lemma insert_eq_error {cause : ListingError} (h : d.insert i venueId = .error cause) :
    cause = if (d.venueId? i.symbol).isSome then .symbolTaken d.exchange i.symbol
      else .venueIdTaken d.exchange venueId := by
  rw [insert, Table.contains] at h
  rw [venueId?, Option.isSome_map]
  split at h
  · rename_i htaken
    rw [if_pos htaken]
    exact (Except.error.inj h).symm
  · rename_i hfree
    rw [if_neg hfree]
    split at h
    · exact (Except.error.inj h).symm
    · cases h

lemma exists_insert_iff : (∃ next, d.insert i venueId = .ok next) ↔ d.Free (i, venueId) := by
  simp only [Free, insert_eq_ok_iff, ← symbol?_eq_none_iff, mem_symbols_iff, not_exists,
    Option.eq_none_iff_forall_ne_some]
  exact ⟨fun ⟨_, hs, hv, _⟩ => ⟨hs, hv⟩, fun ⟨hs, hv⟩ => ⟨_, hs, hv, rfl⟩⟩

lemma free_iff_of_insert {x : Instrument × String} (h : d.insert i venueId = .ok d') :
    d'.Free x ↔ (i.symbol ≠ x.1.symbol ∧ venueId ≠ x.2) ∧ d.Free x := by
  rw [Free, (symbols_perm_of_insert h).mem_iff, (venueIds_perm_of_insert h).mem_iff, Free,
    List.mem_cons, List.mem_cons]
  grind

lemma symbol?_of_insert (hd : d.Orderly) (h : d.insert i venueId = .ok d') (v : String) :
    d'.symbol? v = if v = venueId then some i.symbol else d.symbol? v := by
  obtain ⟨_, hnone, _⟩ := insert_eq_ok_iff.mp h
  refine Option.ext fun s => ?_
  rw [symbol?_eq_some_iff (hd.of_insert h)]
  simp only [(listings_perm_of_insert h).mem_iff, List.mem_cons, Prod.mk.injEq, Listing.mk.injEq,
    exists_or, ← symbol?_eq_some_iff hd]
  by_cases hv : v = venueId
  · subst hv
    simp [hnone, eq_comm]
  · simp [hv]

lemma exists_insertAll_cons_iff {e : Instrument × String} :
    (∃ d', d.insertAll (e :: entries) = .ok d') ↔
      ∃ next, d.insert e.1 e.2 = .ok next ∧ ∃ d', next.insertAll entries = .ok d' :=
  ⟨fun ⟨d', h⟩ => (exists_of_insertAll_cons h).imp fun _ ⟨hi, hr⟩ => ⟨hi, d', hr⟩,
    fun ⟨next, hi, d', hr⟩ => ⟨d', bind_eq_ok_iff.mpr ⟨next, hi, hr⟩⟩⟩

lemma exists_insertAll_iff : (∃ d', d.insertAll entries = .ok d') ↔
    entries.Pairwise (fun e x => e.1.symbol ≠ x.1.symbol ∧ e.2 ≠ x.2) ∧
      ∀ e ∈ entries, d.Free e := by
  induction entries generalizing d with
  | nil => exact iff_of_true ⟨d, rfl⟩ ⟨.nil, fun e he => absurd he List.not_mem_nil⟩
  | cons e r ih =>
    rw [exists_insertAll_cons_iff, List.pairwise_cons, List.forall_mem_cons]
    constructor
    · rintro ⟨next, hi, hr⟩
      obtain ⟨hr, hfree⟩ := ih.mp hr
      have h := fun x hx => (free_iff_of_insert hi).mp (hfree x hx)
      exact ⟨⟨fun x hx => (h x hx).1, hr⟩, exists_insert_iff.mp ⟨next, hi⟩,
        fun x hx => (h x hx).2⟩
    · rintro ⟨⟨hapart, hr⟩, he, hfree⟩
      obtain ⟨next, hi⟩ := exists_insert_iff.mpr he
      exact ⟨next, hi, ih.mpr ⟨hr, fun x hx =>
        (free_iff_of_insert hi).mpr ⟨hapart x hx, hfree x hx⟩⟩⟩

lemma exists_ofList_iff {exchange : Exchange} : (∃ d, ofList exchange entries = .ok d) ↔
    (entries.map (·.1.symbol)).Nodup ∧ (entries.map (·.2)).Nodup := by
  have hfree : ∀ e ∈ entries, (empty exchange).Free e :=
    fun e _ => ⟨List.not_mem_nil, List.not_mem_nil⟩
  rw [ofList, exists_insertAll_iff, and_iff_left hfree, List.pairwise_and_iff]
  exact and_congr List.pairwise_map.symm List.pairwise_map.symm

namespace Paired

variable {p : Paired}

lemma shows_empty (exchange : Exchange) :
    (empty exchange).Shows (Directory.empty exchange) :=
  ⟨rfl, rfl, fun _ => rfl⟩

lemma Shows.insert_eq (hp : p.Shows d) (i : Instrument) (venueId : String) :
    p.insert i venueId = (d.insert i venueId).map fun next =>
      ⟨next.exchange, next.listings, p.symbols.insert venueId i.symbol⟩ := by
  have htaken : p.symbols.contains venueId = (d.symbol? venueId).isSome := by
    rw [Table.contains, hp.symbols]
  rw [Paired.insert, Directory.insert, hp.exchange, hp.listings, htaken]
  split
  · rfl
  · split <;> rfl

lemma Shows.of_insert (hp : p.Shows d) (hd : d.Orderly) (h : d.insert i venueId = .ok d') :
    Shows ⟨d'.exchange, d'.listings, p.symbols.insert venueId i.symbol⟩ d' := by
  refine ⟨rfl, rfl, fun v => ?_⟩
  rw [Table.lookup_insert, hp.symbols, symbol?_of_insert hd h]

lemma Shows.insertEach (hp : p.Shows d) (hd : d.Orderly) (entries : List (Instrument × String)) :
    (Directory.insertEach insert p entries).1.Shows
        (Directory.insertEach Directory.insert d entries).1 ∧
      (Directory.insertEach insert p entries).2 =
        (Directory.insertEach Directory.insert d entries).2 := by
  induction entries generalizing p d with
  | nil => exact ⟨hp, rfl⟩
  | cons e r ih =>
    have hput := hp.insert_eq e.1 e.2
    cases h : d.insert e.1 e.2 with
    | error cause =>
      rw [h] at hput
      change p.insert e.1 e.2 = .error cause at hput
      simp only [Directory.insertEach, h, hput, ih hp hd, and_self]
    | ok next =>
      have hr := ih (hp.of_insert hd h) (hd.of_insert h)
      simp only [Directory.insertEach, h, hput]
      exact ⟨hr.1, congrArg _ hr.2⟩

end Paired

/-- After any calls to put entries in, symbols and identifiers stand for each other one to one. Each
call that was not refused has added one entry, and one that is refused, because its symbol or else
its identifier is taken, changes nothing. So a table can be put in whole exactly if no name and no
identifier occurs twice. Two tables written side by side, one for each direction, never differ. -/
theorem directory_two_way (exchange : Exchange) (calls : List (Instrument × String)) :
    let d := (insertEach insert (empty exchange) calls).1
    let answers := (insertEach insert (empty exchange) calls).2
    d.TwoWay ∧ d.listings.length = answers.countP (·.isOk) ∧
      d.symbols.length = d.listings.length ∧ d.venueIds.length = d.listings.length ∧
      (∀ i v, (∃ next, d.insert i v = .ok next) ↔ i.symbol ∉ d.symbols ∧ v ∉ d.venueIds) ∧
      (∀ i v next, d.insert i v = .ok next →
        insertEach insert (empty exchange) (calls ++ [(i, v)]) = (next, answers ++ [.ok ()]) ∧
          (∀ s, next.instrument? s = if s = i.symbol then some i else d.instrument? s) ∧
            (∀ s, next.venueId? s = if s = i.symbol then some v else d.venueId? s) ∧
              ∀ w, next.symbol? w = if w = v then some i.symbol else d.symbol? w) ∧
      (∀ i v cause, d.insert i v = .error cause →
        insertEach insert (empty exchange) (calls ++ [(i, v)]) = (d, answers ++ [.error cause]) ∧
          cause = if (d.venueId? i.symbol).isSome then .symbolTaken exchange i.symbol
            else .venueIdTaken exchange v) ∧
      (∀ entries, (∃ d, ofList exchange entries = .ok d) ↔
        (entries.map (·.1.symbol)).Nodup ∧ (entries.map (·.2)).Nodup) ∧
      (∀ rows : List SymbolConfig,
        (∃ d, ofList exchange (rows.map fun r => (r.instrument, r.venueId)) = .ok d) ↔
          (rows.map fun r => Text.upper r.base ++ "-" ++ Text.upper r.quote ++
            r.kind.ending).Nodup ∧ (rows.map (·.venueId)).Nodup) ∧
      ∃ p, insertEach Paired.insert (.empty exchange) calls = (p, answers) ∧ p.Shows d := by
  intro d answers
  have hd : d.Orderly := (orderly_empty exchange).insertEach
  refine ⟨hd.twoWay, ?_, List.length_map _, List.length_map _, fun i v => exists_insert_iff,
    fun i v next h => ?_, fun i v cause h => ?_, fun entries => exists_ofList_iff, fun rows => ?_,
    ?_⟩
  · rw [length_insertEach]
    exact Nat.zero_add _
  · refine ⟨?_, fun s => ?_, fun s => (venueId?_of_insert h s).2, symbol?_of_insert hd h⟩
    · rw [insertEach_append, insertEach, h]
      rfl
    · obtain ⟨_, _, rfl⟩ := insert_eq_ok_iff.mp h
      rw [instrument?, Table.lookup_insert]
      split <;> rfl
  · refine ⟨?_, ?_⟩
    · rw [insertEach_append, insertEach, h]
      rfl
    · rw [insert_eq_error h, exchange_insertEach]
      rfl
  · rw [exists_ofList_iff, List.map_map, List.map_map]
    rfl
  · have hp := (Paired.shows_empty exchange).insertEach (orderly_empty exchange) calls
    exact ⟨_, Prod.ext rfl hp.2, hp.1⟩

theorem directory_two_way_after_two_refusals :
    let calls : List (Instrument × String) := [(⟨"BTC", "USDT", .perpetual⟩, "1"),
      (⟨"BTC", "USDT-PERP", .spot⟩, "2"), (⟨"ETH", "USDT", .spot⟩, "1"),
      (⟨"ETH", "USDT", .spot⟩, "2")]
    let d := (insertEach insert (empty .kucoin) calls).1
    d.symbol? "2" = some "ETH-USDT" ∧ d.venueId? "ETH-USDT" = some "2" ∧ d.listings.length = 2 ∧
      ∃ cause, d.insert ⟨"BTC", "USDT-PERP", .spot⟩ "1" = .error cause ∧
        cause = .symbolTaken .kucoin "BTC-USDT-PERP" := by
  intro calls d
  obtain ⟨htwo, hlength, _, _, hput, _, hrefused, _⟩ := directory_two_way .kucoin calls
  have hid : d.venueId? "ETH-USDT" = some "2" := rfl
  have htaken : (d.venueId? "BTC-USDT-PERP").isSome = true := rfl
  have hlisted : "BTC-USDT-PERP" ∈ d.symbols :=
    (htwo.listed _).mpr (Option.isSome_iff_exists.mp htaken)
  refine ⟨(htwo.inverse _ _).mpr hid, hid, hlength.trans rfl, ?_⟩
  cases h : d.insert ⟨"BTC", "USDT-PERP", .spot⟩ "1" with
  | error cause => exact ⟨cause, rfl, (hrefused _ _ cause h).2.trans (if_pos htaken)⟩
  | ok next => exact absurd hlisted ((hput _ _).mp ⟨next, h⟩).1

end MarketFeed.Directory
