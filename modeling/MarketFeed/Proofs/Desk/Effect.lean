import MarketFeed.Proofs.Book.Quotes
import MarketFeed.Proofs.Desk.Operation
import MarketFeed.Proofs.Table

namespace MarketFeed

lemma toNat_nextSequence_le (c : UInt64) : (nextSequence c).toNat ≤ c.toNat + 1 := by
  rw [nextSequence]
  split
  · exact Nat.le_succ _
  · rw [UInt64.toNat_add]
    exact Nat.mod_le _ _

namespace Tracker

def asking (t : Tracker) (cursor : Option UInt64) : Tracker :=
  { t with phase := .awaiting, cursor, fetching := true }

def Wants (t : Tracker) : Prop := t.phase ≠ .live ∧ (t.phase = .awaiting → t.fetching = false)

lemma subscribe_cases (t : Tracker) :
    t.phase ≠ .idle ∧ t.subscribe = (t, none) ∨
      t.Wants ∧ ∃ cursor, (cursor = none ∨ cursor = t.cursor) ∧
        t.subscribe = (t.asking cursor, some t.fetch) := by
  rw [subscribe, Wants]
  cases hp : t.phase with
  | idle => exact Or.inr ⟨⟨Phase.noConfusion, Phase.noConfusion⟩, none, Or.inl rfl, rfl⟩
  | closed => exact Or.inr ⟨⟨Phase.noConfusion, Phase.noConfusion⟩, none, Or.inl rfl, rfl⟩
  | live => exact Or.inl ⟨by decide, rfl⟩
  | awaiting =>
    cases hf : t.fetching with
    | true => exact Or.inl ⟨by decide, rfl⟩
    | false =>
      refine Or.inr ⟨⟨Phase.noConfusion, fun _ => rfl⟩, t.cursor, Or.inr rfl, ?_⟩
      simp [asking, ← hp]

def Follows (cursor : Option UInt64) (span : Option Span) : Prop :=
  ∀ c ∈ cursor, ∀ r ∈ span, c ≤ r.last ∧ r.first ≤ nextSequence c

lemma updateLive_cases (t : Tracker) (span : Option Span) :
    (∃ c last, t.updateLive span = (t, .stale c last)) ∨
      Follows t.cursor span ∧
        t.updateLive span = ({ t with cursor := (span.map Span.last).or t.cursor }, .apply) ∨
      ∃ c r, t.cursor = some c ∧ span = some r ∧ nextSequence c < r.first ∧
        t.updateLive span = (t.asking none, .gap c r.first t.fetch) := by
  rw [updateLive.eq_def]
  cases span with
  | none => exact Or.inr (Or.inl ⟨by simp [Follows], by simp⟩)
  | some r =>
    cases hc : t.cursor with
    | none => exact Or.inr (Or.inl ⟨by simp [Follows], by simp⟩)
    | some c =>
      by_cases hl : r.last < c
      · exact Or.inl ⟨c, r.last, by simp [hl]⟩
      · by_cases hg : nextSequence c < r.first
        · exact Or.inr (Or.inr ⟨c, r, rfl, rfl, hg, by simp [hl, hg, asking]⟩)
        · refine Or.inr (Or.inl ⟨?_, by simp [hl, hg]⟩)
          simpa [Follows] using ⟨UInt64.not_lt.mp hl, UInt64.not_lt.mp hg⟩

lemma update_cases (t : Tracker) (span : Option Span) :
    (t.phase ≠ .idle ∧ (t.update span = (t, .ignore) ∨ t.update span = (t, .pending) ∨
        ∃ c last, t.update span = (t, .stale c last))) ∨
      (t.phase ≠ .closed ∧ t.Wants ∧
        t.update span = (t.asking t.cursor, .fetch t.fetch)) ∨
      (t.phase = .live ∧ Follows t.cursor span ∧
        t.update span = ({ t with cursor := (span.map Span.last).or t.cursor }, .apply)) ∨
      (t.phase = .live ∧ ∃ c r, t.cursor = some c ∧ span = some r ∧ nextSequence c < r.first ∧
        t.update span = (t.asking none, .gap c r.first t.fetch)) := by
  rw [update, Wants]
  cases hp : t.phase with
  | idle =>
    refine Or.inr (Or.inl ⟨Phase.noConfusion, ⟨Phase.noConfusion, Phase.noConfusion⟩, rfl⟩)
  | closed => exact Or.inl ⟨Phase.noConfusion, Or.inl rfl⟩
  | awaiting =>
    cases hf : t.fetching with
    | true => exact Or.inl ⟨Phase.noConfusion, Or.inr (Or.inl rfl)⟩
    | false =>
      refine Or.inr (Or.inl ⟨Phase.noConfusion, ⟨Phase.noConfusion, fun _ => rfl⟩, ?_⟩)
      simp [asking, ← hp]
  | live =>
    rcases t.updateLive_cases span with h | ⟨hf, h⟩ | h
    · exact Or.inl ⟨Phase.noConfusion, Or.inr (Or.inr h)⟩
    · exact Or.inr (Or.inr (Or.inl ⟨rfl, hf, by simpa [hp] using h⟩))
    · exact Or.inr (Or.inr (Or.inr ⟨rfl, h⟩))

lemma live_of_update_apply {t : Tracker} {span : Option Span} (h : (t.update span).2 = .apply) :
    t.phase = .live := by
  rcases t.update_cases span with ⟨_, he | he | ⟨_, _, he⟩⟩ | ⟨_, _, he⟩ | ⟨hp, _⟩ | ⟨hp, _⟩
  · cases he ▸ h
  · cases he ▸ h
  · cases he ▸ h
  · cases he ▸ h
  · exact hp
  · exact hp

lemma expects_iff {t : Tracker} {epoch : Nat} :
    t.expects epoch = true ↔ epoch = t.epoch ∧ t.phase = .awaiting ∧ t.fetching = true := by
  simp [expects, and_assoc]

end Tracker

namespace Desk

section Lookup

variable (d : Desk) (symbol s : String)

@[simp] lemma tracker?_setTracker (t : Tracker) :
    (d.setTracker symbol t).tracker? s = if s = symbol then some t else d.tracker? s :=
  Table.lookup_insert _ _ _ _

@[simp] lemma book?_setTracker (t : Tracker) : (d.setTracker symbol t).book? s = d.book? s := rfl

@[simp] lemma tracker?_removeBook : (d.removeBook symbol).tracker? s = d.tracker? s := rfl

@[simp] lemma book?_removeBook :
    (d.removeBook symbol).book? s = if s = symbol then none else d.book? s :=
  Table.lookup_erase _ _ _

@[simp] lemma tracker?_setBooks (shelf : Shelf) : (d.setBooks shelf).tracker? s = d.tracker? s :=
  rfl

@[simp] lemma book?_setBooks (shelf : Shelf) : (d.setBooks shelf).book? s = shelf.book? s := rfl

lemma book?_put (shelf : Shelf) (b : Book) :
    (shelf.put symbol b).book? s = if s = symbol then some b else shelf.book? s :=
  Table.lookup_insert _ _ _ _

@[simp] lemma tracker?_close :
    (d.close symbol).tracker? s = if s = symbol then some (d.tracker symbol).close
      else d.tracker? s := by
  simp [close]

@[simp] lemma book?_close :
    (d.close symbol).book? s = if s = symbol then none else d.book? s := by
  simp [close]

variable {d symbol s}

lemma tracker_eq {t : Tracker} (h : d.tracker? s = some t) : d.tracker s = t := by
  simp [tracker, h]

lemma phase_eq_of_tracker? {t : Tracker} (h : d.tracker? s = some t) : d.phase s = t.phase := by
  rw [phase, tracker_eq h]

lemma phase_congr {d' : Desk} (h : d.tracker? s = d'.tracker? s) : d.phase s = d'.phase s := by
  rw [phase, phase, tracker, tracker, h]

lemma tracker?_of_phase_ne (h : (d.tracker s).phase ≠ .idle) :
    d.tracker? s = some (d.tracker s) := by
  cases ht : d.tracker? s with
  | none => simp [tracker, ht, Tracker.fresh] at h
  | some t => rw [tracker_eq ht]

lemma foldl_close {symbols : List String} (hn : symbols.Nodup) (d : Desk) (s : String) :
    (symbols.foldl close d).tracker? s =
        (if s ∈ symbols then some (d.tracker s).close else d.tracker? s) ∧
      (symbols.foldl close d).book? s = if s ∈ symbols then none else d.book? s := by
  induction symbols generalizing d with
  | nil => simp
  | cons n r ih =>
    obtain ⟨hn, hr⟩ := List.nodup_cons.mp hn
    obtain ⟨ht, hb⟩ := ih hr (d.close n)
    rw [List.foldl_cons, ht, hb]
    by_cases hs : s = n
    · subst hs
      simp [hn]
    · simp [hs, tracker]

lemma mem_closedBy_unsubscribe :
    s ∈ d.closedBy (.unsubscribe symbol) ↔ (d.tracker? symbol).isSome = true ∧ s = symbol := by
  change s ∈ (if (d.tracker? symbol).isSome = true then [symbol] else []) ↔ _
  split <;> simp [*]

lemma mem_reset {symbols : List String} : s ∈ (d.reset symbols).2 ↔ s ∈ symbols ∧ d.isOpen s := by
  rw [reset, Table.mem_sortNames, List.mem_filter]

lemma reset_of_mem {symbols : List String} (h : s ∈ (d.reset symbols).2) :
    (d.reset symbols).1.tracker? s = some (d.tracker s).close ∧
      (d.reset symbols).1.book? s = none := by
  obtain ⟨ht, hb⟩ := foldl_close (Table.sortNames_nodup (symbols.filter d.isOpen)) d s
  exact ⟨ht.trans (if_pos h), hb.trans (if_pos h)⟩

lemma reset_of_not_mem {symbols : List String} (h : s ∉ (d.reset symbols).2) :
    (d.reset symbols).1.tracker? s = d.tracker? s ∧
      (d.reset symbols).1.book? s = d.book? s := by
  obtain ⟨ht, hb⟩ := foldl_close (Table.sortNames_nodup (symbols.filter d.isOpen)) d s
  exact ⟨ht.trans (if_neg h), hb.trans (if_neg h)⟩

lemma tracker?_of_live (h : d.phase s = .live) : d.tracker? s = some (d.tracker s) := by
  refine tracker?_of_phase_ne fun hp => ?_
  cases h.symm.trans hp

lemma isOpen_of_live (h : d.phase s = .live) : d.isOpen s = true := by
  have hl : (d.tracker s).phase = .live := h
  rw [isOpen, tracker?_of_live h, Option.any_some, hl]
  rfl

lemma mem_names_of_isOpen (h : d.isOpen s = true) : s ∈ d.trackers.names := by
  rw [Table.mem_names_iff]
  cases ht : d.trackers.lookup s with
  | none => simp [isOpen, tracker?, ht] at h
  | some t => rfl

end Lookup

end Desk

structure Step.Leaves (n : Step Outcome) (s : String) (t : Option Tracker) (b : Option Book)
    (events : List BookEvent) (fetches : List Fetch) : Prop where
  tracker : n.desk.tracker? s = t
  book : n.desk.book? s = b
  events : n.events.filter (·.symbol = s) = events
  fetches : n.fetches.filter (·.symbol = s) = fetches

def Book.deltaEvents (b : Book) (u : Update) (time : Int64) : List BookEvent :=
  if (b.report u.changes).isEmpty then []
  else [(b.apply u time).deltaEvent (b.report u.changes) u.raw]

lemma Book.symbol_of_mem_deltaEvents {b : Book} {u : Update} {time : Int64} {e : BookEvent}
    (h : e ∈ b.deltaEvents u time) : e.symbol = b.symbol := by
  rw [Book.deltaEvents] at h
  split at h
  · exact absurd h List.not_mem_nil
  · rw [List.mem_singleton.mp h]
    exact b.symbol_apply u time

structure Desk.Labelled (d : Desk) : Prop where
  tracker : ∀ {s t}, d.tracker? s = some t → t.symbol = s
  book : ∀ {s b}, d.book? s = some b → b.symbol = s

namespace Desk

variable {d : Desk} {s : String}

lemma Labelled.symbol_tracker (hd : d.Labelled) (s : String) : (d.tracker s).symbol = s := by
  cases ht : d.tracker? s with
  | none => simp [Desk.tracker, ht, Tracker.fresh]
  | some t => rw [tracker_eq ht, hd.tracker ht]

lemma Labelled.symbol_bookOrNew (hd : d.Labelled) (s : String) :
    (d.shelf.bookOrNew s).symbol = s := by
  cases hb : d.shelf.book? s with
  | none => simp [Shelf.bookOrNew, hb, Book.empty]
  | some b => simpa [Shelf.bookOrNew, hb] using hd.book hb

lemma applyUpdate_of_none {u : Update} (hb : d.book? u.symbol = none) (t : Tracker)
    (time : Int64) :
    d.applyUpdate u t time = ⟨d.setTracker u.symbol t.close, .ignored, [], []⟩ := by
  rw [applyUpdate, Shelf.apply]
  rw [book?] at hb
  rw [hb]
  rfl

lemma applyUpdate_of_some {u : Update} {b : Book} (hb : d.book? u.symbol = some b) (t : Tracker)
    (time : Int64) :
    d.applyUpdate u t time =
      ⟨(d.setTracker u.symbol t).setBooks (d.shelf.put u.symbol (b.apply u time)),
        .applied (b.report u.changes).length, b.deltaEvents u time, []⟩ := by
  rw [applyUpdate, Shelf.apply]
  rw [book?] at hb
  rw [hb]
  simp [Book.deltaEvents, book?_put]

inductive Updates (d : Desk) (u : Update) (time : Int64) : Prop
  | pass {result : UpdateOutcome} (hp : (d.tracker u.symbol).phase ≠ .idle)
      (hr : result = .ignored ∨ result = .pending ∨ result = .stale)
      (h : d.update u time = ⟨d.setTracker u.symbol (d.tracker u.symbol), result, [], []⟩)
  | ask (hp : (d.tracker u.symbol).phase ≠ .closed) (hw : (d.tracker u.symbol).Wants)
      (h : d.update u time =
        ⟨d.setTracker u.symbol ((d.tracker u.symbol).asking (d.tracker u.symbol).cursor), .pending,
          [], [(d.tracker u.symbol).fetch]⟩)
  | apply {b : Book} (hp : (d.tracker u.symbol).phase = .live) (hb : d.book? u.symbol = some b)
      (hf : Tracker.Follows (d.tracker u.symbol).cursor u.span)
      (h : d.update u time =
        ⟨(d.setTracker u.symbol { d.tracker u.symbol with
            cursor := (u.span.map Span.last).or (d.tracker u.symbol).cursor }).setBooks
              (d.shelf.put u.symbol (b.apply u time)),
          .applied (b.report u.changes).length, b.deltaEvents u time, []⟩)
  | lose (hp : (d.tracker u.symbol).phase = .live) (hb : d.book? u.symbol = none)
      (h : d.update u time =
        ⟨d.setTracker u.symbol (d.tracker u.symbol).close, .ignored, [], []⟩)
  | gap {c : UInt64} {r : Span} (hp : (d.tracker u.symbol).phase = .live)
      (hc : (d.tracker u.symbol).cursor = some c) (hr : u.span = some r)
      (hg : nextSequence c < r.first)
      (h : d.update u time =
        ⟨(d.setTracker u.symbol ((d.tracker u.symbol).asking none)).removeBook u.symbol, .gap, [],
          [(d.tracker u.symbol).fetch]⟩)

lemma updates (d : Desk) (u : Update) (time : Int64) : d.Updates u time := by
  rcases (d.tracker u.symbol).update_cases u.span with
    ⟨hp, hq⟩ | ⟨hp, hw, he⟩ | ⟨hp, hf, he⟩ | ⟨hp, c, r, hc, hr, hg, he⟩
  · rcases hq with he | he | ⟨c, last, he⟩
    · exact .pass hp (Or.inl rfl) (by rw [update, he])
    · exact .pass hp (Or.inr (Or.inl rfl)) (by rw [update, he])
    · exact .pass hp (Or.inr (Or.inr rfl)) (by rw [update, he])
  · exact .ask hp hw (by rw [update, he])
  · have hu : d.update u time = d.applyUpdate u { d.tracker u.symbol with
        cursor := (u.span.map Span.last).or (d.tracker u.symbol).cursor } time := by
      rw [update, he]
    cases hb : d.book? u.symbol with
    | none => exact .lose hp hb (hu.trans (applyUpdate_of_none hb _ time))
    | some b => exact .apply hp hb hf (hu.trans (applyUpdate_of_some hb _ time))
  · exact .gap hp hc hr hg (by rw [update, he])

lemma answer_of_not_expects {f : Fetch} (h : (d.tracker f.symbol).expects f.epoch = false)
    (result : Except FetchError Snapshot) (time : Int64) :
    d.answer f result time = ⟨d, .discarded, [], []⟩ := by
  rw [answer]
  cases ht : d.tracker? f.symbol with
  | none => rfl
  | some t =>
    rw [tracker_eq ht] at h
    cases result <;> simp [Tracker.loaded, Tracker.failed, h]

lemma tracker?_of_expects {epoch : Nat} (h : (d.tracker s).expects epoch = true) :
    d.tracker? s = some (d.tracker s) := by
  refine tracker?_of_phase_ne fun hp => ?_
  simp [Tracker.expects, hp] at h

lemma answer_ok_of_expects {f : Fetch} (h : (d.tracker f.symbol).expects f.epoch = true)
    (snapshot : Snapshot) (time : Int64) :
    d.answer f (.ok snapshot) time = d.install f snapshot { d.tracker f.symbol with
      fetching := false, phase := .live, cursor := snapshot.sequence } time := by
  rw [answer, tracker?_of_expects h]
  simp [Tracker.loaded, h]

lemma answer_error_of_expects {f : Fetch} (h : (d.tracker f.symbol).expects f.epoch = true)
    (cause : FetchError) (time : Int64) :
    d.answer f (.error cause) time =
      ⟨d.setTracker f.symbol { d.tracker f.symbol with fetching := false },
        .failed cause, [], []⟩ := by
  rw [answer, tracker?_of_expects h]
  simp [Tracker.failed, h]

end Desk

structure Step.Within (n : Step Outcome) (d : Desk) (symbol : String) : Prop where
  tracker : ∀ s, s ≠ symbol → n.desk.tracker? s = d.tracker? s
  book : ∀ s, s ≠ symbol → n.desk.book? s = d.book? s
  events : ∀ e ∈ n.events, e.symbol = symbol
  fetches : ∀ f ∈ n.fetches, f.symbol = symbol

lemma Step.Within.leaves {n : Step Outcome} {d : Desk} {symbol s : String} (h : n.Within d symbol)
    (hs : s ≠ symbol) : n.Leaves s (d.tracker? s) (d.book? s) [] [] := by
  have hne : ∀ name, name = symbol → name ≠ s := fun name h e => hs (e.symm.trans h)
  refine ⟨h.tracker s hs, h.book s hs, ?_, ?_⟩
  · exact List.filter_eq_nil_iff.mpr fun e he => by simpa using hne _ (h.events e he)
  · exact List.filter_eq_nil_iff.mpr fun f hf => by simpa using hne _ (h.fetches f hf)

namespace Desk

variable {d : Desk}

lemma within_subscribe (hd : d.Labelled) (symbol : String) :
    (d.perform (.subscribe symbol)).Within d symbol := by
  have hsym := hd.symbol_tracker symbol
  have hn : d.perform (.subscribe symbol) = ⟨d.setTracker symbol (d.tracker symbol).subscribe.1,
    .done, [], (d.tracker symbol).subscribe.2.toList⟩ := rfl
  rcases (d.tracker symbol).subscribe_cases with ⟨_, he⟩ | ⟨_, cursor, _, he⟩
  · rw [hn, he]
    exact ⟨fun s hs => by simp [hs], fun _ _ => rfl, by simp, by simp⟩
  · rw [hn, he]
    exact ⟨fun s hs => by simp [hs], fun _ _ => rfl, by simp, by simp [Tracker.fetch, hsym]⟩

lemma within_unsubscribe (d : Desk) (symbol : String) :
    (d.perform (.unsubscribe symbol)).Within d symbol := by
  rw [perform, unsubscribe]
  split
  · exact ⟨fun s hs => by simp [hs], fun s hs => by simp [hs], by simp, by simp⟩
  · exact ⟨fun _ _ => rfl, fun _ _ => rfl, by simp, by simp⟩

lemma within_update (hd : d.Labelled) (u : Update) (time : Int64) :
    (d.perform (.update u time)).Within d u.symbol := by
  have hsym := hd.symbol_tracker u.symbol
  rw [perform]
  cases d.updates u time with
  | pass _ _ h =>
    rw [h]
    exact ⟨fun s hs => by simp [Step.map, hs], fun _ _ => rfl, by simp [Step.map],
      by simp [Step.map]⟩
  | ask _ _ h =>
    rw [h]
    exact ⟨fun s hs => by simp [Step.map, hs], fun _ _ => rfl, by simp [Step.map],
      by simp [Step.map, Tracker.fetch, hsym]⟩
  | apply _ hb _ h =>
    rw [h]
    refine ⟨fun s hs => by simp [Step.map, hs], fun s hs => ?_, fun e he => ?_, by simp [Step.map]⟩
    · exact (book?_put u.symbol s d.shelf _).trans (if_neg hs)
    · exact (Book.symbol_of_mem_deltaEvents he).trans (hd.book hb)
  | lose _ _ h =>
    rw [h]
    exact ⟨fun s hs => by simp [Step.map, hs], fun _ _ => rfl, by simp [Step.map],
      by simp [Step.map]⟩
  | gap _ _ _ _ h =>
    rw [h]
    exact ⟨fun s hs => by simp [Step.map, hs], fun s hs => by simp [Step.map, hs],
      by simp [Step.map], by simp [Step.map, Tracker.fetch, hsym]⟩

lemma within_answer (hd : d.Labelled) (f : Fetch) (result : Except FetchError Snapshot)
    (time : Int64) : (d.perform (.answer f result time)).Within d f.symbol := by
  rw [perform]
  cases he : (d.tracker f.symbol).expects f.epoch with
  | false =>
    rw [answer_of_not_expects he]
    exact ⟨fun _ _ => rfl, fun _ _ => rfl, by simp [Step.map], by simp [Step.map]⟩
  | true =>
    cases result with
    | ok snapshot =>
      rw [answer_ok_of_expects he]
      refine ⟨fun s hs => by simp [install, Step.map, hs], fun s hs => ?_, fun e hm => ?_,
        by simp [install, Step.map]⟩
      · exact (book?_put f.symbol s d.shelf _).trans (if_neg hs)
      · have hm : e = ((d.shelf.bookOrNew f.symbol).load snapshot time).snapshotEvent
            snapshot.raw := by
          simpa [install, Step.map, Shelf.load, book?_put] using hm
        rw [hm]
        exact hd.symbol_bookOrNew f.symbol
    | error cause =>
      rw [answer_error_of_expects he]
      exact ⟨fun s hs => by simp [Step.map, hs], fun _ _ => rfl, by simp [Step.map],
        by simp [Step.map]⟩

end Desk

end MarketFeed
