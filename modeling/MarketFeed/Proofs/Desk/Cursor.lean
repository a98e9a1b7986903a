import MarketFeed.Proofs.Desk.Mirror

namespace MarketFeed

def InOrder (es : List BookEvent) : Prop :=
  es.Pairwise fun a b => ∀ m ∈ a.sequence, ∀ n ∈ b.sequence, m ≤ n

lemma inOrder_append {es fs : List BookEvent} :
    InOrder (es ++ fs) ↔ InOrder es ∧ InOrder fs ∧
      ∀ a ∈ es, ∀ b ∈ fs, ∀ m ∈ a.sequence, ∀ n ∈ b.sequence, m ≤ n :=
  List.pairwise_append

lemma inOrder_of_sequence_eq {es : List BookEvent} {c : Option UInt64}
    (h : ∀ e ∈ es, e.sequence = c) : InOrder es := by
  refine List.pairwise_of_forall_mem_list fun a ha b hb m hm n hn => ?_
  rw [h a ha] at hm
  rw [h b hb] at hn
  rw [Option.mem_unique hm hn]
  exact UInt64.le_refl n

namespace Tracker

variable {t : Tracker} {span : Option Span} {r : Span} {c : UInt64}

lemma update_of_follows (hp : t.phase = .live) (hf : Follows t.cursor span) :
    t.update span = ({ t with cursor := (span.map Span.last).or t.cursor }, .apply) := by
  rw [update, hp]
  cases span with
  | none => simp [updateLive, ← hp]
  | some r =>
    cases hc : t.cursor with
    | none => simp [updateLive, hc, hp]
    | some c =>
      obtain ⟨hl, hg⟩ := hf c hc r rfl
      simp [updateLive, hc, hp, UInt64.not_lt.mpr hl, UInt64.not_lt.mpr hg]

lemma update_of_behind (hp : t.phase = .live) (hc : t.cursor = some c) (hl : r.last < c) :
    t.update (some r) = (t, .stale c r.last) := by
  rw [update, hp]
  simp [updateLive, hc, hl]

lemma update_of_beyond (hp : t.phase = .live) (hc : t.cursor = some c)
    (hg : nextSequence c < r.first) :
    t.update (some r) = (t, .stale c r.last) ∨
      t.update (some r) = (t.asking none, .gap c r.first t.fetch) := by
  rw [update, hp]
  by_cases hl : r.last < c
  · exact Or.inl (by simp [updateLive, hc, hl])
  · exact Or.inr (by simp [updateLive, hc, hl, hg, asking])

end Tracker

namespace Book

variable {b : Book} {u : Update} {time : Int64} {e : BookEvent}

lemma sequence_of_mem_deltaEvents (h : e ∈ b.deltaEvents u time) :
    e.sequence = (b.apply u time).sequence := by
  rw [deltaEvents] at h
  split at h
  · exact absurd h List.not_mem_nil
  · rw [List.mem_singleton.mp h]
    rfl

end Book

namespace Desk

variable {d : Desk} {s : String} {c : UInt64} {o : Operation} {os : List Operation}

lemma result_update_of_follows {u : Update} {b : Book} (hp : d.phase u.symbol = .live)
    (hf : Tracker.Follows (d.tracker u.symbol).cursor u.span) (hb : d.book? u.symbol = some b)
    (time : Int64) : (d.update u time).result = .applied (b.report u.changes).length := by
  rw [update, Tracker.update_of_follows hp hf]
  change (d.applyUpdate u _ time).result = _
  rw [applyUpdate_of_some hb]

lemma update_of_behind {u : Update} {r : Span} (hp : d.phase u.symbol = .live)
    (hc : (d.tracker u.symbol).cursor = some c) (hr : u.span = some r) (hl : r.last < c)
    (time : Int64) :
    let n := d.update u time
    n.result = .stale ∧ n.events = [] ∧ n.fetches = [] ∧
      ∀ s, n.desk.tracker? s = d.tracker? s ∧ n.desk.book? s = d.book? s := by
  intro n
  have hn : n = ⟨d.setTracker u.symbol (d.tracker u.symbol), .stale, [], []⟩ := by
    change d.update u time = _
    rw [update, hr, Tracker.update_of_behind hp hc hl]
  rw [hn]
  refine ⟨rfl, rfl, rfl, fun s => ⟨?_, rfl⟩⟩
  rw [tracker?_setTracker]
  split
  · rename_i he
    rw [he, tracker?_of_live hp]
  · rfl

lemma result_ne_applied_of_beyond {u : Update} {r : Span} (hp : d.phase u.symbol = .live)
    (hc : (d.tracker u.symbol).cursor = some c) (hr : u.span = some r)
    (hg : c.toNat + 1 < r.first.toNat) (time : Int64) (k : Nat) :
    (d.update u time).result ≠ .applied k := by
  have hn : nextSequence c < r.first :=
    UInt64.lt_iff_toNat_lt.mpr (Nat.lt_of_le_of_lt (toNat_nextSequence_le c) hg)
  rcases Tracker.update_of_beyond (t := d.tracker u.symbol) hp hc hn with he | he
  · rw [update, hr, he]
    exact UpdateOutcome.noConfusion
  · rw [update, hr, he]
    exact UpdateOutcome.noConfusion

lemma sequence_of_mem_events (hd : d.Labelled) {e : BookEvent}
    (ha : (d.perform o).desk.Agrees e.symbol) (he : e ∈ (d.perform o).events) :
    e.sequence = ((d.perform o).desk.tracker e.symbol).cursor := by
  have hm : e ∈ (d.perform o).events.filter (·.symbol = e.symbol) :=
    List.mem_filter.mpr ⟨he, decide_eq_true rfl⟩
  rw [ha.cursor]
  cases turn hd e.symbol o with
  | still _ _ hn => cases hn.events ▸ hm
  | ask _ _ _ hn => cases hn.events ▸ hm
  | apply _ _ _ _ _ hn =>
    rw [hn.events] at hm
    rw [hn.book, Book.sequence_of_mem_deltaEvents hm]
    rfl
  | gap _ _ _ _ _ _ hn => cases hn.events ▸ hm
  | install _ _ _ hn =>
    rw [hn.events] at hm
    rw [hn.book, List.mem_singleton.mp hm]
    rfl
  | fail _ _ _ hn => cases hn.events ▸ hm
  | close _ hn => cases hn.events ▸ hm

lemma live_of_result_ne_gap {u : Update} {time : Int64} (ha : d.Agrees u.symbol)
    (hp : d.phase u.symbol = .live) (hr : (d.update u time).result ≠ .gap) :
    (d.update u time).desk.phase u.symbol = .live := by
  obtain ⟨b, hb, _⟩ := ha.exists_book hp
  cases d.updates u time with
  | pass _ _ h | apply _ _ _ h =>
    rw [h]
    simpa [phase, tracker] using hp
  | ask _ hw _ => exact absurd hp hw.1
  | lose _ hnone _ => cases hnone.symm.trans hb
  | gap _ _ _ _ h => exact absurd (congrArg Step.result h) hr

lemma cuts_of_mem_closedBy (h : s ∈ d.closedBy o) : d.Cuts s o := by
  cases o with
  | unsubscribe symbol =>
    obtain ⟨_, rfl⟩ := mem_closedBy_unsubscribe.mp h
    exact .unsubscribe
  | reset symbols => exact .reset (mem_reset.mp h).1
  | resetAll => exact .resetAll
  | subscribe symbol => cases h
  | update u time => cases h
  | answer f result time => cases h

def Uncut (d : Desk) (s : String) : List Operation → Prop
  | [] => True
  | o :: r => ¬ d.Cuts s o ∧ (d.perform o).desk.Uncut s r

inductive Takes (d : Desk) (s : String) (n : UInt64) : Operation → Prop
  | update {u : Update} {time : Int64} {changes : Nat} {r : Span} (hs : u.symbol = s)
      (ha : (d.update u time).result = .applied changes) (hr : u.span = some r)
      (hf : r.first ≤ n) (hl : n ≤ r.last) : Takes d s n (.update u time)

structure LiveAt (d : Desk) (s : String) (c : UInt64) : Prop where
  live : d.phase s = .live
  cursor : (d.tracker s).cursor = some c

lemma LiveAt.perform (h : d.LiveAt s c) (hd : d.Labelled) (ha : d.Agrees s)
    (hc : ¬ d.Cuts s o) :
    ∃ c', (d.perform o).desk.LiveAt s c' ∧ c ≤ c' ∧ ∀ n, c < n → n ≤ c' → d.Takes s n o := by
  have hsame : (d.perform o).desk.tracker? s = d.tracker? s →
      ∃ c', (d.perform o).desk.LiveAt s c' ∧ c ≤ c' ∧ ∀ n, c < n → n ≤ c' → d.Takes s n o := by
    intro ht
    refine ⟨c, ⟨?_, ?_⟩, UInt64.le_refl c,
      fun n hn hle => absurd hle (UInt64.not_le.mpr hn)⟩
    · rw [phase, tracker, ht]
      exact h.live
    · rw [tracker, ht]
      exact h.cursor
  cases turn hd s o with
  | still _ _ hn => exact hsame hn.tracker
  | ask _ hw => exact absurd h.live hw.1
  | @apply u time b ho hs hp hb hf hn =>
    subst ho hs
    cases hr : u.span with
    | none =>
      refine hsame ?_
      rw [hn.tracker, hr, tracker?_of_live hp]
      rfl
    | some r =>
      obtain ⟨hl, hfirst⟩ := hf c h.cursor r hr
      refine ⟨r.last, ⟨?_, ?_⟩, hl, fun n hcn hle => ?_⟩
      · rw [phase, tracker_eq hn.tracker, hp]
      · rw [tracker_eq hn.tracker, hr]
        rfl
      · refine .update rfl (result_update_of_follows hp hf hb time) hr ?_ hle
        have hnext := toNat_nextSequence_le c
        rw [UInt64.le_iff_toNat_le] at hfirst ⊢
        rw [UInt64.lt_iff_toNat_lt] at hcn
        omega
  | gap ho hs hp _ _ _ hn =>
    subst ho hs
    have hlive := live_of_result_ne_gap ha hp fun hr => hc (.gap rfl hr)
    rw [phase] at hlive
    cases (congrArg Tracker.phase (tracker_eq hn.tracker)).symm.trans hlive
  | install _ _ he =>
    cases h.live.symm.trans (Tracker.expects_iff.mp he).2.1
  | fail _ _ he =>
    cases h.live.symm.trans (Tracker.expects_iff.mp he).2.1
  | close hcl =>
    rcases hcl with hcl | ⟨_, hp, hb⟩
    · exact absurd (cuts_of_mem_closedBy hcl) hc
    · obtain ⟨b, hb', _⟩ := ha.exists_book hp
      cases hb.symm.trans hb'

lemma LiveAt.run (h : d.LiveAt s c) (hd : d.Labelled) (ha : d.Agrees s) (hu : d.Uncut s os) :
    ∃ c', (d.run os).desk.LiveAt s c' ∧ c ≤ c' ∧ ∀ n, c < n → n ≤ c' →
      ∃ before o after, os = before ++ o :: after ∧ (d.run before).desk.Takes s n o := by
  induction os generalizing d c with
  | nil =>
    exact ⟨c, h, UInt64.le_refl c, fun n hn hle => absurd hle (UInt64.not_le.mpr hn)⟩
  | cons o r ih =>
    obtain ⟨c₁, h₁, hle₁, ht₁⟩ := h.perform hd ha hu.1
    obtain ⟨c₂, h₂, hle₂, ht₂⟩ := ih h₁ (hd.perform o) (ha.perform hd o) hu.2
    refine ⟨c₂, h₂, UInt64.le_trans hle₁ hle₂, fun n hn hle => ?_⟩
    by_cases hc : n ≤ c₁
    · exact ⟨[], o, r, rfl, ht₁ n hn hc⟩
    · obtain ⟨before, x, after, hr, hx⟩ := ht₂ n (UInt64.not_le.mp hc) hle
      exact ⟨o :: before, x, after, by rw [hr, List.cons_append], hx⟩

lemma LiveAt.events_run (h : d.LiveAt s c) (hd : d.Labelled) (ha : d.Agrees s)
    (hu : d.Uncut s os) :
    (∀ e ∈ (d.run os).events.filter (·.symbol = s), ∃ n, e.sequence = some n ∧ c ≤ n) ∧
      InOrder ((d.run os).events.filter (·.symbol = s)) := by
  induction os generalizing d c with
  | nil => exact ⟨fun e he => absurd he List.not_mem_nil, .nil⟩
  | cons o r ih =>
    obtain ⟨c₁, h₁, hle, _⟩ := h.perform hd ha hu.1
    obtain ⟨hr, hor⟩ := ih h₁ (hd.perform o) (ha.perform hd o) hu.2
    have ho : ∀ e ∈ (d.perform o).events.filter (·.symbol = s), e.sequence = some c₁ := by
      intro e he
      obtain ⟨hm, hs⟩ := List.mem_filter.mp he
      obtain rfl := of_decide_eq_true hs
      rw [sequence_of_mem_events hd (ha.perform hd o) hm, h₁.cursor]
    rw [events_run_cons, List.filter_append]
    refine ⟨fun e he => ?_, inOrder_append.mpr ⟨inOrder_of_sequence_eq ho, hor, ?_⟩⟩
    · rcases List.mem_append.mp he with he | he
      · exact ⟨c₁, ho e he, hle⟩
      · obtain ⟨n, hn, hc⟩ := hr e he
        exact ⟨n, hn, UInt64.le_trans hle hc⟩
    · intro a ha b hb m hm n hn
      obtain ⟨k, hk, hc⟩ := hr b hb
      rw [ho a ha] at hm
      rw [hk] at hn
      cases hm
      cases hn
      exact hc

lemma expects_of_installed {f : Fetch} {result : Except FetchError Snapshot} {time : Int64}
    (h : (d.answer f result time).result = .installed) :
    (d.tracker f.symbol).expects f.epoch = true := by
  by_contra he
  rw [answer_of_not_expects (Bool.eq_false_iff.mpr he)] at h
  cases h

lemma liveAt_of_installed {f : Fetch} {snapshot : Snapshot} {time : Int64}
    (h : (d.answer f (.ok snapshot) time).result = .installed)
    (hs : snapshot.sequence = some c) :
    (d.answer f (.ok snapshot) time).desk.LiveAt f.symbol c := by
  rw [answer_ok_of_expects (expects_of_installed h)]
  have ht : (d.install f snapshot { d.tracker f.symbol with
      fetching := false, phase := .live, cursor := snapshot.sequence } time).desk.tracker f.symbol =
      { d.tracker f.symbol with
        fetching := false, phase := .live, cursor := snapshot.sequence } :=
    tracker_eq (by simp [install])
  exact ⟨congrArg Tracker.phase ht, (congrArg Tracker.cursor ht).trans hs⟩

/-- From the installation of a snapshot with a sequence number to the next cut, whatever comes: the
cursor of tracker and book starts at the snapshot's number and never falls, each number that it
passes lies in the span of an update that was applied, and every event bears the cursor after its
step. What is behind the cursor changes nothing, and what leaves a gap is never applied. -/
theorem cursor_gapless_between_cuts (exchange : Exchange) (maxDepth : Option Nat)
    (before : List Operation) (f : Fetch) (snapshot : Snapshot) (time : Int64) (start : UInt64)
    (hi : ((reached exchange maxDepth before).answer f (.ok snapshot) time).result = .installed)
    (hs : snapshot.sequence = some start) (during : List Operation)
    (hu : ((reached exchange maxDepth before).answer f (.ok snapshot) time).desk.Uncut
      f.symbol during) :
    let opening := (reached exchange maxDepth before).answer f (.ok snapshot) time
    let d := (opening.desk.run during).desk
    let published := (opening.events ++ (opening.desk.run during).events).filter
      (·.symbol = f.symbol)
    (opening.desk.tracker f.symbol).cursor = some start ∧
      (∀ e ∈ opening.events, e.symbol = f.symbol → e.sequence = some start) ∧
      InOrder published ∧
      ∃ c, start ≤ c ∧ (d.tracker f.symbol).cursor = some c ∧
        (d.book? f.symbol).bind (·.sequence) = some c ∧
        (∀ n, start < n → n ≤ c → ∃ past o rest, during = past ++ o :: rest ∧
          (opening.desk.run past).desk.Takes f.symbol n o) ∧
        (∀ next, d.Uncut f.symbol next →
          ∃ c', ((d.run next).desk.tracker f.symbol).cursor = some c' ∧ c ≤ c') ∧
        (∀ o, ∀ e ∈ (d.perform o).events, e.symbol = f.symbol →
          e.sequence = ((d.perform o).desk.tracker f.symbol).cursor) ∧
        ∀ u time r, u.symbol = f.symbol → u.span = some r →
          (r.last < c →
            let n := d.update u time
            n.result = .stale ∧ n.events = [] ∧ n.fetches = [] ∧
              ∀ s, n.desk.tracker? s = d.tracker? s ∧ n.desk.book? s = d.book? s) ∧
          (c.toNat + 1 < r.first.toNat →
            ∀ changes, (d.update u time).result ≠ .applied changes) := by
  intro opening d published
  have hd : (reached exchange maxDepth before).Labelled := labelled_reached exchange maxDepth before
  have ha : (reached exchange maxDepth before).Agrees f.symbol :=
    agrees_reached exchange maxDepth before f.symbol
  have hdo : opening.desk.Labelled := hd.perform (.answer f (.ok snapshot) time)
  have hao : opening.desk.Agrees f.symbol := ha.perform hd (.answer f (.ok snapshot) time)
  have h : opening.desk.LiveAt f.symbol start := liveAt_of_installed hi hs
  have hfirst : ∀ e ∈ opening.events, e.symbol = f.symbol → e.sequence = some start := by
    intro e he hes
    rw [← h.cursor, ← hes]
    exact sequence_of_mem_events (o := .answer f (.ok snapshot) time) hd (hes ▸ hao) he
  obtain ⟨hlater, horder⟩ := h.events_run hdo hao hu
  obtain ⟨c, hc, hle, htaken⟩ := h.run hdo hao hu
  have hdd : d.Labelled := hdo.run during
  have had : d.Agrees f.symbol := hao.run hdo during
  refine ⟨h.cursor, hfirst, ?_, c, hle, hc.cursor, ?_, htaken, fun next hn => ?_,
    fun o e he hes => ?_, fun u time r hus hr => ⟨fun hl => ?_, fun hg changes => ?_⟩⟩
  · have hopen : ∀ e ∈ opening.events.filter (·.symbol = f.symbol), e.sequence = some start :=
      fun e he => hfirst e (List.mem_filter.mp he).1 (of_decide_eq_true (List.mem_filter.mp he).2)
    change InOrder ((opening.events ++ (opening.desk.run during).events).filter _)
    rw [List.filter_append]
    refine inOrder_append.mpr ⟨inOrder_of_sequence_eq hopen, horder, fun a ha b hb m hm n hn => ?_⟩
    obtain ⟨k, hk, hstart⟩ := hlater b hb
    obtain rfl := Option.some.inj ((hopen a ha).symm.trans hm)
    obtain rfl := Option.some.inj (hk.symm.trans hn)
    exact hstart
  · rw [← had.cursor, hc.cursor]
  · obtain ⟨c', hc', hle', _⟩ := hc.run hdd had hn
    exact ⟨c', hc'.cursor, hle'⟩
  · rw [← hes]
    exact sequence_of_mem_events hdd (hes ▸ had.perform hdd o) he
  · rw [← hus] at hc
    exact update_of_behind hc.live hc.cursor hr hl time
  · rw [← hus] at hc
    exact result_ne_applied_of_beyond hc.live hc.cursor hr hg time changes

theorem cursor_gapless_up_to_the_last_number :
    let s := "BTC-USDT"
    let top : UInt64 := 0xFFFFFFFFFFFFFFFF
    let snapshot : Snapshot := ⟨[⟨.whole 100, .whole 2⟩], [], some (top - 2), none, none⟩
    let update (span : Option Span) : Operation :=
      .update ⟨s, [⟨.bid, .whole 100, .whole 3⟩], span, none, none⟩ 2
    let during := [update (some ⟨top - 3, top - 1⟩), update none, update (some ⟨top, top⟩)]
    let opening := (reached .kucoin none [.subscribe s]).answer ⟨s, 0⟩ (.ok snapshot) 1
    let d := (opening.desk.run during).desk
    opening.result = .installed ∧ opening.desk.Uncut s during ∧
      (d.tracker s).cursor = some top ∧
      (∀ n, top - 2 < n → n ≤ top → ∃ past o rest, during = past ++ o :: rest ∧
        (opening.desk.run past).desk.Takes s n o) ∧
      (d.update ⟨s, [], some ⟨1, top - 1⟩, none, none⟩ 3).result = .stale := by
  intro s top snapshot update during opening d
  have hi : opening.result = .installed := by decide
  have hu : opening.desk.Uncut s during := by
    refine ⟨fun h => ?_, fun h => ?_, fun h => ?_, trivial⟩
    all_goals
      cases h with
      | gap _ hr => exact absurd hr (by decide)
  obtain ⟨_, _, _, c, _, hc, _, htaken, _, _, hother⟩ := cursor_gapless_between_cuts .kucoin none
    [.subscribe s] ⟨s, 0⟩ snapshot 1 (top - 2) hi rfl during hu
  have htop : (d.tracker s).cursor = some top := by decide
  obtain rfl := Option.some.inj (hc.symm.trans htop)
  exact ⟨hi, hu, htop, htaken, ((hother ⟨s, [], some ⟨1, top - 1⟩, none, none⟩ 3 _ rfl rfl).1
    (by decide)).1⟩

end Desk

end MarketFeed
