import Mathlib.Data.Multiset.AddSub
import Mathlib.Data.Multiset.Count
import MarketFeed.Proofs.Desk.Turn

namespace MarketFeed

def Operation.answered : Operation → Multiset Fetch
  | .answer f _ _ => {f}
  | _ => 0

namespace Desk

variable {d : Desk} {s : String} {o : Operation} {f : Fetch}

lemma epoch_le_perform (hd : d.Labelled) (s : String) (o : Operation) :
    (d.tracker s).epoch ≤ ((d.perform o).desk.tracker s).epoch := by
  cases turn hd s o with
  | still _ _ hn => rw [tracker, tracker, hn.tracker]
  | ask _ _ _ hn => rw [tracker_eq hn.tracker, Tracker.asking]
  | apply _ _ _ _ _ hn => rw [tracker_eq hn.tracker]
  | gap _ _ _ _ _ _ hn => rw [tracker_eq hn.tracker, Tracker.asking]
  | install _ _ _ hn => rw [tracker_eq hn.tracker]
  | fail _ _ _ hn => rw [tracker_eq hn.tracker]
  | close _ hn =>
    rw [tracker_eq hn.tracker, Tracker.close]
    exact Nat.le_succ _

lemma epoch_le_run (hd : d.Labelled) (s : String) (os : List Operation) :
    (d.tracker s).epoch ≤ ((d.run os).desk.tracker s).epoch := by
  induction os generalizing d with
  | nil => exact Nat.le_refl _
  | cons o r ih => exact Nat.le_trans (epoch_le_perform hd s o) (ih (hd.perform o))

lemma tracker_of_mem_closedBy (hd : d.Labelled) (hc : s ∈ d.closedBy o) :
    (d.perform o).desk.tracker s = (d.tracker s).close := by
  have hne : d.closedBy o ≠ [] := List.ne_nil_of_mem hc
  cases turn hd s o with
  | still h => exact absurd hc h
  | ask ho =>
    rcases ho with rfl | ⟨_, u, time, rfl⟩
    · exact absurd rfl hne
    · exact absurd rfl hne
  | apply ho =>
    subst ho
    exact absurd rfl hne
  | gap ho =>
    subst ho
    exact absurd rfl hne
  | install ho =>
    subst ho
    exact absurd rfl hne
  | fail ho =>
    subst ho
    exact absurd rfl hne
  | close _ hn => exact tracker_eq hn.tracker

lemma fetches_of_mem_closedBy (hc : s ∈ d.closedBy o) : (d.perform o).fetches = [] := by
  cases o with
  | unsubscribe symbol => rfl
  | reset symbols => rfl
  | resetAll => rfl
  | subscribe symbol => cases hc
  | update u time => cases hc
  | answer f result time => cases hc

lemma epoch_of_mem_fetches (hd : d.Labelled) (hf : f ∈ (d.perform o).fetches) :
    f.epoch = (d.tracker f.symbol).epoch := by
  have hm : f ∈ (d.perform o).fetches.filter (·.symbol = f.symbol) :=
    List.mem_filter.mpr ⟨hf, decide_eq_true rfl⟩
  cases turn hd f.symbol o with
  | still _ _ hn => cases hn.fetches ▸ hm
  | ask _ _ _ hn =>
    rw [hn.fetches] at hm
    exact congrArg Fetch.epoch (List.mem_singleton.mp hm)
  | apply _ _ _ _ _ hn => cases hn.fetches ▸ hm
  | gap _ _ _ _ _ _ hn =>
    rw [hn.fetches] at hm
    exact congrArg Fetch.epoch (List.mem_singleton.mp hm)
  | install _ _ _ hn => cases hn.fetches ▸ hm
  | fail _ _ _ hn => cases hn.fetches ▸ hm
  | close _ hn => cases hn.fetches ▸ hm

lemma epoch_le_of_mem_fetches (hd : d.Labelled) {os : List Operation}
    (hf : f ∈ (d.run os).fetches) : f.epoch ≤ ((d.run os).desk.tracker f.symbol).epoch := by
  induction os generalizing d with
  | nil => cases hf
  | cons o r ih =>
    rw [fetches_run_cons, List.mem_append] at hf
    rcases hf with hf | hf
    · rw [epoch_of_mem_fetches hd hf]
      exact epoch_le_run hd f.symbol (o :: r)
    · exact ih (hd.perform o) hf

lemma epoch_lt_of_mem_closedBy (hd : d.Labelled) (hc : s ∈ d.closedBy o) (os : List Operation) :
    (d.tracker s).epoch < (((d.perform o).desk.run os).desk.tracker s).epoch := by
  have hclose : ((d.perform o).desk.tracker s).epoch = (d.tracker s).epoch + 1 :=
    congrArg Tracker.epoch (tracker_of_mem_closedBy hd hc)
  have hrun := epoch_le_run (hd.perform o) s os
  omega

lemma answer_of_epoch_lt (hf : f.epoch < (d.tracker f.symbol).epoch)
    (result : Except FetchError Snapshot) (time : Int64) :
    d.answer f result time = ⟨d, .discarded, [], []⟩ := by
  refine answer_of_not_expects (Bool.eq_false_iff.mpr fun he => ?_) result time
  exact absurd (Tracker.expects_iff.mp he).1 (Nat.ne_of_lt hf)

end Desk

structure Traffic where
  desk : Desk
  pending : Multiset Fetch

namespace Traffic

def start (exchange : Exchange) (maxDepth : Option Nat) : Traffic := ⟨.empty exchange maxDepth, 0⟩

def next (t : Traffic) (o : Operation) : Traffic :=
  ⟨(t.desk.perform o).desk, t.pending - o.answered + (t.desk.perform o).fetches⟩

def run (t : Traffic) (os : List Operation) : Traffic := os.foldl next t

def Allowed (t : Traffic) : List Operation → Prop
  | [] => True
  | o :: r => o.answered ≤ t.pending ∧ (t.next o).Allowed r

variable {t : Traffic} {s : String} {o : Operation} {f : Fetch}

lemma desk_run (t : Traffic) (os : List Operation) : (t.run os).desk = (t.desk.run os).desk := by
  induction os generalizing t with
  | nil => rfl
  | cons o r ih => exact ih (t.next o)

lemma mem_next (hf : f ∈ (t.next o).pending) :
    f ∈ t.pending ∨ f ∈ (t.desk.perform o).fetches := by
  rcases Multiset.mem_add.mp hf with hf | hf
  · exact Or.inl (Multiset.mem_of_le (Multiset.sub_le_self _ _) hf)
  · exact Or.inr hf

lemma mem_run {os : List Operation} (hf : f ∈ (t.run os).pending) :
    f ∈ t.pending ∨ f ∈ (t.desk.run os).fetches := by
  induction os generalizing t with
  | nil => exact Or.inl hf
  | cons o r ih =>
    rw [Desk.fetches_run_cons, List.mem_append]
    rcases ih hf with h | h
    · rcases mem_next h with h | h
      · exact Or.inl h
      · exact Or.inr (Or.inl h)
    · exact Or.inr (Or.inr h)

structure Single (t : Traffic) (s : String) : Prop where
  epoch_le : ∀ f ∈ t.pending, f.symbol = s → f.epoch ≤ (t.desk.tracker s).epoch
  count : t.pending.count ⟨s, (t.desk.tracker s).epoch⟩ = (t.desk.tracker s).fetching.toNat
  awaiting : (t.desk.tracker s).fetching = true → (t.desk.tracker s).phase = .awaiting

lemma single_start (exchange : Exchange) (maxDepth : Option Nat) (s : String) :
    (start exchange maxDepth).Single s := by
  refine ⟨fun f hf => ?_, rfl, fun h => ?_⟩
  · exact absurd hf (Multiset.notMem_zero f)
  · cases h

lemma Single.expects_of_mem (h : t.Single s) (hm : ⟨s, (t.desk.tracker s).epoch⟩ ∈ t.pending) :
    (t.desk.tracker s).expects (t.desk.tracker s).epoch = true := by
  have hc := Multiset.count_pos.mpr hm
  rw [h.count] at hc
  cases hf : (t.desk.tracker s).fetching with
  | false =>
    rw [hf] at hc
    exact absurd hc (Nat.lt_irrefl 0)
  | true => exact Tracker.expects_iff.mpr ⟨rfl, h.awaiting hf, hf⟩

lemma Single.not_fetching (h : t.Single s) (hp : (t.desk.tracker s).phase ≠ .awaiting) :
    (t.desk.tracker s).fetching = false := by
  by_contra hn
  exact hp (h.awaiting (by simpa using hn))

lemma count_next {tr : Option Tracker} {b : Option Book} {es : List BookEvent} {fs : List Fetch}
    (hn : (t.desk.perform o).Leaves s tr b es fs) (epoch : Nat) :
    (t.next o).pending.count ⟨s, epoch⟩ =
      t.pending.count ⟨s, epoch⟩ - o.answered.count ⟨s, epoch⟩ + fs.count ⟨s, epoch⟩ := by
  have hc : (t.desk.perform o).fetches.count ⟨s, epoch⟩ = fs.count ⟨s, epoch⟩ := by
    rw [← hn.fetches, List.count_filter (by simp)]
  rw [next, Multiset.count_add, Multiset.count_sub, Multiset.coe_count, hc]

lemma mem_next_of_leaves {tr : Option Tracker} {b : Option Book} {es : List BookEvent}
    {fs : List Fetch} (hn : (t.desk.perform o).Leaves s tr b es fs)
    (hf : f ∈ (t.next o).pending) (hs : f.symbol = s) : f ∈ t.pending ∨ f ∈ fs := by
  rcases mem_next hf with hf | hf
  · exact Or.inl hf
  · refine Or.inr ?_
    rw [← hn.fetches]
    exact List.mem_filter.mpr ⟨hf, decide_eq_true hs⟩

lemma Single.of_epoch_eq (h : t.Single s) {tr : Option Tracker} {b : Option Book}
    {es : List BookEvent} {fs : List Fetch} (hn : (t.desk.perform o).Leaves s tr b es fs)
    {x : Tracker} (hx : tr.getD (.fresh s) = x) (he : x.epoch = (t.desk.tracker s).epoch)
    (hfs : ∀ f ∈ fs, f.epoch = x.epoch)
    (hc : (t.desk.tracker s).fetching.toNat - o.answered.count ⟨s, x.epoch⟩ +
      fs.count ⟨s, x.epoch⟩ = x.fetching.toNat)
    (ha : x.fetching = true → x.phase = .awaiting) : (t.next o).Single s := by
  have ht : (t.next o).desk.tracker s = x := by
    rw [← hx, ← hn.tracker]
    rfl
  refine ⟨fun f hf hs => ?_, ?_, ?_⟩
  · rw [ht]
    rcases mem_next_of_leaves hn hf hs with hf | hf
    · exact he ▸ h.epoch_le f hf hs
    · exact Nat.le_of_eq (hfs f hf)
  · rw [ht, count_next hn, ← hc, ← h.count, he]
  · rw [ht]
    exact ha

lemma Single.count_answered (h : t.Single s) (ho : o.answered ≤ t.pending)
    (ha : ∀ f result time, o = .answer f result time → f.symbol = s →
      (t.desk.tracker s).expects f.epoch = false) :
    o.answered.count ⟨s, (t.desk.tracker s).epoch⟩ = 0 := by
  cases o with
  | answer f result time =>
    refine Multiset.count_eq_zero.mpr fun hm => ?_
    obtain rfl := Multiset.mem_singleton.mp hm
    -- a pending request of the present epoch is the one that the tracker waits for
    have hp : ⟨s, (t.desk.tracker s).epoch⟩ ∈ t.pending := Multiset.mem_of_le ho hm
    exact Bool.false_ne_true ((ha _ _ _ rfl rfl).symm.trans (h.expects_of_mem hp))
  | _ => rfl

lemma Single.of_close (h : t.Single s) {b : Option Book} {es : List BookEvent}
    (hn : (t.desk.perform o).Leaves s (some (t.desk.tracker s).close) b es []) :
    (t.next o).Single s := by
  have ht : (t.next o).desk.tracker s = (t.desk.tracker s).close := Desk.tracker_eq hn.tracker
  have hle : ∀ f ∈ (t.next o).pending, f.symbol = s → f.epoch ≤ (t.desk.tracker s).epoch := by
    intro f hf hs
    rcases mem_next_of_leaves hn hf hs with hf | hf
    · exact h.epoch_le f hf hs
    · cases hf
  refine ⟨fun f hf hs => ?_, ?_, ?_⟩
  · rw [ht]
    exact Nat.le_succ_of_le (hle f hf hs)
  · rw [ht]
    refine Multiset.count_eq_zero.mpr fun hm => ?_
    exact absurd (hle _ hm rfl) (Nat.not_succ_le_self _)
  · rw [ht]
    exact Bool.noConfusion

lemma Single.next (h : t.Single s) (hd : t.desk.Labelled) (ho : o.answered ≤ t.pending) :
    (t.next o).Single s := by
  have hsym := hd.symbol_tracker s
  have hfetch : (t.desk.tracker s).fetch = ⟨s, (t.desk.tracker s).epoch⟩ := by
    rw [Tracker.fetch, hsym]
  cases Desk.turn hd s o with
  | still _ ha hn =>
    have ht : (t.desk.tracker? s).getD (.fresh s) = t.desk.tracker s := rfl
    refine h.of_epoch_eq hn ht rfl (by simp) ?_ h.awaiting
    rw [h.count_answered ho ha]
    rfl
  | ask ho hw _ hn =>
    have hf : (t.desk.tracker s).fetching = false := by
      by_contra hf
      rw [Bool.not_eq_false] at hf
      exact Bool.false_ne_true ((hw.2 (h.awaiting hf)).symm.trans hf)
    refine h.of_epoch_eq hn rfl rfl (by simp [hfetch, Tracker.asking]) ?_ fun _ => rfl
    rw [hf]
    rcases ho with rfl | ⟨_, u, time, rfl⟩ <;>
      simp [hfetch, Operation.answered, Tracker.asking]
  | apply ho _ hp _ _ hn =>
    subst ho
    refine h.of_epoch_eq hn rfl rfl (by simp) ?_ h.awaiting
    simp [Operation.answered]
  | gap ho _ hp _ _ _ hn =>
    subst ho
    have hf := h.not_fetching (by simp [hp])
    refine h.of_epoch_eq hn rfl rfl (by simp [hfetch, Tracker.asking]) ?_ fun _ => rfl
    simp [hf, hfetch, Operation.answered, Tracker.asking]
  | install ho hs he hn =>
    subst ho hs
    obtain ⟨hep, _, hf⟩ := Tracker.expects_iff.mp he
    refine h.of_epoch_eq hn rfl rfl (by simp) ?_ Bool.noConfusion
    simp [hf, ← hep, Operation.answered]
  | fail ho hs he hn =>
    subst ho hs
    obtain ⟨hep, _, hf⟩ := Tracker.expects_iff.mp he
    refine h.of_epoch_eq hn rfl rfl (by simp) ?_ Bool.noConfusion
    simp [hf, ← hep, Operation.answered]
  | close _ hn => exact h.of_close hn

lemma single_run (h : t.Single s) (hd : t.desk.Labelled) {os : List Operation}
    (ha : t.Allowed os) : (t.run os).Single s := by
  induction os generalizing t with
  | nil => exact h
  | cons o r ih => exact ih (h.next hd ha.1) (hd.perform o) ha.2

instance decidableAllowed (t : Traffic) : (os : List Operation) → Decidable (t.Allowed os)
  | [] => isTrue trivial
  | o :: r => @instDecidableAnd _ _ _ (decidableAllowed (t.next o) r)

/-- The requests of a symbol, after any run in which each is answered at most once: none is of an
epoch to come, and exactly one is of the present epoch while the tracker waits for it. Once a close
has come, what was asked for before changes nothing any more, and what is installed was asked for
since. -/
theorem requests_single_and_fresh (exchange : Exchange) (maxDepth : Option Nat)
    (before : List Operation) (hb : (start exchange maxDepth).Allowed before) (symbol : String) :
    let t := (start exchange maxDepth).run before
    let asked := ((Desk.empty exchange maxDepth).run before).fetches
    (∀ f ∈ t.pending, f.symbol = symbol → f.epoch ≤ (t.desk.tracker symbol).epoch) ∧
      t.pending.count ⟨symbol, (t.desk.tracker symbol).epoch⟩ =
        (if (t.desk.tracker symbol).fetching = true then 1 else 0) ∧
      ((t.desk.tracker symbol).fetching = true → t.desk.phase symbol = .awaiting) ∧
      ∀ o after, symbol ∈ t.desk.closedBy o →
        let t' := (t.next o).run after
        (∀ f ∈ asked, f.symbol = symbol → ∀ result time,
          t'.desk.answer f result time = ⟨t'.desk, .discarded, [], []⟩) ∧
        ∀ f ∈ t'.pending, f.symbol = symbol → ∀ snapshot time,
          (t'.desk.answer f (.ok snapshot) time).result = .installed →
            f ∉ asked ∧ f ∈ ((t.next o).desk.run after).fetches := by
  intro t asked
  have hl : t.desk.Labelled := by
    rw [desk_run]
    exact Desk.labelled_reached exchange maxDepth before
  have h : t.Single symbol :=
    single_run (single_start exchange maxDepth symbol) (Desk.labelled_empty exchange maxDepth) hb
  refine ⟨h.epoch_le, ?_, h.awaiting, fun o after hc => ?_⟩
  · rw [h.count]
    cases (t.desk.tracker symbol).fetching <;> rfl
  · intro t'
    have hdesk : t'.desk = ((t.next o).desk.run after).desk := desk_run (t.next o) after
    have hnew : (t.desk.tracker symbol).epoch < (t'.desk.tracker symbol).epoch := by
      rw [hdesk]
      exact Desk.epoch_lt_of_mem_closedBy hl hc after
    have hold : ∀ f, f.symbol = symbol → f.epoch ≤ (t.desk.tracker symbol).epoch →
        ∀ result time, t'.desk.answer f result time = ⟨t'.desk, .discarded, [], []⟩ := by
      rintro f rfl hf
      exact Desk.answer_of_epoch_lt (Nat.lt_of_le_of_lt hf hnew)
    have hasked : ∀ f ∈ asked, f.symbol = symbol →
        f.epoch ≤ (t.desk.tracker symbol).epoch := by
      rintro f hf rfl
      rw [desk_run]
      exact Desk.epoch_le_of_mem_fetches (Desk.labelled_empty exchange maxDepth) hf
    refine ⟨fun f hf hs => hold f hs (hasked f hf hs), fun f hf hs snapshot time hi => ?_⟩
    have hlate : ¬ f.epoch ≤ (t.desk.tracker symbol).epoch := by
      intro hle
      rw [hold f hs hle] at hi
      cases hi
    refine ⟨fun hm => hlate (hasked f hm hs), ?_⟩
    -- what was pending at the close is too old, and the close itself asks for nothing
    rcases mem_run hf with hm | hm
    · rcases mem_next hm with hm | hm
      · exact absurd (h.epoch_le f hm hs) hlate
      · cases Desk.fetches_of_mem_closedBy hc ▸ hm
    · exact hm

theorem requests_single_and_fresh_across_a_close :
    let s := "BTC-USDT"
    let old : Fetch := ⟨s, 0⟩
    let snapshot : Snapshot := ⟨[⟨.whole 100, .whole 2⟩], [], some 50, none, none⟩
    let before : List Operation := [.subscribe s, .answer old (.error (.network "timeout")) 1,
      .update ⟨s, [], some ⟨7, 9⟩, none, none⟩ 2]
    let t := (start .kucoin none).run before
    let t' := (t.next (.unsubscribe s)).run [.subscribe s]
    (start .kucoin none).Allowed before ∧ t.pending.count old = 1 ∧ t'.pending = {old, ⟨s, 1⟩} ∧
      (∀ result time, t'.desk.answer old result time = ⟨t'.desk, .discarded, [], []⟩) ∧
      (t'.desk.answer ⟨s, 1⟩ (.ok snapshot) 5).result = .installed ∧
      (⟨s, 1⟩ : Fetch) ∈ ((t.next (.unsubscribe s)).desk.run [.subscribe s]).fetches := by
  intro s old snapshot before t t'
  have hb : (start .kucoin none).Allowed before := by decide
  obtain ⟨_, hcount, _, hclose⟩ := requests_single_and_fresh .kucoin none before hb s
  have he : (t.desk.tracker s).epoch = 0 := by decide
  have hf : (t.desk.tracker s).fetching = true := by decide
  rw [he, hf] at hcount
  have hc := hclose (.unsubscribe s) [.subscribe s] (by decide)
  have hi : (t'.desk.answer ⟨s, 1⟩ (.ok snapshot) 5).result = .installed := by decide
  exact ⟨hb, hcount, by decide, hc.1 old (by decide) rfl, hi,
    (hc.2 ⟨s, 1⟩ (by decide) rfl snapshot 5 hi).2⟩

end Traffic

end MarketFeed
