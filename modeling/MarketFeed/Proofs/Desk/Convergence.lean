import Mathlib.Data.List.Intervals
import MarketFeed.Proofs.Desk.Agreement

namespace MarketFeed

structure History where
  base : Quotes
  changes : Nat → List Change

namespace History

variable {h : History}

def quotes (h : History) : Nat → Quotes
  | 0 => h.base
  | n + 1 => (h.quotes n).applyAll (h.changes (n + 1))

def batch (h : History) (first last : Nat) : List Change :=
  (List.Ico first (last + 1)).flatMap h.changes

lemma batch_append {a c b : Nat} (hac : a ≤ c + 1) (hcb : c ≤ b) :
    h.batch a c ++ h.batch (c + 1) b = h.batch a b := by
  rw [batch, batch, batch, ← List.flatMap_append,
    List.Ico.append_consecutive hac (Nat.succ_le_succ hcb)]

lemma applyAll_batch_next {c b : Nat} (hcb : c ≤ b) :
    (h.quotes c).applyAll (h.batch (c + 1) b) = h.quotes b := by
  induction b, hcb using Nat.le_induction with
  | base => rw [batch, List.Ico.self_empty, List.flatMap_nil, Quotes.applyAll_nil]
  | succ b hcb ih =>
    have hb : h.batch (b + 1) (b + 1) = h.changes (b + 1) := by
      rw [batch, List.Ico.succ_singleton, List.flatMap_singleton]
    rw [← batch_append (Nat.succ_le_succ hcb) (Nat.le_succ b), Quotes.applyAll_append, ih, hb,
      quotes]

lemma applyAll_batch {a c b : Nat} (ha : 1 ≤ a) (hac : a ≤ c + 1) (hcb : c ≤ b) :
    (h.quotes c).applyAll (h.batch a b) = h.quotes b := by
  -- up to the present number the batch repeats what was the last to happen
  have hold : (h.quotes c).applyAll (h.batch a c) = h.quotes c := by
    obtain ⟨a, rfl⟩ := Nat.exists_eq_add_of_le' ha
    rw [← applyAll_batch_next (Nat.le_of_succ_le_succ hac), Quotes.applyAll_applyAll]
  rw [← batch_append hac hcb, Quotes.applyAll_append, hold, applyAll_batch_next hcb]

end History

def Snapshot.Lists (s : Snapshot) (q : Quotes) : Prop :=
  ∀ side, (∀ l ∈ s.rows side, q side l.price.units = l.size.units) ∧
    ∀ p, q side p ≠ 0 → ∃ l ∈ s.rows side, l.price.units = p

lemma Book.quotes_load_of_lists {s : Snapshot} {q : Quotes} (hs : s.Lists q) (b : Book)
    (time : Int64) : (b.load s time).quotes = q := by
  funext side p
  obtain ⟨htrue, hall⟩ := hs side
  rw [quotes_load]
  by_cases hp : ∃ l ∈ (s.rows side).filter (!·.isRemoval), l.price.units = p
  · refine Depth.putAll_of_agree hp fun l hl e => ?_
    rw [← htrue l (List.mem_filter.mp hl).1, e]
  · rw [Depth.putAll_of_forall_ne fun l hl e => hp ⟨l, hl, e⟩]
    by_contra hne
    obtain ⟨l, hl, rfl⟩ := hall p (Ne.symm hne)
    have hz : l.isRemoval = false := by
      rw [Level.not_isRemoval_iff, ← htrue l hl]
      exact Ne.symm hne
    exact hp ⟨l, List.mem_filter.mpr ⟨hl, by rw [hz]; rfl⟩, rfl⟩

/-- Updates of the symbol are batches of its history, and snapshots of it are its books. -/
def Operation.Faithful (h : History) (symbol : String) : Operation → Prop
  | .update u _ => u.symbol = symbol → ∃ r, u.span = some r ∧ 1 ≤ r.first ∧ r.first ≤ r.last ∧
      u.changes = h.batch r.first.toNat r.last.toNat
  | .answer f (.ok s) _ => f.symbol = symbol → ∃ n, s.sequence = some n ∧ s.Lists (h.quotes n.toNat)
  | _ => True

namespace Desk

variable {d : Desk} {s : String} {h : History}

def Converged (h : History) (d : Desk) (s : String) : Prop :=
  ∀ b, d.book? s = some b → ∃ c, b.sequence = some c ∧ b.quotes = h.quotes c.toNat

lemma quotes_apply_of_follows {b : Book} {u : Update} {time : Int64} {c : UInt64}
    (hq : b.quotes = h.quotes c.toNat) (hu : (Operation.update u time).Faithful h u.symbol)
    (hc : Tracker.Follows (some c) u.span) :
    ∃ c, (b.apply u time).sequence = some c ∧ (b.apply u time).quotes = h.quotes c.toNat := by
  obtain ⟨r, hr, hone, _, hch⟩ := hu rfl
  obtain ⟨hlast, hfirst⟩ := hc c rfl r hr
  refine ⟨r.last, ?_, ?_⟩
  · rw [Book.sequence_apply, hr]
    rfl
  · have hnext : r.first.toNat ≤ c.toNat + 1 :=
      Nat.le_trans (UInt64.le_iff_toNat_le.mp hfirst) (toNat_nextSequence_le c)
    rw [Book.quotes_apply, hq, hch]
    exact History.applyAll_batch (UInt64.le_iff_toNat_le.mp hone) hnext
      (UInt64.le_iff_toNat_le.mp hlast)

lemma Converged.perform (hv : d.Converged h s) (ha : d.Agrees s) (hd : d.Labelled)
    {o : Operation} (ho : o.Faithful h s) : (d.perform o).desk.Converged h s := by
  intro b hb
  cases turn hd s o with
  | still _ _ hn => exact hv b (hn.book ▸ hb)
  | ask _ _ _ hn => exact hv b (hn.book ▸ hb)
  | apply hu hs _ hold hc hn =>
    subst hu hs
    obtain ⟨c, hseq, hq⟩ := hv _ hold
    rw [ha.cursor, hold, Option.bind_some, hseq] at hc
    obtain rfl := Option.some.inj (hn.book.symm.trans hb)
    exact quotes_apply_of_follows hq ho hc
  | gap _ _ _ _ _ _ hn => cases hn.book.symm.trans hb
  | install hu hs _ hn =>
    subst hu
    obtain ⟨n, hseq, hl⟩ := ho hs
    obtain rfl := Option.some.inj (hn.book.symm.trans hb)
    exact ⟨n, hseq, Book.quotes_load_of_lists hl _ _⟩
  | fail _ _ _ hn => exact hv b (hn.book ▸ hb)
  | close _ hn => cases hn.book.symm.trans hb

/-- Whatever of a venue's history comes, in whatever order and however often: when a symbol has a
book, the book has a cursor and all its levels are the venue's at that cursor. -/
theorem book_converges (exchange : Exchange) (maxDepth : Option Nat) (h : History)
    (symbol : String) (os : List Operation) (ho : ∀ o ∈ os, o.Faithful h symbol) (b : Book)
    (hb : (reached exchange maxDepth os).book? symbol = some b) :
    ∃ c, b.sequence = some c ∧ b.quotes = h.quotes c.toNat := by
  have hall : (reached exchange maxDepth os).Labelled ∧
      (reached exchange maxDepth os).Agrees symbol ∧
        (reached exchange maxDepth os).Converged h symbol := by
    refine run_invariant (P := fun d => d.Labelled ∧ d.Agrees symbol ∧ d.Converged h symbol)
      ⟨labelled_empty _ _, agrees_empty _ _ _, fun b hb => ?_⟩ fun d o hm hd => ?_
    · cases hb
    · obtain ⟨hd, ha, hv⟩ := hd
      exact ⟨hd.perform o, ha.perform hd o, hv.perform ha hd (ho o hm)⟩
  exact hall.2.2 b hb

theorem book_converges_over_repeated_updates :
    let s := "BTC-USDT"
    let h : History := ⟨fun _ _ => 0, fun n => [⟨.bid, .whole 100, .whole (.ofNat n)⟩]⟩
    let snapshot : Snapshot := ⟨[⟨.whole 100, .whole 2⟩], [], some 2, none, none⟩
    let update (first last : UInt64) : Update :=
      ⟨s, h.batch first.toNat last.toNat, some ⟨first, last⟩, none, none⟩
    let os : List Operation := [.subscribe s, .answer ⟨s, 0⟩ (.ok snapshot) 1,
      .update (update 1 2) 2, .update (update 2 4) 3, .update (update 3 4) 4,
      .update (update 1 3) 5]
    (∀ o ∈ os, o.Faithful h s) ∧
      ∃ b, (reached .kucoin (some 1) os).book? s = some b ∧ b.sequence = some 4 ∧
        b.quotes = h.quotes 4 := by
  intro s h snapshot update os
  have hlists : snapshot.Lists (h.quotes 2) := by
    intro side
    cases side with
    | bid =>
      refine ⟨fun l hl => ?_, fun p hp => ⟨_, List.mem_singleton_self _, ?_⟩⟩
      · obtain rfl := List.mem_singleton.mp hl
        decide
      · by_contra hne
        simp [h, History.quotes, Quotes.apply, Depth.put, Change.level, Ne.symm hne] at hp
    | ask => exact ⟨fun l hl => absurd hl List.not_mem_nil, fun p hp => absurd rfl hp⟩
  have hupdate : ∀ first last time, 1 ≤ first → first ≤ last →
      (Operation.update (update first last) time).Faithful h s :=
    fun first last _ hf hl _ => ⟨⟨first, last⟩, rfl, hf, hl, rfl⟩
  have ho : ∀ o ∈ os, o.Faithful h s := by
    simp only [os, List.forall_mem_cons]
    exact ⟨trivial, fun _ => ⟨2, rfl, hlists⟩, hupdate 1 2 2 (by decide) (by decide),
      hupdate 2 4 3 (by decide) (by decide), hupdate 3 4 4 (by decide) (by decide),
      hupdate 1 3 5 (by decide) (by decide), by simp⟩
  obtain ⟨b, hb⟩ := Option.isSome_iff_exists.mp
    (show ((reached .kucoin (some 1) os).book? s).isSome = true by decide)
  obtain ⟨c, hseq, hq⟩ := book_converges .kucoin (some 1) h s os ho b hb
  have h4 : ((reached .kucoin (some 1) os).book? s).bind (·.sequence) = some 4 := by decide
  rw [hb, Option.bind_some, hseq] at h4
  obtain rfl := Option.some.inj h4
  exact ⟨ho, b, hb, hseq, hq⟩

end Desk

end MarketFeed
