import MarketFeed.Proofs.Desk.Turn

namespace MarketFeed.Desk

variable {d : Desk} {s : String}

def Shut (d : Desk) (s : String) : Prop := d.phase s = .closed ∧ d.book? s = none

lemma isOpen_iff : d.isOpen s = true ↔ ∃ t, d.tracker? s = some t ∧ t.phase ≠ .closed := by
  rw [isOpen]
  cases d.tracker? s <;> simp

lemma shut_reset_of_mem {symbols : List String} (h : s ∈ (d.reset symbols).2) :
    (d.reset symbols).1.Shut s :=
  ⟨phase_eq_of_tracker? (reset_of_mem h).1, (reset_of_mem h).2⟩

lemma Shut.perform (hs : d.Shut s) (hd : d.Labelled) {o : Operation} (ho : o ≠ .subscribe s) :
    (d.perform o).desk.Shut s ∧ (d.perform o).events.filter (·.symbol = s) = [] ∧
      (d.perform o).fetches.filter (·.symbol = s) = [] := by
  obtain ⟨hclosed, hb⟩ := hs
  have hne : ∀ {p : Phase}, p ≠ .closed → (d.tracker s).phase ≠ p :=
    fun hp h => hp (h.symm.trans hclosed)
  cases turn hd s o with
  | still _ _ h =>
    exact ⟨⟨(phase_congr h.tracker).trans hclosed, h.book.trans hb⟩, h.events, h.fetches⟩
  | ask hask _ _ _ =>
    rcases hask with hask | ⟨hopen, _⟩
    · exact absurd hask ho
    · exact absurd hclosed hopen
  | apply _ _ hp _ _ _ => exact absurd hp (hne (by decide))
  | gap _ _ hp _ _ _ _ => exact absurd hp (hne (by decide))
  -- An answer counts only while its request is open, and a closed symbol has none.
  | install _ _ he _ => exact absurd (Tracker.expects_iff.mp he).2.1 (hne (by decide))
  | fail _ _ he _ => exact absurd (Tracker.expects_iff.mp he).2.1 (hne (by decide))
  | close _ h => exact ⟨⟨phase_eq_of_tracker? h.tracker, h.book⟩, h.events, h.fetches⟩

lemma Shut.run (hs : d.Shut s) (hd : d.Labelled) {os : List Operation} (ho : .subscribe s ∉ os) :
    (d.run os).desk.Shut s ∧ (d.run os).events.filter (·.symbol = s) = [] ∧
      (d.run os).fetches.filter (·.symbol = s) = [] := by
  induction os generalizing d with
  | nil => exact ⟨hs, rfl, rfl⟩
  | cons o r ih =>
    obtain ⟨hne, hr⟩ := not_or.mp (mt List.mem_cons.mpr ho)
    obtain ⟨hs, he, hf⟩ := hs.perform hd (Ne.symm hne)
    obtain ⟨hend, hevents, hfetches⟩ := ih hs (hd.perform o) hr
    refine ⟨hend, ?_, ?_⟩
    · rw [events_run_cons, List.filter_append, he, hevents, List.append_nil]
    · rw [fetches_run_cons, List.filter_append, hf, hfetches, List.append_nil]

end MarketFeed.Desk
