import Mathlib.Data.List.Induction
import Mathlib.Order.Bounds.Basic
import MarketFeed.Proofs.Json.Kept
import MarketFeed.Proofs.Session
import MarketFeed.Proofs.Venue.Overflow

namespace MarketFeed.Connection

variable {c : Connection} {hub : Hub} {script : Script} {outcomes before : List Attempt}
  {o : Attempt} {P : Desk → Prop} {s : String}

def streakFrom (refusals : Nat) (outcomes : List Attempt) : Nat :=
  outcomes.foldl (fun n o => match o with | .refused => n + 1 | .connected _ => 0) refusals

def streak (outcomes : List Attempt) : Nat := streakFrom 0 outcomes

def Exhausted (c : Connection) (outcomes : List Attempt) : Prop :=
  List.replicate (max 1 c.maxAttempts) Attempt.refused <:+ outcomes

def Crashed (c : Connection) (hub : Hub) (outcomes : List Attempt) : Prop :=
  ∃ before script, outcomes = before ++ [.connected script] ∧
    (c.session (c.run hub before).hub script).2 = .crashed

def GivesUpDuly (c : Connection) (p : Progress) (outcomes : List Attempt) : Prop :=
  if p.ended then IsLeast {n | n ≤ outcomes.length ∧ c.Exhausted (outcomes.take n)} p.attempts
  else p.attempts = outcomes.length ∧ ∀ n, ¬ c.Exhausted (outcomes.take n)

lemma streak_concat : streak (outcomes ++ [o]) =
    match o with | .refused => streak outcomes + 1 | .connected _ => 0 := by
  rw [streak, streakFrom, List.foldl_concat]
  rfl

lemma replicate_refused_suffix_iff {m : Nat} :
    List.replicate m Attempt.refused <:+ outcomes ↔ m ≤ streak outcomes := by
  induction outcomes using List.reverseRecOn generalizing m with
  | nil => simp [streak, streakFrom]
  | append_singleton os o ih =>
    cases m with
    | zero => simp
    | succ m =>
      rw [List.replicate_succ', List.suffix_concat_iff, streak_concat]
      cases o with
      | refused => simp [ih]
      | connected script => simp

lemma exhausted_iff : c.Exhausted outcomes ↔ max 1 c.maxAttempts ≤ streak outcomes :=
  replicate_refused_suffix_iff

lemma not_exhausted_nil : ¬ c.Exhausted [] := by
  rw [exhausted_iff]
  exact Nat.not_le_of_lt (Nat.lt_of_lt_of_le Nat.one_pos (Nat.le_max_left 1 _))

lemma not_exhausted_of_connected : ¬ c.Exhausted (before ++ [.connected script]) := by
  rw [exhausted_iff, streak_concat]
  simp

lemma runFrom_append (attempts refusals : Nat) (rest : List Attempt) :
    c.runFrom hub attempts refusals (outcomes ++ rest) =
      if (c.runFrom hub attempts refusals outcomes).ended then
        c.runFrom hub attempts refusals outcomes
      else c.runFrom (c.runFrom hub attempts refusals outcomes).hub (attempts + outcomes.length)
        (streakFrom refusals outcomes) rest := by
  induction outcomes generalizing hub attempts refusals with
  | nil => rfl
  | cons o r ih =>
    have hlength : attempts + (o :: r).length = attempts + 1 + r.length := by
      rw [List.length_cons, Nat.add_assoc, Nat.add_comm 1]
    rw [hlength, List.cons_append]
    cases o with
    | refused =>
      rw [runFrom, runFrom]
      split
      · rfl
      · exact ih _ _
    | connected script =>
      rw [runFrom, runFrom]
      rcases c.session hub script with ⟨s, _ | _⟩
      · exact ih _ _
      · rfl

lemma run_append (rest : List Attempt) : c.run hub (outcomes ++ rest) =
    if (c.run hub outcomes).ended then c.run hub outcomes
    else c.runFrom (c.run hub outcomes).hub outcomes.length (streak outcomes) rest := by
  rw [run, runFrom_append, Nat.zero_add]
  rfl

lemma run_of_ended (h : (c.run hub outcomes).ended = true) (rest : List Attempt) :
    c.run hub (outcomes ++ rest) = c.run hub outcomes := by
  rw [run_append, if_pos h]

lemma run_refused (h : (c.run hub outcomes).ended = false) :
    c.run hub (outcomes ++ [.refused]) = ⟨(c.run hub outcomes).hub, outcomes.length + 1,
      decide (c.maxAttempts ≤ streak outcomes + 1)⟩ := by
  rw [run_append, if_neg (by simp [h]), runFrom]
  split <;> rename_i hn
  · rw [decide_eq_true hn]
  · rw [decide_eq_false hn]
    rfl

lemma run_connected (h : (c.run hub outcomes).ended = false) (script : Script) :
    let s := c.session (c.run hub outcomes).hub script
    (s.2 = .over → c.run hub (outcomes ++ [.connected script]) =
      ⟨s.1.hub.reset c.symbols, outcomes.length + 1, false⟩) ∧
      (s.2 = .crashed → c.run hub (outcomes ++ [.connected script]) =
        ⟨s.1.hub, outcomes.length + 1, true⟩) := by
  intro s
  rw [run_append, if_neg (by simp [h]), runFrom]
  rcases hs : c.session (c.run hub outcomes).hub script with ⟨s', _ | _⟩
  · exact ⟨fun _ => by simp only [s, hs, runFrom], fun h => by simp [s, hs] at h⟩
  · exact ⟨fun h => by simp [s, hs] at h, fun _ => by simp only [s, hs]⟩

lemma ended_of_crashed (h : c.Crashed hub outcomes) : (c.run hub outcomes).ended = true := by
  obtain ⟨before, script, rfl, hs⟩ := h
  cases he : (c.run hub before).ended with
  | true => rw [run_of_ended he, he]
  | false => rw [(run_connected he script).2 hs]

lemma exhausted_refused_iff :
    c.Exhausted (outcomes ++ [.refused]) ↔ c.maxAttempts ≤ streak outcomes + 1 := by
  rw [exhausted_iff, streak_concat]
  exact max_le_iff.trans (and_iff_right (Nat.le_add_left 1 _))

lemma forall_take_concat_iff (Q : List Attempt → Prop) :
    (∀ n, Q ((outcomes ++ [o]).take n)) ↔ (∀ n, Q (outcomes.take n)) ∧ Q (outcomes ++ [o]) := by
  refine ⟨fun h => ⟨fun n => ?_, ?_⟩, fun h n => ?_⟩
  · have hn := h (min n outcomes.length)
    rwa [List.take_append_of_le_length (Nat.min_le_right _ _), ← List.take_eq_take_min] at hn
  · have hn := h (outcomes.length + 1)
    rwa [List.take_of_length_le (by simp)] at hn
  · by_cases hn : n ≤ outcomes.length
    · rw [List.take_append_of_le_length hn]
      exact h.1 n
    · rw [List.take_of_length_le (by simp; omega)]
      exact h.2

structure Stands (c : Connection) (hub : Hub) (outcomes : List Attempt) : Prop where
  going : (c.run hub outcomes).ended = false →
    (c.run hub outcomes).attempts = outcomes.length ∧ ∀ n, ¬ c.Exhausted (outcomes.take n)
  made_le : (c.run hub outcomes).attempts ≤ outcomes.length
  made : c.run hub (outcomes.take (c.run hub outcomes).attempts) = c.run hub outcomes
  before : ∀ n < (c.run hub outcomes).attempts, ¬ c.Exhausted (outcomes.take n)
  last : (c.run hub outcomes).ended = true →
    c.Exhausted (outcomes.take (c.run hub outcomes).attempts) ∨
      c.Crashed hub (outcomes.take (c.run hub outcomes).attempts)

lemma Stands.concat_of_ended (h : c.Stands hub outcomes)
    (he : (c.run hub outcomes).ended = true) (o : Attempt) : c.Stands hub (outcomes ++ [o]) := by
  have hrun : c.run hub (outcomes ++ [o]) = c.run hub outcomes := run_of_ended he [o]
  have htake : ∀ n ≤ (c.run hub outcomes).attempts, (outcomes ++ [o]).take n = outcomes.take n :=
    fun n hn => List.take_append_of_le_length (hn.trans h.made_le)
  refine ⟨fun hgoing => ?_, ?_, ?_, fun n hn => ?_, fun _ => ?_⟩
  · rw [hrun, he] at hgoing
    cases hgoing
  · rw [hrun, List.length_append]
    exact h.made_le.trans (Nat.le_add_right _ _)
  · rw [hrun, htake _ le_rfl]
    exact h.made
  · rw [hrun] at hn
    rw [htake n hn.le]
    exact h.before n hn
  · rw [hrun, htake _ le_rfl]
    exact h.last he

lemma Stands.concat_of_going (h : c.Stands hub outcomes)
    (he : (c.run hub outcomes).ended = false)
    (hmade : (c.run hub (outcomes ++ [o])).attempts = outcomes.length + 1)
    (hgoing : (c.run hub (outcomes ++ [o])).ended = false → ¬ c.Exhausted (outcomes ++ [o]))
    (hlast : (c.run hub (outcomes ++ [o])).ended = true →
      c.Exhausted (outcomes ++ [o]) ∨ c.Crashed hub (outcomes ++ [o])) :
    c.Stands hub (outcomes ++ [o]) := by
  have htake : (outcomes ++ [o]).take (outcomes.length + 1) = outcomes ++ [o] :=
    List.take_of_length_le (by simp)
  have hnone := (h.going he).2
  refine ⟨fun hg => ⟨?_, ?_⟩, ?_, ?_, fun n hn => ?_, fun hended => ?_⟩
  · rw [hmade, List.length_append, List.length_singleton]
  · exact (forall_take_concat_iff (¬ c.Exhausted ·)).mpr ⟨hnone, hgoing hg⟩
  · rw [hmade, List.length_append, List.length_singleton]
  · rw [hmade, htake]
  · rw [hmade] at hn
    rw [List.take_append_of_le_length (Nat.lt_succ_iff.mp hn)]
    exact hnone n
  · rw [hmade, htake]
    exact hlast hended

lemma stands (c : Connection) (hub : Hub) (outcomes : List Attempt) : c.Stands hub outcomes := by
  -- From the end, since it is the last attempts that count.
  induction outcomes using List.reverseRecOn with
  | nil =>
    have hnone : ∀ n, ¬ c.Exhausted (([] : List Attempt).take n) := fun n => by
      rw [List.take_nil]
      exact not_exhausted_nil
    exact ⟨fun _ => ⟨rfl, hnone⟩, le_rfl, rfl, fun n _ => hnone n, fun h => by cases h⟩
  | append_singleton os o ih =>
    cases he : (c.run hub os).ended with
    | true => exact ih.concat_of_ended he o
    | false =>
      cases o with
      | refused =>
        have hrun := run_refused he
        refine ih.concat_of_going he (by rw [hrun]) (fun hg => ?_) fun hended => Or.inl ?_
        · rw [hrun] at hg
          rw [exhausted_refused_iff]
          exact of_decide_eq_false hg
        · rw [hrun] at hended
          rw [exhausted_refused_iff]
          exact of_decide_eq_true hended
      | connected script =>
        obtain ⟨hover, hcrashed⟩ := run_connected he script
        rcases hs : (c.session (c.run hub os).hub script).2 with _ | _
        · refine ih.concat_of_going he (by rw [hover hs]) (fun _ => not_exhausted_of_connected) ?_
          rw [hover hs]
          exact fun h => by cases h
        · exact ih.concat_of_going he (by rw [hcrashed hs]) (fun _ => not_exhausted_of_connected)
            fun _ => Or.inr ⟨os, script, rfl, hs⟩

lemma givesUpDuly_iff : c.GivesUpDuly (c.run hub outcomes) outcomes ↔
    ¬ c.Crashed hub (outcomes.take (c.run hub outcomes).attempts) := by
  have h := stands c hub outcomes
  rw [GivesUpDuly]
  cases he : (c.run hub outcomes).ended with
  | false =>
    have hnot : ¬ c.Crashed hub (outcomes.take (c.run hub outcomes).attempts) := fun hc => by
      have hended := ended_of_crashed hc
      rw [h.made, he] at hended
      cases hended
    exact iff_of_true (h.going he) hnot
  | true =>
    rw [if_pos rfl]
    constructor
    · rintro hleast ⟨before, script, hmade, _⟩
      have hexhausted := hleast.1.2
      rw [hmade] at hexhausted
      exact not_exhausted_of_connected hexhausted
    · intro hnot
      refine ⟨⟨h.made_le, (h.last he).resolve_right hnot⟩, fun n hn => ?_⟩
      by_contra hlt
      exact h.before n (not_le.mp hlt) hn.2

lemma going_before (h : before ++ [o] <+: outcomes.take (c.run hub outcomes).attempts) :
    (c.run hub before).ended = false := by
  rw [← Bool.not_eq_true]
  intro hended
  obtain ⟨rest, hrest⟩ := h
  have hrun : c.run hub outcomes = c.run hub before := by
    rw [← List.take_append_drop (c.run hub outcomes).attempts outcomes, ← hrest,
      List.append_assoc, List.append_assoc]
    exact run_of_ended hended _
  have hlength := congrArg List.length hrest
  have hmade := (stands c hub before).made_le
  rw [hrun] at hlength
  simp only [List.length_append, List.length_singleton, List.length_take] at hlength
  omega

lemma runFrom_invariant (hP : ∀ d o, P d → P (d.perform o).desk) (h : P hub.desk)
    (attempts refusals : Nat) (outcomes : List Attempt) :
    P (c.runFrom hub attempts refusals outcomes).hub.desk := by
  induction outcomes generalizing hub attempts refusals with
  | nil => exact h
  | cons o r ih =>
    cases o with
    | refused =>
      rw [runFrom]
      split
      · exact h
      · exact ih h _ _
    | connected script =>
      have hs := session_invariant (c := c) hP h script
      rw [runFrom]
      rcases hsession : c.session hub script with ⟨s, _ | _⟩
      · rw [hsession] at hs
        exact ih (hP _ (.reset c.symbols) hs) _ _
      · rw [hsession] at hs
        exact hs

lemma not_isOpen_of_going (he : (c.run hub outcomes).ended = false) (hs : s ∈ c.symbols)
    (hc : .connected script ∈ outcomes) : (c.run hub outcomes).hub.desk.isOpen s = false := by
  induction outcomes using List.reverseRecOn with
  | nil => exact absurd hc List.not_mem_nil
  | append_singleton os o ih =>
    have hgoing : (c.run hub os).ended = false := by
      rw [← Bool.not_eq_true]
      intro hended
      rw [run_of_ended hended, hended] at he
      cases he
    cases o with
    | refused =>
      rw [run_refused hgoing]
      exact ih hgoing (by simpa using hc)
    | connected script' =>
      obtain ⟨hover, hcrashed⟩ := run_connected hgoing script'
      rcases hend : (c.session (c.run hub os).hub script').2 with _ | _
      · rw [hover hend]
        exact Desk.not_isOpen_reset hs
      · rw [hcrashed hend] at he
        cases he

lemma exists_refused_of_exhausted (h : c.Exhausted outcomes) :
    ∃ before, outcomes = before ++ [.refused] := by
  induction outcomes using List.reverseRecOn with
  | nil => exact absurd h not_exhausted_nil
  | append_singleton os o _ =>
    cases o with
    | refused => exact ⟨os, rfl⟩
    | connected script => exact absurd h not_exhausted_of_connected

lemma not_isOpen_of_not_crashed
    (hnot : ¬ c.Crashed hub (outcomes.take (c.run hub outcomes).attempts)) (hs : s ∈ c.symbols)
    (hc : .connected script ∈ outcomes.take (c.run hub outcomes).attempts) :
    (c.run hub outcomes).hub.desk.isOpen s = false := by
  have h := stands c hub outcomes
  cases he : (c.run hub outcomes).ended with
  | false => exact not_isOpen_of_going he hs (List.mem_of_mem_take hc)
  | true =>
    obtain ⟨before, hmade⟩ := exists_refused_of_exhausted ((h.last he).resolve_right hnot)
    have hprefix : before ++ [.refused] <+: outcomes.take (c.run hub outcomes).attempts :=
      ⟨[], (List.append_nil _).trans hmade.symm⟩
    have hgoing : (c.run hub before).ended = false := going_before hprefix
    rw [hmade] at hc
    rw [← h.made, hmade, run_refused hgoing]
    exact not_isOpen_of_going hgoing hs (by simpa using hc)

lemma tracked_of_made (hd : hub.desk.Labelled)
    (hmade : before ++ [.connected script] <+: outcomes.take (c.run hub outcomes).attempts)
    (h : c.Subscribes (c.run hub before).hub script s) :
    ((c.run hub outcomes).hub.desk.tracker? s).isSome := by
  have hbefore : (c.run hub before).hub.desk.Labelled :=
    runFrom_invariant (P := Desk.Labelled) (fun d o hd => hd.perform o) hd 0 0 before
  have hsession : (c.session (c.run hub before).hub script).1.hub.desk.Labelled ∧
      ((c.session (c.run hub before).hub script).1.hub.desk.tracker? s).isSome :=
    ⟨session_invariant (P := Desk.Labelled) (fun d o hd => hd.perform o) hbefore script,
      tracked_of_session hbefore h⟩
  have hafter : (c.run hub (before ++ [.connected script])).hub.desk.Labelled ∧
      ((c.run hub (before ++ [.connected script])).hub.desk.tracker? s).isSome := by
    obtain ⟨hover, hcrashed⟩ := run_connected (going_before hmade) script
    rcases hend : (c.session (c.run hub before).hub script).2 with _ | _
    · rw [hover hend]
      exact tracked_invariant _ (.reset c.symbols) hsession
    · rw [hcrashed hend]
      exact hsession
  obtain ⟨rest, hrest⟩ := hmade
  rw [← (stands c hub outcomes).made, ← hrest, run_append]
  split
  · exact hafter.2
  · exact (runFrom_invariant tracked_invariant hafter _ _ rest).2

/-- A connection is given up exactly with the first attempt that makes the last ones, as many as are
allowed and at least one, all refusals, unless a session is ended by a difference that fits no
decimal: this ends the connection at once. After every other session its symbols are closed before
the next attempt, so that they have no book at the end, and those that a session subscribed get none
until they are subscribed again, whatever comes later. -/
theorem given_up_when_exhausted_iff (c : Connection) (exchange : Exchange) (maxDepth : Option Nat)
    (earlier : List Operation) (bus : Bus) (fetches : List Fetch) (outcomes : List Attempt) :
    let hub : Hub := ⟨Desk.reached exchange maxDepth earlier, bus, fetches⟩
    let p := c.run hub outcomes
    let made := outcomes.take p.attempts
    (c.GivesUpDuly p outcomes ↔ ¬ c.Crashed hub made) ∧
      (∀ before script, before ++ [.connected script] <+: made →
        let s := c.session (c.run hub before).hub script
        let next := c.run hub (before ++ [.connected script])
        (s.2 = .over → next = ⟨s.1.hub.reset c.symbols, before.length + 1, false⟩ ∧
          ∀ symbol ∈ c.symbols, next.hub.desk.book? symbol = none) ∧
        (s.2 = .crashed → p = ⟨s.1.hub, before.length + 1, true⟩)) ∧
      (¬ c.Crashed hub made →
        (∀ script, .connected script ∈ made →
          ∀ symbol ∈ c.symbols, p.hub.desk.book? symbol = none) ∧
        ∀ before script symbol, before ++ [.connected script] <+: made →
          c.Subscribes (c.run hub before).hub script symbol →
            ∀ later : List Operation, .subscribe symbol ∉ later →
              let n := p.hub.desk.run later
              n.desk.phase symbol = .closed ∧ n.desk.book? symbol = none ∧
                (∀ e ∈ n.events, e.symbol ≠ symbol) ∧ ∀ f ∈ n.fetches, f.symbol ≠ symbol) := by
  intro hub p made
  have hd : hub.desk.Labelled ∧ ∀ symbol, hub.desk.Agrees symbol :=
    ⟨Desk.labelled_reached exchange maxDepth earlier, Desk.agrees_reached exchange maxDepth earlier⟩
  have hsound : ∀ outcomes, (c.run hub outcomes).hub.desk.Labelled ∧
      ∀ symbol, (c.run hub outcomes).hub.desk.Agrees symbol := fun outcomes =>
    runFrom_invariant (P := fun d => d.Labelled ∧ ∀ symbol, d.Agrees symbol)
      (fun d o h => ⟨h.1.perform o, fun symbol => (h.2 symbol).perform h.1 o⟩) hd 0 0 outcomes
  refine ⟨givesUpDuly_iff, fun before script hmade => ?_, fun hnot => ⟨fun script hc symbol hs => ?_,
    fun before script symbol hmade hsubscribed later hlater => ?_⟩⟩
  · intro s next
    obtain ⟨hover, hcrashed⟩ := run_connected (going_before hmade) script
    refine ⟨fun hend => ⟨hover hend, fun symbol hs => ?_⟩, fun hend => ?_⟩
    · have hclosed : next.hub.desk.isOpen symbol = false := by
        rw [show next = _ from hover hend]
        exact Desk.not_isOpen_reset hs
      exact ((hsound _).2 symbol).book?_eq_none_of_not_isOpen hclosed
    · obtain ⟨rest, hrest⟩ := hmade
      have hended : (c.run hub (before ++ [.connected script])).ended = true := by
        rw [hcrashed hend]
      have hp : c.run hub made = p := (stands c hub outcomes).made
      rw [← hp, ← hrest, run_of_ended hended, hcrashed hend]
  · exact ((hsound outcomes).2 symbol).book?_eq_none_of_not_isOpen
      (not_isOpen_of_not_crashed hnot hs hc)
  · have hmem : .connected script ∈ made :=
      hmade.subset (List.mem_append_right before (List.mem_singleton_self _))
    have hshut : p.hub.desk.Shut symbol :=
      Desk.shut_of_not_isOpen ((hsound outcomes).2 symbol)
        (tracked_of_made hd.1 hmade hsubscribed)
        (not_isOpen_of_not_crashed hnot hsubscribed.2.2 hmem)
    obtain ⟨⟨hphase, hbook⟩, hevents, hfetches⟩ := hshut.run (hsound outcomes).1 hlater
    refine ⟨hphase, hbook, fun e he => ?_, fun f hf => ?_⟩
    · simpa using List.filter_eq_nil_iff.mp hevents e he
    · simpa using List.filter_eq_nil_iff.mp hfetches f hf

theorem given_up_when_exhausted_after_a_session :
    let dir : Directory := ⟨.kucoin, [("BTC-USDT", ⟨.of "BTC" "USDT" .spot, "BTC-USDT"⟩)]⟩
    let c : Connection := ⟨0, none, [.book], ["BTC-USDT"], .kucoin, dir, 2, 0⟩
    let snapshot : Snapshot := ⟨[⟨.whole 100, .whole 2⟩], [], some 5, none, none⟩
    let script : Script :=
      ⟨.ok [], none, [.answered ⟨"BTC-USDT", 0⟩ (.ok snapshot) 1, .disconnected]⟩
    let hub : Hub := ⟨Desk.reached .kucoin none [], ⟨4096, 0, true, []⟩, []⟩
    let outcomes : List Attempt := [.refused, .connected script, .refused, .refused, .refused]
    let p := c.run hub outcomes
    (c.session hub script).1.hub.desk.phase "BTC-USDT" = .live ∧ p.ended = true ∧
      IsLeast {n | n ≤ 5 ∧ c.Exhausted (outcomes.take n)} 4 ∧
        p.hub.desk.book? "BTC-USDT" = none := by
  intro dir c snapshot script hub outcomes p
  obtain ⟨hduly, _, hbooks⟩ := given_up_when_exhausted_iff c .kucoin none [] hub.bus [] outcomes
  have hended : p.ended = true := rfl
  have hattempts : p.attempts = 4 := rfl
  have hnot : ¬ c.Crashed hub (outcomes.take p.attempts) := by
    rintro ⟨before, script', hmade, _⟩
    have hlast := congrArg List.getLast? hmade
    simp [hattempts, outcomes] at hlast
  have hleast : c.GivesUpDuly p outcomes := hduly.mpr hnot
  rw [GivesUpDuly, if_pos hended, hattempts] at hleast
  have hconnected : .connected script ∈ outcomes.take p.attempts := by simp [hattempts, outcomes]
  exact ⟨rfl, hended, hleast, (hbooks hnot).1 script hconnected _ (List.mem_singleton_self _)⟩

theorem given_up_at_once_by_a_balance :
    let dir : Directory := ⟨.kucoin, [("BTC-USDT", ⟨.of "BTC" "USDT" .spot, "BTC-USDT"⟩)]⟩
    let c : Connection := ⟨0, none, [.book, .balances], ["BTC-USDT"], .kucoin, dir, 3, 0⟩
    let snapshot : Snapshot := ⟨[⟨.whole 100, .whole 2⟩], [], some 5, none, none⟩
    let balance : Json := .obj [("data", .obj [("available", .str "-1"), ("currency", .str "a"),
      ("total", .str "79228162514264337593543950335")]), ("topic", .str "/account/balance")]
    let script : Script := ⟨.ok [], none, [.answered ⟨"BTC-USDT", 0⟩ (.ok snapshot) 1,
      .text balance.compact 2, .disconnected]⟩
    let hub : Hub := ⟨Desk.reached .kucoin none [], ⟨4096, 0, true, []⟩, []⟩
    let p := c.run hub [.connected script]
    p.ended = true ∧ p.attempts = 1 ∧ (∀ n, ¬ c.Exhausted ([.connected script].take n)) ∧
      ¬ c.GivesUpDuly p [.connected script] ∧ (p.hub.desk.book? "BTC-USDT").isSome = true := by
  intro dir c snapshot balance script hub p
  have hfits : Json.Fits 0 balance := by
    have hstr : ∀ text level, level ≤ 2 → Json.Fits level (.str text) := fun text level h =>
      Json.fits_str (h.trans (by decide)) text
    simp [balance, Json.fits_obj_iff, hstr, Json.maxDepth]
  have hoverflow : Venue.kucoin.readBalance dir balance 2 = .error .overflow := by
    refine Venue.readBalance_eq_overflow_iff.mpr ⟨rfl, _, rfl, ⟨true, 1, 0, by decide, by decide⟩,
      ⟨false, 79228162514264337593543950335, 0, by decide, by decide⟩, "a", rfl, rfl, rfl, ?_⟩
    rw [Decimal.IsWide]
    decide
  have hframe : ∀ d : Desk, (d.handle c.venue c.directory balance.compact 2).result = .overflow :=
    fun d => Venue.result_handle_eq_overflow_iff.mpr
      ⟨balance, _, Json.ofText?_compact hfits, rfl, rfl, hoverflow⟩
  obtain ⟨t, hbegun, hbook⟩ : ∃ t : Session,
      c.session hub script = c.listen t [.text balance.compact 2, .disconnected] ∧
        (t.hub.desk.book? "BTC-USDT").isSome = true := ⟨_, rfl, rfl⟩
  have hsession : c.session hub script = (t, .crashed) :=
    hbegun.trans (listen_text_of_overflow (hframe _) _)
  have hrun : p = ⟨t.hub, 1, true⟩ := by
    simp only [p, run, runFrom, hsession]
  have hnever : ∀ n, ¬ c.Exhausted ([.connected script].take n) := by
    intro n
    cases n with
    | zero => exact not_exhausted_nil
    | succ n =>
      rw [List.take_succ_cons, List.take_nil, ← List.nil_append [_]]
      exact not_exhausted_of_connected
  refine ⟨by rw [hrun], by rw [hrun], hnever, ?_, by rw [hrun]; exact hbook⟩
  rw [hrun, GivesUpDuly, if_pos rfl]
  exact fun h => hnever 1 h.1.2

end MarketFeed.Connection
