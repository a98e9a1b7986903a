import Mathlib.Data.List.Forall2
import MarketFeed.Proofs.Bus.Lines

namespace MarketFeed

namespace Delivery

def Covers : Delivery → List FeedEvent → Prop
  | event e, part => part = [e]
  | lagged n, part => part.length = n
  | _, part => part = []

def event? : Delivery → Option FeedEvent
  | event e => some e
  | _ => none

def lostCount : Delivery → Nat
  | lagged n => n
  | _ => 0

def lostIn : List Delivery → Nat
  | [] => 0
  | d :: r => d.lostCount + lostIn r

variable {d : Delivery} {answers : List Delivery} {part : List FeedEvent}
  {parts : List (List FeedEvent)}

lemma Covers.event?_sublist (h : d.Covers part) : d.event?.toList.Sublist part := by
  cases d with
  | event e => exact h ▸ List.Sublist.refl [e]
  | empty => exact List.nil_sublist part
  | lagged n => exact List.nil_sublist part
  | closed => exact List.nil_sublist part

lemma Covers.length_eq (h : d.Covers part) :
    part.length = d.event?.toList.length + d.lostCount := by
  cases d with
  | event e => exact congrArg List.length h
  | empty => exact congrArg List.length h
  | lagged n => exact h.trans (Nat.zero_add n).symm
  | closed => exact congrArg List.length h

lemma filterMap_event?_cons :
    (d :: answers).filterMap event? = d.event?.toList ++ answers.filterMap event? := by
  cases d <;> rfl

lemma received_sublist (h : List.Forall₂ Covers answers parts) :
    (answers.filterMap event?).Sublist parts.flatten := by
  induction h with
  | nil => exact .slnil
  | cons hd _ ih =>
    rw [filterMap_event?_cons, List.flatten_cons]
    exact hd.event?_sublist.append ih

lemma length_flatten (h : List.Forall₂ Covers answers parts) :
    parts.flatten.length = (answers.filterMap event?).length + lostIn answers := by
  induction h with
  | nil => rfl
  | cons hd _ ih =>
    rw [List.flatten_cons, List.length_append, ih, hd.length_eq,
      filterMap_event?_cons, List.length_append, lostIn]
    omega

end Delivery

namespace Bus

def stream (calls : List Call) : List FeedEvent :=
  calls.filterMap fun
    | .publish e => some e
    | _ => none

def told (reader : String) (answers : List (String × Delivery)) : List Delivery :=
  answers.filterMap fun (name, d) => if name = reader then some d else none

namespace Call

def Spares (reader : String) : Call → Prop
  | join name _ => name ≠ reader
  | leave name => name ≠ reader
  | _ => True

def reaches (reader : String) : Call → Bool
  | publish _ => true
  | take name => name = reader
  | _ => false

end Call

end Bus

namespace Inbox

variable {i : Inbox} {room : Nat} {reader : String} {due : List FeedEvent}
  {answers : List Delivery} {calls : List Bus.Call} {c : Bus.Call} {e : FeedEvent}

def heed (i : Inbox) (room : Nat) (reader : String) : Bus.Call → Inbox × Option Delivery
  | .publish e => (i.offer room e, none)
  | .take name => if name = reader then ((i.take true).1, some (i.take true).2) else (i, none)
  | _ => (i, none)

def follow (i : Inbox) (room : Nat) (reader : String) : List Bus.Call → Inbox × List Delivery
  | [] => (i, [])
  | c :: r =>
    let (next, d) := i.heed room reader c
    let (last, rest) := next.follow room reader r
    (last, d.toList ++ rest)

structure Accounts (i : Inbox) (room : Nat) (due : List FeedEvent) (answers : List Delivery) :
    Prop where
  parts : ∃ parts skipped, List.Forall₂ Delivery.Covers answers parts ∧
    skipped.length = i.lost ∧ parts.flatten ++ skipped ++ i.waiting = due
  bounded : i.waiting.length ≤ room
  full : 0 < i.lost → i.waiting.length = room

lemma accounts_fresh (market : Option Market) (room : Nat) : (fresh market).Accounts room [] [] :=
  ⟨⟨[], [], .nil, rfl, rfl⟩, Nat.zero_le room, fun h => absurd h (Nat.lt_irrefl 0)⟩

lemma Accounts.put (h : i.Accounts room due answers) (hroom : 0 < room) (e : FeedEvent) :
    (i.put room e).Accounts room (due ++ [e]) answers := by
  obtain ⟨⟨parts, skipped, hparts, hskipped, hdue⟩, hbounded, hfull⟩ := h
  rw [Inbox.put, List.length_append, List.length_singleton]
  split
  · rename_i hover
    have hlength : i.waiting.length = room := by omega
    cases hw : i.waiting with
    | nil =>
      rw [hw] at hlength
      exact absurd hlength hroom.ne
    | cons oldest rest =>
      rw [hw] at hdue hlength
      have hkept : (rest ++ [e]).length = room := by simpa using hlength
      refine ⟨⟨parts, skipped ++ [oldest], hparts, by simp [hskipped], ?_⟩, hkept.le,
        fun _ => hkept⟩
      simp [← hdue]
  · rename_i hfits
    have hnone : ¬ 0 < i.lost := fun hlost => hfits (by rw [hfull hlost]; exact Nat.lt_succ_self _)
    refine ⟨⟨parts, skipped, hparts, hskipped, ?_⟩, ?_, fun hlost => absurd hlost hnone⟩
    · simp [← hdue]
    · rw [List.length_append]
      exact not_lt.mp hfits

lemma Accounts.offer (h : i.Accounts room due answers) (hroom : 0 < room) (e : FeedEvent) :
    (i.offer room e).Accounts room (due ++ [e].filter i.wants) answers := by
  rw [Inbox.offer]
  split
  · rename_i hwants
    rw [List.filter_cons_of_pos hwants]
    exact h.put hroom e
  · rename_i hwants
    rw [List.filter_cons_of_neg hwants, List.filter_nil, List.append_nil]
    exact h

lemma Accounts.take (h : i.Accounts room due answers) :
    (i.take true).1.Accounts room due (answers ++ [(i.take true).2]) := by
  obtain ⟨⟨parts, skipped, hparts, hskipped, hdue⟩, hbounded, hfull⟩ := h
  have hsnoc : ∀ {d part}, d.Covers part →
      List.Forall₂ Delivery.Covers (answers ++ [d]) (parts ++ [part]) := fun hd =>
    List.rel_append hparts (.cons hd .nil)
  rw [Inbox.take]
  split
  · rename_i hlost
    exact ⟨⟨parts ++ [skipped], [], hsnoc hskipped, rfl, by simpa using hdue⟩, hbounded,
      fun h => absurd h (Nat.lt_irrefl 0)⟩
  · rename_i hlost
    have hnone : skipped = [] := List.length_eq_zero_iff.mp (by omega)
    subst hnone
    cases hw : i.waiting with
    | nil =>
      rw [hw] at hdue
      refine ⟨⟨parts ++ [[]], [], hsnoc rfl, hskipped, ?_⟩, hbounded, hfull⟩
      simpa [hw] using hdue
    | cons e rest =>
      rw [hw] at hdue hbounded
      refine ⟨⟨parts ++ [[e]], [], hsnoc rfl, hskipped, by simpa using hdue⟩,
        (Nat.le_succ _).trans hbounded, fun h => absurd h hlost⟩

lemma Accounts.parts_of_lost_eq_zero (h : i.Accounts room due answers) (hlost : i.lost = 0) :
    ∃ parts, List.Forall₂ Delivery.Covers answers parts ∧ parts.flatten ++ i.waiting = due := by
  obtain ⟨parts, skipped, hparts, hskipped, hdue⟩ := h.parts
  rw [List.length_eq_zero_iff.mp (hskipped.trans hlost), List.append_nil] at hdue
  exact ⟨parts, hparts, hdue⟩

lemma Accounts.take_told (h : i.Accounts room due answers) :
    (∀ n, (i.take true).2 = .lagged n → (i.take true).1.waiting.length = room) ∧
      ((i.take true).2 = .empty → (i.take true).1.waiting = []) ∧ (i.take true).2 ≠ .closed := by
  rw [Inbox.take]
  split
  · rename_i hlost
    simp [h.full hlost]
  · cases hw : i.waiting with
    | nil => simp [hw]
    | cons e rest => simp

lemma lost_take (i : Inbox) (isOpen : Bool) : (i.take isOpen).1.lost = 0 := by
  rw [Inbox.take]
  split
  · rfl
  · cases i.waiting <;> exact Nat.eq_zero_of_not_pos ‹_›

lemma market_put (i : Inbox) (room : Nat) (e : FeedEvent) : (i.put room e).market = i.market := by
  rw [put]
  split <;> rfl

lemma market_take (i : Inbox) (isOpen : Bool) : (i.take isOpen).1.market = i.market := by
  rw [take]
  split
  · rfl
  · cases i.waiting <;> rfl

lemma wants_heed (i : Inbox) (room : Nat) (reader : String) (c : Bus.Call) :
    (i.heed room reader c).1.wants = i.wants := by
  have hmarket : (i.heed room reader c).1.market = i.market := by
    cases c with
    | join => rfl
    | leave => rfl
    | publish e =>
      rw [heed, offer]
      split
      · exact market_put i room e
      · rfl
    | take name =>
      rw [heed]
      split
      · exact market_take i true
      · rfl
  funext e
  rw [wants, hmarket, wants]

lemma Accounts.heed (h : i.Accounts room due answers) (hroom : 0 < room) (reader : String)
    (c : Bus.Call) :
    (i.heed room reader c).1.Accounts room (due ++ (Bus.stream [c]).filter i.wants)
      (answers ++ (i.heed room reader c).2.toList) := by
  cases c with
  | join => simpa [Inbox.heed, Bus.stream] using h
  | leave => simpa [Inbox.heed, Bus.stream] using h
  | publish e => simpa [Inbox.heed, Bus.stream] using h.offer hroom e
  | take name =>
    rw [Inbox.heed]
    split
    · simpa [Bus.stream] using h.take
    · simpa [Bus.stream] using h

lemma Accounts.follow (h : i.Accounts room due answers) (hroom : 0 < room)
    (calls : List Bus.Call) :
    (i.follow room reader calls).1.Accounts room (due ++ (Bus.stream calls).filter i.wants)
      (answers ++ (i.follow room reader calls).2) := by
  induction calls generalizing i due answers with
  | nil => simpa [Inbox.follow, Bus.stream] using h
  | cons c r ih =>
    have hr := ih (h.heed hroom reader c)
    have hstream : Bus.stream (c :: r) = Bus.stream [c] ++ Bus.stream r :=
      List.filterMap_append (l := [c])
    rw [wants_heed, List.append_assoc, List.append_assoc, ← List.filter_append,
      ← hstream] at hr
    exact hr

lemma follow_append (r : List Bus.Call) : i.follow room reader (calls ++ r) =
    (((i.follow room reader calls).1.follow room reader r).1,
      (i.follow room reader calls).2 ++ ((i.follow room reader calls).1.follow room reader r).2) := by
  induction calls generalizing i with
  | nil => rfl
  | cons c calls ih => simp [follow, ih]

lemma follow_take (i : Inbox) (room : Nat) (reader : String) (calls : List Bus.Call) :
    i.follow room reader (calls ++ [.take reader]) =
      (((i.follow room reader calls).1.take true).1,
        (i.follow room reader calls).2 ++ [((i.follow room reader calls).1.take true).2]) := by
  rw [follow_append, follow, heed, if_pos rfl]
  rfl

lemma heed_of_not_reaches (h : c.reaches reader = false) :
    i.heed room reader c = (i, none) := by
  cases c with
  | join => rfl
  | leave => rfl
  | publish e => cases h
  | take name => exact if_neg (of_decide_eq_false h)

lemma follow_filter (i : Inbox) (calls : List Bus.Call) :
    i.follow room reader (calls.filter (Bus.Call.reaches reader)) = i.follow room reader calls := by
  induction calls generalizing i with
  | nil => rfl
  | cons c r ih =>
    cases hc : c.reaches reader with
    | true => simp only [List.filter_cons_of_pos hc, follow, ih]
    | false =>
      rw [List.filter_cons_of_neg (by simp [hc]), ih, follow, heed_of_not_reaches hc]
      rfl

end Inbox

namespace Bus

variable {b : Bus} {i : Inbox} {reader : String} {market : Option Market} {c : Call}
  {calls : List Call}

lemma setting_step (b : Bus) (c : Call) :
    (b.step c).1.capacity = b.capacity ∧ (b.step c).1.isOpen = b.isOpen := by
  cases c with
  | take reader =>
    rw [take_eq]
    cases b.inboxes.lookup reader <;> exact ⟨rfl, rfl⟩
  | _ => exact ⟨rfl, rfl⟩

lemma step_eq_heed (hopen : b.isOpen = true) (hi : b.inboxes.lookup reader = some i)
    (hc : c.Spares reader) :
    (b.step c).1.inboxes.lookup reader = some (i.heed b.capacity reader c).1 ∧
      told reader (b.step c).2.toList = (i.heed b.capacity reader c).2.toList := by
  cases c with
  | join name market =>
    refine ⟨?_, rfl⟩
    rw [step, join, Table.lookup_insert, if_neg (Ne.symm hc)]
    exact hi
  | leave name =>
    refine ⟨?_, rfl⟩
    rw [step, leave, Table.lookup_erase, if_neg (Ne.symm hc)]
    exact hi
  | publish e =>
    refine ⟨?_, rfl⟩
    rw [step, lookup_publish, hi]
    rfl
  | take name =>
    rw [take_eq, Inbox.heed, hopen]
    by_cases hname : name = reader
    · subst hname
      simp [hi, told]
    · cases b.inboxes.lookup name with
      | none => simp [hi, hname, told]
      | some j => simp [hi, hname, Ne.symm hname, told]

lemma run_eq_follow (hopen : b.isOpen = true) (hi : b.inboxes.lookup reader = some i)
    (hcalls : ∀ c ∈ calls, c.Spares reader) :
    (b.run calls).1.inboxes.lookup reader = some (i.follow b.capacity reader calls).1 ∧
      told reader (b.run calls).2 = (i.follow b.capacity reader calls).2 := by
  induction calls generalizing b i with
  | nil => exact ⟨hi, rfl⟩
  | cons c r ih =>
    obtain ⟨hc, hr⟩ := List.forall_mem_cons.mp hcalls
    obtain ⟨hnext, htold⟩ := step_eq_heed hopen hi hc
    obtain ⟨hcapacity, hisOpen⟩ := setting_step b c
    obtain ⟨hlast, hrest⟩ := ih (hisOpen.trans hopen) hnext hr
    rw [hcapacity] at hlast hrest
    refine ⟨hlast, ?_⟩
    change told reader ((b.step c).2.toList ++ ((b.step c).1.run r).2) = _
    rw [told, List.filterMap_append]
    exact congrArg₂ (· ++ ·) htold hrest

lemma setting_run (b : Bus) (calls : List Call) :
    (b.run calls).1.capacity = b.capacity ∧ (b.run calls).1.isOpen = b.isOpen := by
  induction calls generalizing b with
  | nil => exact ⟨rfl, rfl⟩
  | cons c r ih =>
    obtain ⟨hcapacity, hopen⟩ := ih (b.step c).1
    exact ⟨hcapacity.trans (setting_step b c).1, hopen.trans (setting_step b c).2⟩

lemma run_join_take (b : Bus) (hopen : b.isOpen = true) (before : List Call) (reader : String)
    (market : Option Market) (after : List Call) (hafter : ∀ c ∈ after, c.Spares reader) :
    let last := ((b.run before).1.join reader market).run (after ++ [.take reader])
    let inbox := (Inbox.fresh market).follow b.capacity reader after
    last.1.inboxes.lookup reader = some (inbox.1.take true).1 ∧
      told reader last.2 = inbox.2 ++ [(inbox.1.take true).2] := by
  intro last inbox
  have hjoined : ((b.run before).1.join reader market).inboxes.lookup reader =
      some (.fresh market) := by
    rw [join, Table.lookup_insert, if_pos rfl]
  have hall : ∀ c ∈ after ++ [Call.take reader], c.Spares reader :=
    List.forall_mem_append.mpr ⟨hafter, List.forall_mem_singleton.mpr trivial⟩
  obtain ⟨hcapacity, hisOpen⟩ :
      ((b.run before).1.join reader market).capacity = b.capacity ∧
        ((b.run before).1.join reader market).isOpen = b.isOpen := setting_run b before
  have hrun := run_eq_follow (hisOpen.trans hopen) hjoined hall
  rw [hcapacity, Inbox.follow_take] at hrun
  exact hrun

/-- A reader is due what is published while it is there, or of it what is about its market. Whenever
it has asked, the answers it got and what waits for it make up what it is due: each event was
received, in its turn, or is among those an answer told it were lost, or waits. It makes no
difference to it what the others do. A bus whose readers have places on shared lines, which keep
the newest events up to the room, gives the same answers. -/
theorem due_events_accounted_for {capacity : Nat} (hcapacity : 0 < capacity) (reader : String)
    (market : Option Market) (before after : List Call) (hafter : ∀ c ∈ after, c.Spares reader) :
    ∃ b, new? capacity = some b ∧
      let room := capacity.nextPowerOfTwo
      let last := ((b.run before).1.join reader market).run (after ++ [.take reader])
      let answers := told reader last.2
      let due := (stream after).filter (Inbox.fresh market).wants
      ((market = none → due = stream after) ∧
        ∀ m, market = some m → (∀ x, .balance x ∉ due) ∧ ∀ e,
          ((Inbox.fresh market).wants e = true ↔
            ∃ x, e.symbol = some x ∧ Market.of e.exchange x = m)) ∧
      (∃ inbox parts, last.1.inboxes.lookup reader = some inbox ∧
        List.Forall₂ Delivery.Covers answers parts ∧ parts.flatten ++ inbox.waiting = due ∧
          (answers.filterMap Delivery.event?).Sublist due ∧
          (answers.filterMap Delivery.event?).length + Delivery.lostIn answers +
            inbox.waiting.length = due.length ∧
          inbox.waiting.length ≤ room ∧
          ∃ earlier d, answers = earlier ++ [d] ∧
            (∀ n, d = .lagged n → inbox.waiting.length = room) ∧
            (d = .empty → inbox.waiting = []) ∧ d ≠ .closed) ∧
      (∀ before' after', (∀ c ∈ after', c.Spares reader) →
        after'.filter (Call.reaches reader) = after.filter (Call.reaches reader) →
          told reader (((b.run before').1.join reader market).run (after' ++ [.take reader])).2 =
            answers) ∧
      ∀ calls, ((Switchboard.empty room).run calls).2 = (b.run calls).2 := by
  have hnew : new? capacity = some ⟨capacity.nextPowerOfTwo, 0, true, []⟩ :=
    if_neg hcapacity.ne'
  refine ⟨_, hnew, ?_⟩
  intro room last answers due
  have hroom : 0 < room := Nat.pos_of_isPowerOfTwo (Nat.isPowerOfTwo_nextPowerOfTwo capacity)
  have hjoin := fun before => run_join_take ⟨room, 0, true, []⟩ rfl before reader market
  obtain ⟨hinbox, hanswers : answers = _⟩ := hjoin before after hafter
  have haccounts : ((Inbox.fresh market).follow room reader after).1.Accounts room due
      ((Inbox.fresh market).follow room reader after).2 :=
    (Inbox.accounts_fresh market room).follow hroom after
  obtain ⟨parts, hparts, hdue⟩ := haccounts.take.parts_of_lost_eq_zero (Inbox.lost_take _ true)
  rw [← hanswers] at hparts
  refine ⟨⟨?_, ?_⟩, ⟨_, parts, hinbox, hparts, hdue, ?_, ?_, haccounts.take.bounded,
    _, _, hanswers, haccounts.take_told⟩, fun before' after' hafter' hsame => ?_, fun calls => ?_⟩
  · rintro rfl
    exact List.filter_eq_self.mpr fun _ _ => rfl
  · rintro m rfl
    refine ⟨fun x hx => ?_, fun e => by simp [Inbox.wants_iff, Inbox.fresh]⟩
    have hwants := (List.mem_filter.mp hx).2
    simp [Inbox.wants_iff, Inbox.fresh, FeedEvent.symbol] at hwants
  · rw [← hdue]
    exact (Delivery.received_sublist hparts).trans (List.sublist_append_left _ _)
  · rw [← Delivery.length_flatten hparts, ← List.length_append, hdue]
  · have hfollow : (Inbox.fresh market).follow room reader after' =
        (Inbox.fresh market).follow room reader after := by
      rw [← Inbox.follow_filter, hsame, Inbox.follow_filter]
    refine (hjoin before' after' hafter').2.trans (Eq.trans ?_ hanswers.symm)
    rw [hfollow]
  · exact ((Switchboard.Shows.of_new? hnew).run calls).2

theorem due_events_accounted_for_after_a_loss :
    let e := fun symbol n => FeedEvent.book ⟨.kucoin, symbol, .delta, [], [], some n, none, 0, none⟩
    let cash := FeedEvent.balance ⟨.kucoin, "BTC", .zero, .zero, none, none, 0, none⟩
    let before := [Call.join "all" none, .publish (e "BTC-USDT" 1)]
    let after := [Call.publish (e "BTC-USDT" 2), .publish cash, .publish (e "btc-usdt" 3),
      .take "all", .publish (e "BTC-USDT" 4), .leave "all", .publish (e "btc-usdt" 5),
      .take "btc", .take "btc"]
    let market := Market.of .kucoin "Btc-Usdt"
    (∀ c ∈ after, c.Spares "btc") ∧ ∃ b, new? 2 = some b ∧
      let last := ((b.run before).1.join "btc" market).run (after ++ [.take "btc"])
      told "btc" last.2 = [.lagged 2, .event (e "BTC-USDT" 4), .event (e "btc-usdt" 5)] ∧
        [e "BTC-USDT" 4, e "btc-usdt" 5].Sublist
          ((stream after).filter (Inbox.fresh market).wants) ∧
        ∃ inbox, last.1.inboxes.lookup "btc" = some inbox ∧ inbox.waiting = [] := by
  intro e cash before after market
  have hafter : ∀ c ∈ after, c.Spares "btc" := by simp [after, Call.Spares]
  have hmarket : market = ⟨.kucoin, "BTC-USDT"⟩ := rfl
  have hupper : Text.upper "BTC-USDT" = "BTC-USDT" := rfl
  have hlower : Text.upper "btc-usdt" = "BTC-USDT" := rfl
  have hfollow : (Inbox.fresh market).follow 2 "btc" after =
      (⟨market, [e "btc-usdt" 5], 0⟩, [.lagged 2, .event (e "BTC-USDT" 4)]) := by
    simp [after, e, cash, hmarket, hupper, hlower, Inbox.follow, Inbox.heed, Inbox.offer,
      Inbox.wants, Inbox.fresh, Inbox.put, Inbox.take, FeedEvent.symbol, FeedEvent.exchange,
      Market.of]
  have hdue : (stream after).filter (Inbox.fresh market).wants =
      [e "BTC-USDT" 2, e "btc-usdt" 3, e "BTC-USDT" 4, e "btc-usdt" 5] := by
    simp [after, e, cash, hmarket, hupper, hlower, stream, Inbox.wants, Inbox.fresh,
      FeedEvent.symbol, FeedEvent.exchange, Market.of]
  obtain ⟨b, hb, _, ⟨inbox, _, hinbox, _, _, hsublist, hcount, _⟩, _⟩ :=
    due_events_accounted_for (by decide : 0 < 2) "btc" (some market) before after hafter
  obtain rfl : b = ⟨2, 0, true, []⟩ := by
    have hnew : new? 2 = some ⟨2, 0, true, []⟩ := by cbv
    exact Option.some.inj (hb.symm.trans hnew)
  have htold := (run_join_take ⟨2, 0, true, []⟩ rfl before "btc" market after hafter).2
  rw [hfollow] at htold
  rw [htold] at hsublist hcount
  rw [hdue] at hcount
  refine ⟨hafter, _, hb, htold, hsublist, inbox, hinbox, List.length_eq_zero_iff.mp ?_⟩
  exact Nat.add_left_cancel hcount

end Bus

end MarketFeed
