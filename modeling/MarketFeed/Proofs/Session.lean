import MarketFeed.Proofs.Desk.Agreement
import MarketFeed.Proofs.Desk.Closing
import MarketFeed.Proofs.Desk.Frames

namespace MarketFeed

namespace Desk

variable {d : Desk} {s : String} {symbols : List String}

lemma isSome_tracker?_perform (hd : d.Labelled) (h : (d.tracker? s).isSome) (o : Operation) :
    ((d.perform o).desk.tracker? s).isSome := by
  cases turn hd s o with
  | still _ _ hn => rwa [hn.tracker]
  | ask _ _ _ hn | apply _ _ _ _ _ hn | gap _ _ _ _ _ _ hn | install _ _ _ hn | fail _ _ _ hn
  | close _ hn => rw [hn.tracker, Option.isSome_some]

lemma isSome_tracker?_subscribe (d : Desk) (s : String) :
    ((d.subscribe s).desk.tracker? s).isSome := by
  simp [subscribe]

lemma isOpen_eq_false_iff : d.isOpen s = false ↔ ∀ t, d.tracker? s = some t → t.phase = .closed := by
  rw [← Bool.not_eq_true, isOpen_iff]
  simp

lemma not_isOpen_reset (hs : s ∈ symbols) : (d.reset symbols).1.isOpen s = false := by
  rw [isOpen_eq_false_iff]
  intro t ht
  by_cases h : d.isOpen s = true
  · rw [(reset_of_mem (mem_reset.mpr ⟨hs, h⟩)).1] at ht
    exact Option.some.inj ht ▸ rfl
  · rw [(reset_of_not_mem fun hm => h (mem_reset.mp hm).2).1] at ht
    exact isOpen_eq_false_iff.mp (Bool.not_eq_true _ ▸ h) t ht

lemma Agrees.book?_eq_none_of_not_isOpen (h : d.Agrees s) (ho : d.isOpen s = false) :
    d.book? s = none := by
  refine h.book?_eq_none fun hlive => ?_
  cases ht : d.tracker? s with
  | none =>
    rw [phase, tracker, ht] at hlive
    cases hlive
  | some t =>
    rw [phase, tracker_eq ht, isOpen_eq_false_iff.mp ho t ht] at hlive
    cases hlive

lemma shut_of_not_isOpen (h : d.Agrees s) (hs : (d.tracker? s).isSome) (ho : d.isOpen s = false) :
    d.Shut s := by
  obtain ⟨t, ht⟩ := Option.isSome_iff_exists.mp hs
  refine ⟨?_, h.book?_eq_none_of_not_isOpen ho⟩
  rw [phase, tracker_eq ht]
  exact isOpen_eq_false_iff.mp ho t ht

lemma handle_invariant {P : Desk → Prop} (hP : ∀ d o, P d → P (d.perform o).desk) (h : P d)
    (venue : Venue) (dir : Directory) (text : String) (time : Int64) :
    P (d.handle venue dir text time).desk := by
  cases d.handles venue dir text time with
  | refused hn | control hn | overflow hn | trade _ _ hn | order _ _ hn | balance _ _ hn =>
    rw [hn]
    exact h
  | book _ _ hn =>
    rw [hn]
    exact hP d (.update _ time) h

end Desk

namespace Connection

variable {c : Connection} {hub : Hub} {script : Script} {P : Desk → Prop} {s : String}

lemma begin_invariant (hP : ∀ d o, P d → P (d.perform o).desk) (acts : List Act)
    {balances : Except (Fault FetchError) (List BalanceEvent)} {s : Session} (h : P s.hub.desk) :
    P (begin balances s acts).1.hub.desk := by
  induction acts generalizing s with
  | nil => exact h
  | cons act r ih =>
    cases act with
    | publishBalances =>
      rcases balances with (cause | _) | es
      · exact ih h
      · exact h
      · exact ih (s := { s with hub := s.hub.publish (es.map .balance) }) h
    | send frame =>
      rw [begin]
      rcases s.outbox.send frame with ⟨outbox, taken⟩
      cases taken with
      | true => exact ih (s := { s with outbox }) h
      | false => exact h
    | track symbol =>
      exact ih (s := { s with hub := s.hub.subscribe symbol }) (hP _ (.subscribe symbol) h)

lemma listen_invariant (hP : ∀ d o, P d → P (d.perform o).desk) (signals : List Signal)
    {s : Session} (h : P s.hub.desk) : P (c.listen s signals).1.hub.desk := by
  induction signals generalizing s with
  | nil => exact h
  | cons signal r ih =>
    cases signal with
    | text frame time =>
      have hn := Desk.handle_invariant hP h c.venue c.directory frame time
      rw [listen]
      split
      · exact h
      · exact ih (s := { s with hub := s.hub.react _ }) hn
    | trouble detail => exact ih h
    | tick =>
      rw [listen]
      cases c.heartbeat? with
      | none => exact ih h
      | some ping =>
        dsimp only
        rcases s.outbox.send ping with ⟨outbox, taken⟩
        cases taken with
        | true => exact ih (s := { s with outbox }) h
        | false => exact h
    | answered f result time =>
      exact ih (s := { s with hub := s.hub.answer f result time })
        (hP _ (.answer f result time) h)
    | disconnected => exact h

lemma session_invariant (hP : ∀ d o, P d → P (d.perform o).desk) (h : P hub.desk)
    (script : Script) : P (c.session hub script).1.hub.desk := by
  have hbegun : P (begin script.balances ⟨hub, .fresh script.room⟩ c.acts).1.hub.desk :=
    begin_invariant hP c.acts h
  rw [session]
  rcases hb : begin script.balances ⟨hub, .fresh script.room⟩ c.acts with ⟨s, _ | ending⟩
  · rw [hb] at hbegun
    exact listen_invariant hP script.signals hbegun
  · rw [hb] at hbegun
    exact hbegun

lemma listen_text_of_overflow {t : Session} {frame : String} {time : Int64}
    (h : (t.hub.desk.handle c.venue c.directory frame time).result = .overflow)
    (r : List Signal) : c.listen t (.text frame time :: r) = (t, .crashed) := by
  simp only [listen, h]

def Subscribes (c : Connection) (hub : Hub) (script : Script) (s : String) : Prop :=
  (begin script.balances ⟨hub, .fresh script.room⟩ c.acts).2 = none ∧ .book ∈ c.channels ∧
    s ∈ c.symbols

lemma track_mem_acts (hb : .book ∈ c.channels) (hs : s ∈ c.symbols) : .track s ∈ c.acts := by
  refine List.mem_append_right _ ?_
  rw [trackActs, if_pos (List.contains_iff_mem.mpr hb)]
  exact List.mem_map_of_mem hs

lemma tracked_invariant (d : Desk) (o : Operation) (h : d.Labelled ∧ (d.tracker? s).isSome) :
    (d.perform o).desk.Labelled ∧ ((d.perform o).desk.tracker? s).isSome :=
  ⟨h.1.perform o, Desk.isSome_tracker?_perform h.1 h.2 o⟩

lemma tracked_of_begin {acts : List Act} {balances : Except (Fault FetchError) (List BalanceEvent)}
    {t : Session} (hd : t.hub.desk.Labelled) (hb : (begin balances t acts).2 = none)
    (hs : .track s ∈ acts) : ((begin balances t acts).1.hub.desk.tracker? s).isSome := by
  induction acts generalizing t with
  | nil => exact absurd hs List.not_mem_nil
  | cons act r ih =>
    cases act with
    | publishBalances =>
      have hr : .track s ∈ r := by simpa using hs
      rcases balances with (cause | _) | es
      · exact ih hd hb hr
      · cases hb
      · exact ih (t := { t with hub := t.hub.publish (es.map .balance) }) hd hb hr
    | send frame =>
      have hr : .track s ∈ r := by simpa using hs
      rw [begin] at hb ⊢
      rcases hsend : t.outbox.send frame with ⟨outbox, taken⟩
      rw [hsend] at hb
      cases taken with
      | true => exact ih (t := { t with outbox }) hd hb hr
      | false => cases hb
    | track symbol =>
      have hsubscribed : (t.hub.subscribe symbol).desk.Labelled := hd.perform (.subscribe symbol)
      rcases List.mem_cons.mp hs with hact | hr
      · cases hact
        exact (begin_invariant tracked_invariant r (s := { t with hub := t.hub.subscribe s })
          ⟨hsubscribed, Desk.isSome_tracker?_subscribe t.hub.desk s⟩).2
      · exact ih (t := { t with hub := t.hub.subscribe symbol }) hsubscribed hb hr

lemma tracked_of_session (hd : hub.desk.Labelled) (h : c.Subscribes hub script s) :
    ((c.session hub script).1.hub.desk.tracker? s).isSome := by
  obtain ⟨hb, hbook, hs⟩ := h
  have hbegun := tracked_of_begin (t := ⟨hub, .fresh script.room⟩) hd hb (track_mem_acts hbook hs)
  have hlabelled : (begin script.balances ⟨hub, .fresh script.room⟩ c.acts).1.hub.desk.Labelled :=
    begin_invariant (fun d o hd => hd.perform o) c.acts hd
  rw [session]
  rcases hopen : begin script.balances ⟨hub, .fresh script.room⟩ c.acts with ⟨t, _ | _⟩
  · rw [hopen] at hbegun hlabelled
    exact (listen_invariant tracked_invariant script.signals ⟨hlabelled, hbegun⟩).2
  · rw [hopen] at hb
    cases hb

end Connection

end MarketFeed
