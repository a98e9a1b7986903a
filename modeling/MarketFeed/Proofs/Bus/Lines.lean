import Mathlib.Logic.Function.Basic
import MarketFeed.Bus
import MarketFeed.Proofs.Table

namespace MarketFeed

lemma Inbox.wants_iff {i : Inbox} {e : FeedEvent} : i.wants e = true ↔
    ∀ m, i.market = some m → ∃ x, e.symbol = some x ∧ Market.of e.exchange x = m := by
  rw [wants]
  cases i.market with
  | none => simp
  | some m => cases e.symbol <;> simp

namespace Bus

inductive Call where
  | join (reader : String) (market : Option Market)
  | leave (reader : String)
  | publish (e : FeedEvent)
  | take (reader : String)

def step (b : Bus) : Call → Bus × Option (String × Delivery)
  | .join reader market => (b.join reader market, none)
  | .leave reader => (b.leave reader, none)
  | .publish e => (b.publish e, none)
  | .take reader =>
    match b.take reader with
    | some (next, d) => (next, some (reader, d))
    | none => (b, none)

def runBy {σ : Type} (step : σ → Call → σ × Option (String × Delivery)) (s : σ) :
    List Call → σ × List (String × Delivery)
  | [] => (s, [])
  | c :: r =>
    let (next, told) := step s c
    let (last, rest) := runBy step next r
    (last, told.toList ++ rest)

def run : Bus → List Call → Bus × List (String × Delivery) := runBy step

lemma take_eq (b : Bus) (reader : String) : b.step (.take reader) =
    match b.inboxes.lookup reader with
    | some i => ({ b with inboxes := b.inboxes.insert reader (i.take b.isOpen).1 },
        some (reader, (i.take b.isOpen).2))
    | none => (b, none) := by
  rw [step, take]
  cases b.inboxes.lookup reader <;> rfl

@[simp] lemma lookup_publish (b : Bus) (e : FeedEvent) (reader : String) :
    (b.publish e).inboxes.lookup reader =
      (b.inboxes.lookup reader).map fun i => i.offer b.capacity e :=
  Table.lookup_map (fun i : Inbox => i.offer b.capacity e) b.inboxes reader

/-- One event more is out: it counts, and it waits behind the others for every reader of all events
and of its market. Where the capacity is used up, the oldest event that waits is lost for it. -/
structure Publishes (b : Bus) (e : FeedEvent) (b' : Bus) : Prop where
  count : b'.published = b.published + 1
  capacity : b'.capacity = b.capacity
  isOpen : b'.isOpen = b.isOpen
  readers : b'.inboxes.names = b.inboxes.names
  concerned : ∀ reader i, b.inboxes.lookup reader = some i →
    (∀ m, i.market = some m → ∃ x, e.symbol = some x ∧ Market.of e.exchange x = m) →
      b'.inboxes.lookup reader = some (if i.waiting.length < b.capacity
        then ⟨i.market, i.waiting ++ [e], i.lost⟩
        else ⟨i.market, (i.waiting ++ [e]).tail, i.lost + 1⟩)
  others : ∀ reader i m, b.inboxes.lookup reader = some i → i.market = some m →
    (∀ x, e.symbol = some x → Market.of e.exchange x ≠ m) → b'.inboxes.lookup reader = some i

lemma publishes (b : Bus) (e : FeedEvent) : b.Publishes e (b.publish e) where
  count := rfl
  capacity := rfl
  isOpen := rfl
  readers := by simp [publish, Table.names, Function.comp_def]
  concerned reader i hi hwants := by
    rw [lookup_publish, hi, Option.map_some, Inbox.offer, if_pos (Inbox.wants_iff.mpr hwants),
      Inbox.put, List.length_append, List.length_singleton]
    by_cases hroom : i.waiting.length < b.capacity
    · rw [if_pos hroom, if_neg (by omega)]
    · rw [if_neg hroom, if_pos (by omega)]
  others reader i m hi hm hother := by
    have hwants : ¬ i.wants e = true := fun h => by
      obtain ⟨x, hx, he⟩ := Inbox.wants_iff.mp h m hm
      exact hother x hx he
    rw [lookup_publish, hi, Option.map_some, Inbox.offer, if_neg hwants]

end Bus

structure Line where
  first : Nat
  kept : List FeedEvent

namespace Line

variable {l : Line} {room place : Nat}

def empty : Line := ⟨0, []⟩

def stop (l : Line) : Nat := l.first + l.kept.length

def push (l : Line) (room : Nat) (e : FeedEvent) : Line :=
  let kept := l.kept ++ [e]
  if room < kept.length then ⟨l.first + 1, kept.tail⟩ else ⟨l.first, kept⟩

def read (l : Line) (place : Nat) : Nat × Delivery :=
  if place < l.first then (l.first, .lagged (l.first - place))
  else
    match l.kept[place - l.first]? with
    | some e => (place + 1, .event e)
    | none => (place, .empty)

def inbox (l : Line) (market : Option Market) (place : Nat) : Inbox :=
  ⟨market, l.kept.drop (place - l.first), l.first - place⟩

lemma inbox_stop (l : Line) (market : Option Market) : l.inbox market l.stop = .fresh market := by
  simp [inbox, stop, Inbox.fresh]

lemma stop_push (l : Line) (room : Nat) (e : FeedEvent) : (l.push room e).stop = l.stop + 1 := by
  rw [push]
  split <;> simp [stop] <;> omega

lemma length_kept_push (h : l.kept.length ≤ room) (e : FeedEvent) :
    (l.push room e).kept.length ≤ room := by
  rw [push]
  split <;> simp at * <;> omega

lemma inbox_push (hkept : l.kept.length ≤ room) (hplace : place ≤ l.stop) (market : Option Market)
    (e : FeedEvent) :
    (l.push room e).inbox market place = (l.inbox market place).put room e := by
  rw [stop] at hplace
  have hlength : ((l.inbox market place).waiting ++ [e]).length =
      l.kept.length - (place - l.first) + 1 := by
    simp [inbox]
  rw [push, Inbox.put, hlength, List.length_append, List.length_singleton]
  -- A full line drops its oldest event, which is the reader's oldest only if the reader is that far
  -- behind.
  by_cases hfull : room < l.kept.length + 1
  · rw [if_pos hfull]
    by_cases hlate : place ≤ l.first
    · have hdrop : place - l.first = 0 := by omega
      have hnext : place - (l.first + 1) = 0 := by omega
      rw [if_pos (by omega)]
      simp [inbox, hdrop, hnext]
      omega
    · obtain ⟨n, rfl⟩ : ∃ n, place = l.first + 1 + n := ⟨place - l.first - 1, by omega⟩
      have hn : l.first + 1 + n - l.first = n + 1 := by omega
      rw [if_neg (by omega), inbox, inbox, hn, Nat.add_sub_cancel_left, List.drop_tail,
        List.drop_append_of_le_length (by omega)]
      simp
      omega
  · have hdrop : place - l.first ≤ l.kept.length := by omega
    rw [if_neg hfull, if_neg (by omega), inbox, inbox, List.drop_append_of_le_length hdrop]

lemma take_inbox (l : Line) (market : Option Market) (place : Nat) :
    (l.inbox market place).take true = (l.inbox market (l.read place).1, (l.read place).2) := by
  rw [read]
  by_cases hlate : place < l.first
  · have hlost : 0 < (l.inbox market place).lost := Nat.sub_pos_of_lt hlate
    have hdrop : place - l.first = 0 := by omega
    rw [Inbox.take, if_pos hlost, if_pos hlate]
    simp [inbox, hdrop]
  · have hlost : ¬ 0 < (l.inbox market place).lost := by simp [inbox]; omega
    rw [Inbox.take, if_neg hlost, if_neg hlate]
    cases he : l.kept[place - l.first]? with
    | none =>
      have hdrop : (l.inbox market place).waiting = [] :=
        List.drop_eq_nil_of_le (List.getElem?_eq_none_iff.mp he)
      rw [hdrop]
      rfl
    | some e =>
      have hdrop : (l.inbox market place).waiting = e :: l.kept.drop (place - l.first + 1) := by
        obtain ⟨hlt, rfl⟩ := List.getElem?_eq_some_iff.mp he
        exact List.drop_eq_getElem_cons hlt
      have hnext : place + 1 - l.first = place - l.first + 1 := by omega
      rw [hdrop]
      simp [inbox, hnext]
      omega

lemma read_le_stop (h : place ≤ l.stop) : (l.read place).1 ≤ l.stop := by
  rw [stop] at *
  rw [read]
  split
  · simp
  · cases he : l.kept[place - l.first]? with
    | none => exact h
    | some e =>
      obtain ⟨hlt, _⟩ := List.getElem?_eq_some_iff.mp he
      change place + 1 ≤ _
      omega

end Line

structure Seat where
  market : Option Market
  place : Nat

structure Switchboard where
  room : Nat
  whole : Line
  lines : Market → Option Line
  seats : Table Seat

namespace Switchboard

variable {s : Switchboard} {b : Bus}

def empty (room : Nat) : Switchboard := ⟨room, .empty, fun _ => none, []⟩

def line (s : Switchboard) : Option Market → Line
  | none => s.whole
  | some m => (s.lines m).getD .empty

def lay (s : Switchboard) : Option Market → Switchboard
  | none => s
  | some m => { s with lines := Function.update s.lines m (some ((s.lines m).getD .empty)) }

def join (s : Switchboard) (reader : String) (market : Option Market) : Switchboard :=
  { s.lay market with seats := s.seats.insert reader ⟨market, (s.line market).stop⟩ }

def publish (s : Switchboard) (e : FeedEvent) : Switchboard :=
  let lines := match e.symbol with
    | none => s.lines
    | some x =>
      let m := Market.of e.exchange x
      Function.update s.lines m ((s.lines m).map (·.push s.room e))
  { s with whole := s.whole.push s.room e, lines }

def step (s : Switchboard) : Bus.Call → Switchboard × Option (String × Delivery)
  | .join reader market => (s.join reader market, none)
  | .leave reader => ({ s with seats := s.seats.erase reader }, none)
  | .publish e => (s.publish e, none)
  | .take reader =>
    match s.seats.lookup reader with
    | none => (s, none)
    | some seat =>
      let (place, d) := (s.line seat.market).read seat.place
      ({ s with seats := s.seats.insert reader { seat with place } }, some (reader, d))

def run : Switchboard → List Bus.Call → Switchboard × List (String × Delivery) := Bus.runBy step

def inbox (s : Switchboard) (seat : Seat) : Inbox :=
  (s.line seat.market).inbox seat.market seat.place

structure Holds (s : Switchboard) (seat : Seat) : Prop where
  laid : ∀ m, seat.market = some m → (s.lines m).isSome
  place : seat.place ≤ (s.line seat.market).stop

structure Shows (s : Switchboard) (b : Bus) : Prop where
  room : s.room = b.capacity
  isOpen : b.isOpen = true
  kept : ∀ market, (s.line market).kept.length ≤ s.room
  seats : ∀ reader seat, s.seats.lookup reader = some seat → s.Holds seat
  inboxes : ∀ reader, b.inboxes.lookup reader = (s.seats.lookup reader).map s.inbox

@[simp] lemma line_lay (s : Switchboard) (market market' : Option Market) :
    (s.lay market).line market' = s.line market' := by
  cases market with
  | none => rfl
  | some m =>
    cases market' with
    | none => rfl
    | some m' =>
      by_cases h : m' = m
      · simp [lay, line, h]
      · simp [lay, line, h]

lemma isSome_lines_lay {m : Market} (market : Option Market) (h : (s.lines m).isSome) :
    ((s.lay market).lines m).isSome := by
  cases market with
  | none => exact h
  | some m' =>
    by_cases hm : m = m'
    · simp [lay, hm]
    · simpa [lay, hm] using h

lemma isSome_lines_publish {e : FeedEvent} {m : Market} :
    ((s.publish e).lines m).isSome = (s.lines m).isSome := by
  rw [publish]
  cases e.symbol with
  | none => rfl
  | some x =>
    by_cases hm : m = Market.of e.exchange x
    · simp [hm]
    · simp [hm]

lemma line_publish (e : FeedEvent) (market : Option Market)
    (h : ∀ m, market = some m → (s.lines m).isSome) :
    (s.publish e).line market =
      if (Inbox.fresh market).wants e then (s.line market).push s.room e else s.line market := by
  cases market with
  | none => rfl
  | some m =>
    obtain ⟨l, hl⟩ := Option.isSome_iff_exists.mp (h m rfl)
    rw [line, publish, line, Inbox.wants, hl]
    cases hx : e.symbol with
    | none => simp [Inbox.fresh, hl]
    | some x =>
      by_cases hm : Market.of e.exchange x = m
      · simp [Inbox.fresh, hm, hl]
      · simp [Inbox.fresh, hm, hl, Ne.symm hm]

lemma kept_publish (h : ∀ market, (s.line market).kept.length ≤ s.room) (e : FeedEvent)
    (market : Option Market) : ((s.publish e).line market).kept.length ≤ s.room := by
  by_cases hlaid : ∀ m, market = some m → (s.lines m).isSome
  · rw [line_publish e market hlaid]
    split
    · exact Line.length_kept_push (h market) e
    · exact h market
  · push Not at hlaid
    obtain ⟨m, rfl, hm⟩ := hlaid
    have hnone : (s.publish e).lines m = none := by
      rw [← Option.not_isSome_iff_eq_none, isSome_lines_publish]
      exact hm
    simp [line, hnone, Line.empty]

lemma inbox_publish {seat : Seat} (hkept : (s.line seat.market).kept.length ≤ s.room)
    (hseat : s.Holds seat) (e : FeedEvent) :
    (s.publish e).inbox seat = (s.inbox seat).offer s.room e := by
  rw [inbox, line_publish e seat.market hseat.laid, Inbox.offer]
  have hwants : (s.inbox seat).wants e = (Inbox.fresh seat.market).wants e := rfl
  rw [hwants]
  split
  · exact Line.inbox_push hkept hseat.place _ e
  · rfl

lemma Holds.publish {seat : Seat} (h : s.Holds seat) (e : FeedEvent) :
    (s.publish e).Holds seat := by
  refine ⟨fun m hm => isSome_lines_publish.trans (h.laid m hm), ?_⟩
  rw [line_publish e seat.market h.laid]
  split
  · rw [Line.stop_push]
    exact h.place.trans (Nat.le_succ _)
  · exact h.place

lemma Holds.join {seat : Seat} (h : s.Holds seat) (reader : String) (market : Option Market) :
    (s.join reader market).Holds seat :=
  ⟨fun m hm => isSome_lines_lay market (h.laid m hm),
    h.place.trans_eq (congrArg Line.stop (line_lay s market seat.market)).symm⟩

lemma holds_new_seat (s : Switchboard) (reader : String) (market : Option Market) :
    (s.join reader market).Holds ⟨market, (s.line market).stop⟩ := by
  refine ⟨?_, (congrArg Line.stop (line_lay s market market)).ge⟩
  rintro m rfl
  simp [join, lay]

namespace Shows

lemma join (h : s.Shows b) (reader : String) (market : Option Market) :
    (s.join reader market).Shows (b.join reader market) := by
  have hline : ∀ market', (s.join reader market).line market' = s.line market' :=
    line_lay s market
  have hroom : (s.join reader market).room = s.room := by cases market <;> rfl
  refine ⟨hroom.trans h.room, h.isOpen, fun m => ?_, fun name seat hseat => ?_, fun name => ?_⟩
  · rw [hline, hroom]
    exact h.kept m
  · rw [Switchboard.join, Table.lookup_insert] at hseat
    split at hseat
    · cases hseat
      exact holds_new_seat s reader market
    · exact (h.seats name seat hseat).join reader market
  · rw [Bus.join, Switchboard.join, Table.lookup_insert, Table.lookup_insert]
    split
    · have hfresh : (s.join reader market).inbox ⟨market, (s.line market).stop⟩ =
          .fresh market := by
        rw [inbox, hline, Line.inbox_stop]
      exact congrArg some hfresh.symm
    · rw [h.inboxes name]
      exact Option.map_congr fun seat _ =>
        (congrArg (·.inbox seat.market seat.place) (line_lay s market seat.market)).symm

lemma leave (h : s.Shows b) (reader : String) :
    Shows { s with seats := s.seats.erase reader } (b.leave reader) := by
  refine ⟨h.room, h.isOpen, h.kept, fun name seat hseat => ?_, fun name => ?_⟩
  · rw [Table.lookup_erase] at hseat
    split at hseat
    · cases hseat
    · obtain ⟨hlaid, hplace⟩ := h.seats name seat hseat
      exact ⟨hlaid, hplace⟩
  · rw [Bus.leave, Table.lookup_erase, Table.lookup_erase]
    split
    · rfl
    · exact h.inboxes name

lemma publish (h : s.Shows b) (e : FeedEvent) : (s.publish e).Shows (b.publish e) := by
  refine ⟨h.room, h.isOpen, kept_publish h.kept e,
    fun name seat hseat => (h.seats name seat hseat).publish e, fun name => ?_⟩
  rw [Bus.lookup_publish, h.inboxes name, Option.map_map, ← h.room]
  exact Option.map_congr fun seat hseat =>
    (inbox_publish (h.kept _) (h.seats name seat hseat) e).symm

lemma take (h : s.Shows b) (reader : String) :
    (s.step (.take reader)).1.Shows (b.step (.take reader)).1 ∧
      (s.step (.take reader)).2 = (b.step (.take reader)).2 := by
  rw [Bus.take_eq, h.inboxes reader, h.isOpen]
  rw [Switchboard.step]
  cases hseat : s.seats.lookup reader with
  | none => exact ⟨h, rfl⟩
  | some seat =>
    have hread := Line.take_inbox (s.line seat.market) seat.market seat.place
    have hheld := h.seats reader seat hseat
    simp only [Option.map_some, inbox, hread, and_true]
    refine ⟨h.room, rfl, h.kept, fun name seat' hseat' => ?_, fun name => ?_⟩
    · rw [Table.lookup_insert] at hseat'
      split at hseat'
      · cases hseat'
        exact ⟨hheld.laid, Line.read_le_stop hheld.place⟩
      · obtain ⟨hlaid, hplace⟩ := h.seats name seat' hseat'
        exact ⟨hlaid, hplace⟩
    · rw [Table.lookup_insert, Table.lookup_insert]
      split
      · rfl
      · exact h.inboxes name

lemma step (h : s.Shows b) (c : Bus.Call) :
    (s.step c).1.Shows (b.step c).1 ∧ (s.step c).2 = (b.step c).2 := by
  cases c with
  | join reader market => exact ⟨h.join reader market, rfl⟩
  | leave reader => exact ⟨h.leave reader, rfl⟩
  | publish e => exact ⟨h.publish e, rfl⟩
  | take reader => exact h.take reader

lemma run (h : s.Shows b) (calls : List Bus.Call) :
    (s.run calls).1.Shows (b.run calls).1 ∧ (s.run calls).2 = (b.run calls).2 := by
  induction calls generalizing s b with
  | nil => exact ⟨h, rfl⟩
  | cons c r ih =>
    obtain ⟨hnext, htold⟩ := h.step c
    obtain ⟨hlast, hrest⟩ := ih hnext
    refine ⟨hlast, ?_⟩
    change (s.step c).2.toList ++ ((s.step c).1.run r).2 =
      (b.step c).2.toList ++ ((b.step c).1.run r).2
    rw [htold, hrest]

lemma of_new? {capacity : Nat} (h : Bus.new? capacity = some b) :
    (empty capacity.nextPowerOfTwo).Shows b := by
  rw [Bus.new?] at h
  split at h
  · cases h
  · cases h
    refine ⟨rfl, rfl, fun market => ?_, fun reader seat hseat => ?_, fun reader => rfl⟩
    · cases market <;> exact Nat.zero_le _
    · cases hseat

end Shows

end Switchboard

end MarketFeed
