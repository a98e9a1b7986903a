import MarketFeed.Proofs.Connection
import MarketFeed.Proofs.Venue.Topics

namespace MarketFeed

namespace Outbox

variable {o o₁ o' : Outbox} {frame : Json} {wanted : List Json} {ending : Ending}

def accepted (o : Outbox) (frames : List Json) : List Json :=
  o.room.elim frames fun n => frames.take (n - o.sent.length)

def Sends (o : Outbox) (wanted : List Json) (ending : Ending) (o' : Outbox) : Prop :=
  ∃ taken, o'.sent = o.sent ++ Connection.stamped o.nextId taken ∧ taken <+: o.accepted wanted ∧
    (ending = .over → taken = o.accepted wanted)

lemma accepted_prefix (o : Outbox) (frames : List Json) : o.accepted frames <+: frames := by
  rw [accepted]
  cases o.room with
  | none => exact List.prefix_refl frames
  | some n => exact List.take_prefix _ frames

lemma accepted_nil (o : Outbox) : o.accepted [] = [] :=
  List.prefix_nil.mp (o.accepted_prefix [])

lemma accepted_of_isFull (h : o.isFull = true) (wanted : List Json) : o.accepted wanted = [] := by
  rw [accepted]
  cases hr : o.room with
  | none => simp [isFull, hr] at h
  | some n =>
    have hle : n ≤ o.sent.length := by simpa [isFull, hr] using h
    rw [Option.elim_some, Nat.sub_eq_zero_of_le hle, List.take_zero]

lemma of_send_refused (h : o.send frame = (o₁, false)) :
    o.isFull = true ∧ o₁ = { o with nextId := o.nextId + 1 } := by
  rw [send] at h
  split at h
  · rename_i hfull
    cases h
    exact ⟨hfull, rfl⟩
  · cases h

lemma of_send_taken (h : o.send frame = (o₁, true)) : o.isFull = false ∧
    o₁ = { o with sent := o.sent ++ [stamp o.nextId frame], nextId := o.nextId + 1 } := by
  rw [send] at h
  split at h
  · cases h
  · rename_i hroom
    cases h
    exact ⟨Bool.not_eq_true _ ▸ hroom, rfl⟩

lemma accepted_cons_of_send (h : o.send frame = (o₁, true)) (wanted : List Json) :
    o.accepted (frame :: wanted) = frame :: o₁.accepted wanted := by
  obtain ⟨hroom, rfl⟩ := of_send_taken h
  rw [accepted, accepted]
  cases hr : o.room with
  | none => rfl
  | some n =>
    have hlt : o.sent.length < n := by simpa [isFull, hr] using hroom
    have hn : n - o.sent.length = n - (o.sent.length + 1) + 1 := by omega
    simp only [Option.elim_some, List.length_append, List.length_singleton, hn,
      List.take_succ_cons]

lemma sends_nothing (h : o'.sent = o.sent) (ha : ending = .over → o.accepted wanted = []) :
    o.Sends wanted ending o' :=
  ⟨[], h.trans (List.append_nil _).symm, List.nil_prefix, fun he => (ha he).symm⟩

lemma Sends.nil (o : Outbox) (ending : Ending) : o.Sends [] ending o :=
  sends_nothing rfl fun _ => accepted_nil o

lemma Sends.crashed (o : Outbox) (wanted : List Json) : o.Sends wanted .crashed o :=
  sends_nothing rfl nofun

lemma Sends.full (h : o.send frame = (o₁, false)) (wanted : List Json) (ending : Ending) :
    o.Sends wanted ending o₁ := by
  obtain ⟨hfull, rfl⟩ := of_send_refused h
  exact sends_nothing rfl fun _ => accepted_of_isFull hfull wanted

lemma Sends.cons (h : o.send frame = (o₁, true)) (hs : o₁.Sends wanted ending o') :
    o.Sends (frame :: wanted) ending o' := by
  obtain ⟨taken, hsent, hprefix, hover⟩ := hs
  refine ⟨frame :: taken, ?_, ?_, fun he => ?_⟩
  · obtain ⟨-, rfl⟩ := of_send_taken h
    rw [hsent, Connection.stamped_cons, List.append_assoc, List.singleton_append]
  · rw [accepted_cons_of_send h, List.cons_prefix_cons]
    exact ⟨rfl, hprefix⟩
  · rw [accepted_cons_of_send h, hover he]

end Outbox

def Signal.isLast : Signal → Bool
  | .disconnected => true
  | _ => false

namespace Connection

variable {c : Connection} {more : List Json} {ending : Ending} {o' : Outbox}
  {balances : Except (Fault FetchError) (List BalanceEvent)}

def reply (c : Connection) : Signal → List Json
  | .tick => c.heartbeat?.toList
  | _ => []

def wanted (c : Connection) (signals : List Signal) : List Json :=
  c.frames ++ (signals.takeWhile (!·.isLast)).flatMap c.reply

lemma sends_of_begin {acts : List Act} {s s' : Session} {result : Option Ending}
    (h : begin balances s acts = (s', result))
    (hopen : result = none → s'.outbox.Sends more ending o')
    (hended : ∀ e, result = some e → e = ending ∧ s'.outbox = o') :
    s.outbox.Sends (acts.filterMap Act.frame? ++ more) ending o' := by
  induction acts generalizing s with
  | nil =>
    cases h
    exact hopen rfl
  | cons act r ih =>
    cases act with
    | publishBalances =>
      rcases balances with (cause | _) | es
      · exact ih h
      · cases h
        obtain ⟨rfl, rfl⟩ := hended _ rfl
        exact .crashed _ _
      · exact ih (s := { s with hub := s.hub.publish (es.map .balance) }) h
    | send frame =>
      rw [begin] at h
      rcases hsend : s.outbox.send frame with ⟨outbox, taken⟩
      rw [hsend] at h
      cases taken with
      | true => exact (ih (s := { s with outbox }) h).cons hsend
      | false =>
        cases h
        obtain ⟨rfl, rfl⟩ := hended _ rfl
        exact .full hsend _ _
    | track symbol => exact ih (s := { s with hub := s.hub.subscribe symbol }) h

lemma sends_of_listen (signals : List Signal) (s : Session) :
    s.outbox.Sends ((signals.takeWhile (!·.isLast)).flatMap c.reply) (c.listen s signals).2
      (c.listen s signals).1.outbox := by
  induction signals generalizing s with
  | nil => exact .nil _ _
  | cons signal r ih =>
    cases signal with
    | text frame time =>
      rw [listen]
      split
      · exact .crashed _ _
      · exact ih { s with hub := s.hub.react _ }
    | trouble detail => exact ih s
    | tick =>
      rw [List.takeWhile_cons_of_pos rfl, List.flatMap_cons, reply, listen]
      cases c.heartbeat? with
      | none => exact ih s
      | some ping =>
        dsimp only
        rcases hsend : s.outbox.send ping with ⟨outbox, taken⟩
        cases taken with
        | true => exact (ih { s with outbox }).cons hsend
        | false => exact .full hsend _ _
    | answered f result time => exact ih { s with hub := s.hub.answer f result time }
    | disconnected => exact .nil _ _

lemma sends_of_session (c : Connection) (hub : Hub) (script : Script) :
    (Outbox.fresh script.room).Sends (c.wanted script.signals) (c.session hub script).2
      (c.session hub script).1.outbox := by
  rw [wanted, ← filterMap_acts, session]
  rcases hb : begin script.balances ⟨hub, .fresh script.room⟩ c.acts with ⟨s, _ | ending⟩
  · exact sends_of_begin hb (fun _ => sends_of_listen script.signals s) nofun
  · refine sends_of_begin hb nofun fun e he => ?_
    cases he
    exact ⟨rfl, rfl⟩

inductive Numbered : Nat → List Json → List Json → Prop
  | nil (id : Nat) : Numbered id [] []
  | cons {id : Nat} {frames sent : List Json} {members : Table Json}
      (number : members.lookup "id" = some (.ofNat id)) (rest : Numbered (id + 1) frames sent) :
      Numbered id (.obj (members.erase "id") :: frames) (.obj members :: sent)

def IsBlank (frame : Json) : Prop :=
  ∃ members : Table Json, frame = .obj members ∧ "id" ∉ members.names

lemma isBlank_record {members : List (String × Json)} (h : "id" ∉ members.map Prod.fst) :
    IsBlank (.record members) :=
  ⟨_, rfl, mt Table.mem_names_ofList.mp h⟩

lemma numbered_stamped {frames : List Json} (h : ∀ frame ∈ frames, IsBlank frame) (first : Nat) :
    Numbered first frames (stamped first frames) := by
  induction frames generalizing first with
  | nil => exact .nil first
  | cons frame r ih =>
    obtain ⟨⟨members, rfl, hid⟩, hr⟩ := List.forall_mem_cons.mp h
    have hnumber : (members.insert "id" (.ofNat first)).lookup "id" = some (.ofNat first) := by
      rw [Table.lookup_insert, if_pos rfl]
    have hcons := Numbered.cons hnumber (ih hr (first + 1))
    rw [Table.erase_insert hid] at hcons
    rwa [stamped_cons]

lemma isBlank_of_mem_subscribeFrames {venue : Venue} {channel : Channel} {ids : List String}
    {account : Option String} {frame : Json}
    (h : frame ∈ venue.subscribeFrames channel ids account) : IsBlank frame := by
  cases venue with
  | kucoin =>
    have htopic : ∀ topic isPrivate, IsBlank (Kucoin.subscribeFrame topic isPrivate) :=
      fun _ _ => isBlank_record (by simp)
    rw [Venue.subscribeFrames, Kucoin.subscribeFrames] at h
    split at h
    · exact List.mem_singleton.mp h ▸ htopic _ true
    · obtain ⟨group, -, rfl⟩ := List.mem_map.mp h
      exact htopic _ false
  | vertex =>
    obtain ⟨venueId, -, rfl⟩ := List.mem_map.mp h
    exact isBlank_record (by simp)

lemma isBlank_of_heartbeat? {ping : Json} (h : c.heartbeat? = some ping) : IsBlank ping := by
  rw [heartbeat?] at h
  split at h
  · cases h
  · cases hv : c.venue with
    | kucoin =>
      rw [hv] at h
      cases h
      exact ⟨_, rfl, by simp [Table.names]⟩
    | vertex =>
      rw [hv] at h
      cases h

lemma isBlank_of_mem_wanted {signals : List Signal} {frame : Json} (h : frame ∈ c.wanted signals) :
    IsBlank frame := by
  rcases List.mem_append.mp h with h | h
  · obtain ⟨channel, -, -, h⟩ := mem_frames_iff.mp h
    exact isBlank_of_mem_subscribeFrames h
  · obtain ⟨signal, -, h⟩ := List.mem_flatMap.mp h
    cases signal with
    | tick => exact isBlank_of_heartbeat? (Option.mem_toList.mp h)
    | _ => exact absurd h List.not_mem_nil

lemma exists_numbered (c : Connection) (hub : Hub) (script : Script) :
    ∃ taken, Numbered 1 taken (c.session hub script).1.outbox.sent ∧
      taken <+: (Outbox.fresh script.room).accepted (c.wanted script.signals) ∧
        ((c.session hub script).2 = .over →
          taken = (Outbox.fresh script.room).accepted (c.wanted script.signals)) := by
  obtain ⟨taken, hsent, hprefix, hover⟩ := c.sends_of_session hub script
  refine ⟨taken, ?_, hprefix, hover⟩
  have hwanted : taken <+: c.wanted script.signals := hprefix.trans (Outbox.accepted_prefix _ _)
  have hblank : ∀ frame ∈ taken, IsBlank frame := fun _ hf =>
    isBlank_of_mem_wanted (hwanted.subset hf)
  rw [hsent]
  exact numbered_stamped hblank 1

end Connection

namespace Kucoin

/-- The topics of a public channel list all identifiers in order, a hundred in a frame, and are
read as topics of that channel. What a session sends of its frames is numbered from one. -/
theorem subscriptions_grouped_and_numbered :
    (∀ (channel : Channel) (ids : List String), channel.isPrivate = false →
      (subscribeFrames channel ids).length = ids.length ⌈/⌉ (100 : Nat) ∧
        ∃ groups, groups.flatten = ids ∧
          (∀ group ∈ groups, 1 ≤ group.length ∧ group.length ≤ 100) ∧
            List.Forall₂ (Lists channel) groups (subscribeFrames channel ids)) ∧
    (∀ channel topic, channel? topic = some channel ↔
      topic = topicOf channel ∨ ∃ suffix, topic = topicOf channel ++ ":" ++ suffix) ∧
    ∀ (c : Connection) (hub : Hub) (script : Script),
      ∃ taken, Connection.Numbered 1 taken (c.session hub script).1.outbox.sent ∧
        taken <+: (Outbox.fresh script.room).accepted (c.wanted script.signals) ∧
          ((c.session hub script).2 = .over →
            taken = (Outbox.fresh script.room).accepted (c.wanted script.signals)) := by
  refine ⟨fun channel ids hpublic => ?_, fun _ _ => channel?_eq_some_iff,
    Connection.exists_numbered⟩
  have hpos : 0 < symbolsPerFrame := by decide
  have hlists := lists_subscribeFrames hpublic ids
  refine ⟨?_, chunks symbolsPerFrame ids, flatten_chunks hpos ids,
    fun group hgroup => length_of_mem_chunks hpos hgroup, hlists⟩
  rw [← hlists.length_eq]
  exact length_chunks hpos ids

theorem subscriptions_of_a_colon_and_a_comma :
    let dir : Directory := ⟨.kucoin, [("A-B", ⟨.of "A" "B" .spot, "A,B"⟩),
      ("BTC-USDT", ⟨.of "BTC" "USDT" .spot, "BTC:USDT"⟩)]⟩
    let c : Connection := ⟨0, none, [.trades], ["BTC-USDT", "A-B"], .kucoin, dir, 3, 30⟩
    let hub : Hub := ⟨.empty .kucoin none, ⟨0, 0, true, []⟩, []⟩
    let script : Script := ⟨.ok [], some 2, [.tick, .tick]⟩
    let topic := "/market/match:BTC:USDT,A,B"
    Channel.isPrivate .trades = false ∧ (subscribeFrames .trades c.venueIds).length = 1 ∧
      channel? topic = some .trades ∧ (c.session hub script).2 = .over ∧
        Connection.Numbered 1 [subscribeFrame topic false, heartbeat]
          (c.session hub script).1.outbox.sent := by
  intro dir c hub script topic
  obtain ⟨hgrouped, hclassified, hnumbered⟩ := subscriptions_grouped_and_numbered
  have hover : (c.session hub script).2 = .over := rfl
  obtain ⟨taken, hsent, -, htaken⟩ := hnumbered c hub script
  rw [htaken hover] at hsent
  have hpublic : Channel.isPrivate .trades = false := rfl
  have hone : c.venueIds.length ⌈/⌉ (100 : Nat) = 1 := by
    rw [Nat.ceilDiv_eq_add_pred_div, show c.venueIds.length = 2 from rfl]
  exact ⟨hpublic, (hgrouped .trades c.venueIds hpublic).1.trans hone,
    (hclassified .trades topic).mpr (.inr ⟨"BTC:USDT,A,B", rfl⟩), hover, hsent⟩

end Kucoin

end MarketFeed
