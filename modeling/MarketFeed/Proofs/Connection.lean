import Mathlib.Tactic.Lemma
import MarketFeed.Connection

namespace MarketFeed

def Act.frame? : Act → Option Json
  | .publishBalances => none
  | .send frame => some frame
  | .track _ => none

namespace Connection

variable {c : Connection} {sent : List Json}
  {balances : Except (Fault FetchError) (List BalanceEvent)}

def Opens (c : Connection) (sent : List Json) : Prop :=
  ∃ balances hub room s, begin balances ⟨hub, .fresh room⟩ c.acts = (s, none) ∧
    s.outbox.sent = sent

def stamped (first : Nat) (frames : List Json) : List Json :=
  frames.mapIdx fun i frame => Outbox.stamp (first + i) frame

lemma stamped_cons (first : Nat) (frame : Json) (frames : List Json) :
    stamped first (frame :: frames) = Outbox.stamp first frame :: stamped (first + 1) frames := by
  simp [stamped, List.mapIdx_cons, Nat.add_assoc, Nat.add_comm 1]

lemma sent_of_begin {s s' : Session} {acts : List Act}
    (h : begin balances s acts = (s', none)) :
    s'.outbox.sent = s.outbox.sent ++ stamped s.outbox.nextId (acts.filterMap Act.frame?) := by
  induction acts generalizing s with
  | nil =>
    cases h
    exact (List.append_nil _).symm
  | cons act r ih =>
    cases act with
    | publishBalances =>
      rcases balances with (cause | _) | es
      · exact ih h
      · cases h
      · exact ih (s := { s with hub := s.hub.publish (es.map .balance) }) h
    | send frame =>
      rw [begin, Outbox.send] at h
      by_cases hf : s.outbox.isFull = true
      · rw [if_pos hf] at h
        cases h
      · rw [if_neg hf] at h
        rw [ih h, List.append_assoc]
        change _ = s.outbox.sent ++ stamped s.outbox.nextId (frame :: r.filterMap Act.frame?)
        rw [stamped_cons]
        rfl
    | track symbol => exact ih (s := { s with hub := s.hub.subscribe symbol }) h

lemma begin_of_no_limit {s : Session} (hr : s.outbox.room = none) (acts : List Act) :
    (begin (.ok []) s acts).2 = none := by
  induction acts generalizing s with
  | nil => rfl
  | cons act r ih =>
    cases act with
    | publishBalances => exact ih hr
    | send frame =>
      rw [begin, Outbox.send, if_neg (by simp [Outbox.isFull, hr])]
      exact ih hr
    | track symbol =>
      rw [begin]
      exact ih hr

lemma filterMap_acts (c : Connection) : c.acts.filterMap Act.frame? = c.frames := by
  have hsend : ∀ frames : List Json, (frames.map Act.send).filterMap Act.frame? = frames := by
    intro frames
    rw [List.filterMap_map]
    exact List.filterMap_some
  have htrack : c.trackActs.filterMap Act.frame? = [] := by
    rw [trackActs]
    split
    · rw [List.filterMap_map]
      exact List.filterMap_eq_nil_iff.mpr fun _ _ => rfl
    · rfl
  have hchannel : ∀ channel, (c.channelActs channel).filterMap Act.frame? =
      if c.carries channel then c.venue.subscribeFrames channel c.venueIds c.account else [] := by
    intro channel
    rw [channelActs]
    split
    · rw [List.filterMap_append, hsend]
      split <;> rfl
    · rfl
  rw [acts, frames, List.filterMap_append, htrack, List.append_nil]
  generalize c.channels = channels
  induction channels with
  | nil => rfl
  | cons channel r ih =>
    rw [List.flatMap_cons, List.filterMap_append, hchannel, ih, List.filter_cons]
    split <;> rfl

lemma opens_iff : c.Opens sent ↔ sent = stamped 1 c.frames := by
  constructor
  · rintro ⟨balances, hub, room, s, h, rfl⟩
    rw [sent_of_begin h, filterMap_acts]
    rfl
  · rintro rfl
    let hub : Hub := ⟨.empty c.venue.exchange none, ⟨0, 0, true, []⟩, []⟩
    have hb : begin (.ok []) ⟨hub, .fresh none⟩ c.acts =
        ((begin (.ok []) ⟨hub, .fresh none⟩ c.acts).1, none) :=
      Prod.ext rfl (begin_of_no_limit rfl c.acts)
    refine ⟨_, hub, none, _, hb, ?_⟩
    rw [sent_of_begin hb, filterMap_acts]
    rfl

lemma mem_frames_iff {frame : Json} :
    frame ∈ c.frames ↔ ∃ channel ∈ c.channels, c.carries channel = true ∧
      frame ∈ c.venue.subscribeFrames channel c.venueIds c.account := by
  simp only [frames, List.mem_flatMap, List.mem_filter, and_assoc]

end Connection

end MarketFeed
