import Mathlib.Algebra.Order.Floor.Div
import MarketFeed.Connection
import MarketFeed.Proofs.Table

namespace MarketFeed

section Chunks

variable {α : Type} {n : Nat}

lemma length_drop_cons_le {fuel : Nat} {x : α} {r : List α} (hn : 0 < n)
    (h : (x :: r).length ≤ fuel + 1) : ((x :: r).drop n).length ≤ fuel := by
  rw [List.length_drop]
  omega

lemma flatten_chunksFrom (hn : 0 < n) {fuel : Nat} {xs : List α} (h : xs.length ≤ fuel) :
    (chunksFrom fuel n xs).flatten = xs := by
  induction fuel generalizing xs with
  | zero =>
    rw [List.length_eq_zero_iff.mp (Nat.le_zero.mp h)]
    rfl
  | succ fuel ih =>
    cases xs with
    | nil => rfl
    | cons x r =>
      change ((x :: r).take n :: chunksFrom fuel n ((x :: r).drop n)).flatten = _
      rw [List.flatten_cons, ih (length_drop_cons_le hn h), List.take_append_drop]

lemma flatten_chunks (hn : 0 < n) (xs : List α) : (chunks n xs).flatten = xs :=
  flatten_chunksFrom hn (Nat.le_refl xs.length)

lemma length_of_mem_chunksFrom (hn : 0 < n) {fuel : Nat} {xs part : List α}
    (h : part ∈ chunksFrom fuel n xs) : 0 < part.length ∧ part.length ≤ n := by
  induction fuel generalizing xs with
  | zero => exact absurd h List.not_mem_nil
  | succ fuel ih =>
    cases xs with
    | nil => exact absurd h List.not_mem_nil
    | cons x r =>
      rcases List.mem_cons.mp h with rfl | h
      · rw [List.length_take, List.length_cons]
        omega
      · exact ih h

lemma ceilDiv_eq_succ {len : Nat} (hn : 0 < n) (h : 0 < len) :
    len ⌈/⌉ n = (len - n) ⌈/⌉ n + 1 := by
  rw [Nat.ceilDiv_eq_add_pred_div, Nat.ceilDiv_eq_add_pred_div, ← Nat.add_div_right _ hn]
  by_cases hle : n ≤ len
  · congr 1
    omega
  · rw [Nat.div_eq_of_lt_le (k := 1), Nat.div_eq_of_lt_le (k := 1)] <;> omega

lemma length_chunksFrom (hn : 0 < n) {fuel : Nat} {xs : List α} (h : xs.length ≤ fuel) :
    (chunksFrom fuel n xs).length = xs.length ⌈/⌉ n := by
  induction fuel generalizing xs with
  | zero =>
    rw [Nat.le_zero.mp h, zero_ceilDiv]
    rfl
  | succ fuel ih =>
    cases xs with
    | nil => exact (zero_ceilDiv n).symm
    | cons x r =>
      have hpos : 0 < (x :: r).length := Nat.zero_lt_succ _
      rw [ceilDiv_eq_succ hn hpos, ← List.length_drop, ← ih (length_drop_cons_le hn h)]
      rfl

lemma length_of_mem_chunks (hn : 0 < n) {xs part : List α} (h : part ∈ chunks n xs) :
    0 < part.length ∧ part.length ≤ n := length_of_mem_chunksFrom hn h

lemma length_chunks (hn : 0 < n) (xs : List α) : (chunks n xs).length = xs.length ⌈/⌉ n :=
  length_chunksFrom hn (Nat.le_refl xs.length)

end Chunks

namespace Json

lemma get?_record (members : List (String × Json)) (name : String) :
    (record members).get? name = (Table.ofList members).lookup name := rfl

lemma get?_stamp {name : String} (h : name ≠ "id") (id : Nat) (frame : Json) :
    (Outbox.stamp id frame).get? name = frame.get? name := by
  cases frame with
  | obj members =>
    change (Table.insert members "id" (.ofNat id)).lookup name = members.lookup name
    rw [Table.lookup_insert, if_neg h]
  | _ => rfl

end Json

namespace Kucoin

variable {channel : Channel} {venueId : String} {ids : List String}

def Covers (channel : Channel) (venueId : String) (frame : Json) : Prop :=
  frame.textField? "type" = some "subscribe" ∧
    frame.get? "privateChannel" = some (.bool channel.isPrivate) ∧
      ∃ topic, frame.textField? "topic" = some topic ∧
        if channel.isPrivate then topic = topicOf channel
        else ∃ ids, venueId ∈ ids ∧ topic = topicOf channel ++ ":" ++ String.intercalate "," ids

lemma fields_subscribeFrame (topic : String) (isPrivate : Bool) :
    (subscribeFrame topic isPrivate).textField? "type" = some "subscribe" ∧
      (subscribeFrame topic isPrivate).get? "privateChannel" = some (.bool isPrivate) ∧
        (subscribeFrame topic isPrivate).textField? "topic" = some topic := by
  simp [subscribeFrame, Json.textField?, Json.get?_record, Table.ofList, Json.text?]

lemma exists_covers (h : channel.isPrivate = true ∨ venueId ∈ ids) :
    ∃ frame ∈ subscribeFrames channel ids, Covers channel venueId frame := by
  rw [subscribeFrames]
  cases hp : channel.isPrivate with
  | true =>
    obtain ⟨htype, hprivate, htopic⟩ := fields_subscribeFrame (topicOf channel) true
    refine ⟨_, List.mem_singleton.mpr rfl, htype, hp ▸ hprivate, _, htopic, ?_⟩
    rw [if_pos hp]
  | false =>
    have hmem : venueId ∈ (chunks symbolsPerFrame ids).flatten := by
      rw [flatten_chunks (by decide)]
      exact h.resolve_left (by simp [hp])
    obtain ⟨part, hpart, hid⟩ := List.mem_flatten.mp hmem
    obtain ⟨htype, hprivate, htopic⟩ := fields_subscribeFrame
      (topicOf channel ++ ":" ++ String.intercalate "," part) false
    refine ⟨_, List.mem_map.mpr ⟨part, hpart, rfl⟩, htype, hp ▸ hprivate, _, htopic, ?_⟩
    rw [if_neg (by simp [hp])]
    exact ⟨part, hid, rfl⟩

end Kucoin

namespace Vertex

variable {channel channel' : Channel} {account : Option String} {venueId venueId' : String}

def Covers (channel : Channel) (venueId : String) (frame : Json) : Prop :=
  frame.textField? "method" = some "subscribe" ∧ ∃ stream, frame.get? "stream" = some stream ∧
    stream.textField? "type" = some (topicOf channel) ∧
      stream.get? "product_id" = some (productJson venueId)

lemma topicOf_injective : Function.Injective topicOf := by
  intro a b h
  cases a <;> cases b <;> first | rfl | exact absurd h (by decide)

lemma accountMember_cases (channel : Channel) (account : Option String) :
    accountMember channel account = [] ∨
      ∃ a, accountMember channel account = [("subaccount", .str a)] := by
  rw [accountMember]
  cases channel.isPrivate <;> cases account <;> simp

lemma fields_subscribeFrame (channel : Channel) (account : Option String) (venueId : String) :
    (subscribeFrame channel account venueId).textField? "method" = some "subscribe" ∧
      ∃ stream, (subscribeFrame channel account venueId).get? "stream" = some stream ∧
        stream.textField? "type" = some (topicOf channel) ∧
          stream.get? "product_id" = some (productJson venueId) := by
  have hmethod : (subscribeFrame channel account venueId).get? "method" =
      some (.str "subscribe") := by
    simp [subscribeFrame, Json.get?_record, Table.ofList]
  have hstream : (subscribeFrame channel account venueId).get? "stream" =
      some (.record ([("type", .str (topicOf channel)), ("product_id", productJson venueId)] ++
        accountMember channel account)) := by
    simp [subscribeFrame, Json.get?_record, Table.ofList]
  refine ⟨by rw [Json.textField?, hmethod]; rfl, _, hstream, ?_⟩
  rcases accountMember_cases channel account with h | ⟨a, h⟩
  · simp [h, Json.textField?, Json.get?_record, Table.ofList, Json.text?]
  · simp [h, Json.textField?, Json.get?_record, Table.ofList, Json.text?]

lemma covers_subscribeFrame_iff :
    Covers channel venueId (subscribeFrame channel' account venueId') ↔
      channel' = channel ∧ productJson venueId' = productJson venueId := by
  obtain ⟨hmethod, stream, hstream, htype, hproduct⟩ :=
    fields_subscribeFrame channel' account venueId'
  constructor
  · rintro ⟨_, stream', hstream', htype', hproduct'⟩
    obtain rfl := Option.some.inj (hstream.symm.trans hstream')
    exact ⟨topicOf_injective (Option.some.inj (htype.symm.trans htype')),
      Option.some.inj (hproduct.symm.trans hproduct')⟩
  · rintro ⟨rfl, hp⟩
    exact ⟨hmethod, stream, hstream, htype, hp ▸ hproduct⟩

lemma exists_covers_iff {ids : List String} :
    (∃ frame ∈ subscribeFrames channel' ids account, Covers channel venueId frame) ↔
      channel' = channel ∧ ∃ v ∈ ids, productJson v = productJson venueId := by
  simp only [subscribeFrames, List.mem_map]
  constructor
  · rintro ⟨frame, ⟨v, hv, rfl⟩, hf⟩
    obtain ⟨hc, hp⟩ := covers_subscribeFrame_iff.mp hf
    exact ⟨hc, v, hv, hp⟩
  · rintro ⟨hc, v, hv, hp⟩
    exact ⟨_, ⟨v, hv, rfl⟩, covers_subscribeFrame_iff.mpr ⟨hc, hp⟩⟩

end Vertex

namespace Venue

/-- The frame asks for the channel's messages about the symbol of that identifier. -/
def Covers : Venue → Channel → String → Json → Prop
  | kucoin => Kucoin.Covers
  | vertex => Vertex.Covers

variable {venue : Venue} {channel : Channel} {venueId : String}

lemma covers_stamp {id : Nat} {frame : Json} :
    venue.Covers channel venueId (Outbox.stamp id frame) ↔ venue.Covers channel venueId frame := by
  have hget : ∀ name, name ≠ "id" →
      (Outbox.stamp id frame).get? name = frame.get? name := fun name hn =>
    Json.get?_stamp hn id frame
  cases venue with
  | kucoin =>
    simp only [Covers, Kucoin.Covers, Json.textField?, hget "type" (by decide),
      hget "privateChannel" (by decide), hget "topic" (by decide)]
  | vertex =>
    simp only [Covers, Vertex.Covers, Json.textField?, hget "method" (by decide),
      hget "stream" (by decide)]

lemma exists_covers {ids : List String} (account : Option String)
    (h : venue = .kucoin ∧ channel.isPrivate = true ∨ venueId ∈ ids) :
    ∃ frame ∈ venue.subscribeFrames channel ids account, venue.Covers channel venueId frame := by
  cases venue with
  | kucoin => exact Kucoin.exists_covers (h.imp_left And.right)
  | vertex =>
    have hid : venueId ∈ ids := h.resolve_left (by simp)
    exact Vertex.exists_covers_iff.mpr ⟨rfl, venueId, hid, rfl⟩

end Venue

end MarketFeed
