import Mathlib.Data.List.TakeWhile
import MarketFeed.Proofs.Venue.Subscription

namespace MarketFeed.Kucoin

variable {channel c : Channel} {topic : String}

lemma topicOf_injective : Function.Injective topicOf := by
  intro a b h
  cases a <;> cases b <;> first | rfl | exact absurd h (by decide)

lemma no_colon_topicOf (c : Channel) : ∀ x ∈ (topicOf c).toList, (x != ':') = true := by
  cases c <;> simp [topicOf]

lemma channel?_eq_some_iff_head :
    channel? topic = some c ↔ (topicOf c).toList = topic.toList.takeWhile (· != ':') := by
  have hall : ∀ c, c ∈ Channel.all := fun c => by cases c <;> decide
  rw [← String.toList_ofList (l := topic.toList.takeWhile (· != ':')), String.toList_inj, channel?]
  constructor
  · intro h
    have hc := List.find?_some h
    exact beq_iff_eq.mp hc
  · intro h
    rw [← h]
    cases hfound : Channel.all.find? fun c' => topicOf c' == topicOf c with
    | none => exact absurd (beq_self_eq_true _) (List.find?_eq_none.mp hfound c (hall c))
    | some c' =>
      have hc := List.find?_some hfound
      rw [topicOf_injective (beq_iff_eq.mp hc)]

lemma takeWhile_append_colon {a b : List Char} (h : ∀ x ∈ a, (x != ':') = true) :
    (a ++ ':' :: b).takeWhile (· != ':') = a := by
  rw [List.takeWhile_append_of_pos h, List.takeWhile_cons_of_neg (by decide), List.append_nil]

lemma channel?_eq_some_iff :
    channel? topic = some c ↔
      topic = topicOf c ∨ ∃ suffix, topic = topicOf c ++ ":" ++ suffix := by
  rw [channel?_eq_some_iff_head]
  constructor
  · intro h
    have hsplit := List.takeWhile_append_dropWhile (p := (· != ':')) (l := topic.toList)
    rw [← h] at hsplit
    cases hrest : topic.toList.dropWhile (· != ':') with
    | nil =>
      rw [hrest, List.append_nil] at hsplit
      exact Or.inl (String.toList_inj.mp hsplit.symm)
    | cons x r =>
      have hx : x = ':' := by
        have hhead := List.head?_dropWhile_not (· != ':') topic.toList
        rw [hrest] at hhead
        simpa using hhead
      refine Or.inr ⟨String.ofList r, String.toList_inj.mp ?_⟩
      rw [← hsplit, hrest, hx, String.toList_append, String.toList_append, List.append_assoc]
      exact congrArg _ (congrArg _ String.toList_ofList.symm)
  · rintro (rfl | ⟨suffix, rfl⟩)
    · exact (List.takeWhile_eq_self_iff.mpr (no_colon_topicOf c)).symm
    · rw [String.toList_append, String.toList_append, List.append_assoc]
      exact (takeWhile_append_colon (no_colon_topicOf c)).symm

def Lists (channel : Channel) (group : List String) (frame : Json) : Prop :=
  ∃ topic, frame.textField? "topic" = some topic ∧
    topic = topicOf channel ++ ":" ++ String.intercalate "," group ∧ channel? topic = some channel

lemma lists_subscribeFrame (channel : Channel) (group : List String) :
    Lists channel group
      (subscribeFrame (topicOf channel ++ ":" ++ String.intercalate "," group) false) :=
  ⟨_, (fields_subscribeFrame _ false).2.2, rfl, channel?_eq_some_iff.mpr (Or.inr ⟨_, rfl⟩)⟩

lemma lists_subscribeFrames (h : channel.isPrivate = false) (ids : List String) :
    List.Forall₂ (Lists channel) (chunks symbolsPerFrame ids) (subscribeFrames channel ids) := by
  rw [subscribeFrames, if_neg (by simp [h]), List.forall₂_map_right_iff, List.forall₂_same]
  exact fun group _ => lists_subscribeFrame channel group

end MarketFeed.Kucoin
