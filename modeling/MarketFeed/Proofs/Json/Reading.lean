import MarketFeed.Proofs.Json.Literal
import MarketFeed.Proofs.Json.Tree

namespace MarketFeed.Json

variable {v : Json} {items : List Json} {members : List (String × Json)} {cs r : List Char}
  {fuel level : Nat}

def IsNumeral : Json → Prop
  | .num literal => IsLiteral literal.toList
  | _ => True

def Numbered : Json → Prop := Everywhere IsNumeral

lemma numbered_ofItems (h : ∀ v ∈ items, v.Numbered) : (ofItems level items).Numbered := by
  rw [ofItems]
  split
  · exact everywhere_arr_iff.mpr ⟨trivial, h⟩
  · simp [Numbered, Everywhere, parts, IsNumeral]

lemma mem_of_namedMembers {named : List (Option String × Json)} {m : String × Json}
    (h : namedMembers named = some members) (hm : m ∈ members) : ∃ e ∈ named, e.2 = m.2 := by
  induction named generalizing members with
  | nil =>
    cases h
    cases hm
  | cons e t ih =>
    obtain ⟨o, v⟩ := e
    obtain ⟨n, _, h⟩ := Option.bind_eq_some_iff.mp h
    obtain ⟨rest, hrest, rfl⟩ := Option.map_eq_some_iff.mp h
    rcases List.mem_cons.mp hm with rfl | hm
    · exact ⟨(o, v), List.mem_cons_self, rfl⟩
    · obtain ⟨e, he, hv⟩ := ih hrest hm
      exact ⟨e, List.mem_cons_of_mem _ he, hv⟩

lemma numbered_ofMembers {named : List (Option String × Json)} (h : ∀ m ∈ named, m.2.Numbered) :
    (ofMembers level named).Numbered := by
  rw [ofMembers]
  split
  · rename_i hn
    split
    · refine everywhere_obj_iff.mpr ⟨trivial, fun m hm => ?_⟩
      obtain ⟨e, he, hv⟩ := mem_of_namedMembers hn hm
      exact hv ▸ h e he
    · simp [Numbered, Everywhere, parts, IsNumeral]
  · simp [Numbered, Everywhere, parts, IsNumeral]

structure ReadsLiterals (fuel : Nat) : Prop where
  value : ∀ level cs v r, readValue fuel level cs = some (v, r) → v.Numbered
  items : ∀ level cs vs r, readItems fuel level cs = some (vs, r) → ∀ v ∈ vs, v.Numbered
  members : ∀ level cs ms r, readMembers fuel level cs = some (ms, r) → ∀ m ∈ ms, m.2.Numbered

lemma ReadsLiterals.value_succ (ih : ReadsLiterals fuel)
    (h : readValue (fuel + 1) level cs = some (v, r)) : v.Numbered := by
  rw [readValue.eq_def] at h
  simp only at h
  split at h
  · obtain ⟨⟨s, t⟩, _, he⟩ := Option.map_eq_some_iff.mp h
    cases he
    cases s <;> simp [Numbered, Everywhere, parts, IsNumeral]
  · split at h
    · cases h
      exact numbered_ofItems (by simp)
    · obtain ⟨⟨vs, t⟩, hr, he⟩ := Option.map_eq_some_iff.mp h
      cases he
      exact numbered_ofItems (ih.items _ _ _ _ hr)
  · split at h
    · cases h
      exact numbered_ofMembers (by simp)
    · obtain ⟨⟨ms, t⟩, hr, he⟩ := Option.map_eq_some_iff.mp h
      cases he
      exact numbered_ofMembers (ih.members _ _ _ _ hr)
  · cases h
    simp [Numbered, Everywhere, parts, IsNumeral]
  · cases h
    simp [Numbered, Everywhere, parts, IsNumeral]
  · cases h
    simp [Numbered, Everywhere, parts, IsNumeral]
  · obtain ⟨⟨ds, t⟩, hr, he⟩ := Option.map_eq_some_iff.mp h
    cases he
    obtain ⟨_, hk, _⟩ := readNumber_eq_some hr
    simpa [Numbered, Everywhere, parts, IsNumeral] using hk.isLiteral

lemma ReadsLiterals.items_succ (ih : ReadsLiterals fuel) {vs : List Json}
    (h : readItems (fuel + 1) level cs = some (vs, r)) : ∀ v ∈ vs, v.Numbered := by
  rw [readItems.eq_def] at h
  obtain ⟨⟨v, t⟩, hv, h⟩ := Option.bind_eq_some_iff.mp h
  have hv := ih.value _ _ _ _ hv
  simp only at h
  split at h
  · obtain ⟨⟨vs, t⟩, hvs, he⟩ := Option.map_eq_some_iff.mp h
    cases he
    exact List.forall_mem_cons.mpr ⟨hv, ih.items _ _ _ _ hvs⟩
  · cases h
    exact List.forall_mem_singleton.mpr hv
  · cases h

lemma ReadsLiterals.members_succ (ih : ReadsLiterals fuel) {ms : List (Option String × Json)}
    (h : readMembers (fuel + 1) level cs = some (ms, r)) : ∀ m ∈ ms, m.2.Numbered := by
  rw [readMembers.eq_def] at h
  simp only at h
  split at h
  · obtain ⟨⟨n, t⟩, _, h⟩ := Option.bind_eq_some_iff.mp h
    simp only at h
    split at h
    · obtain ⟨⟨v, t⟩, hv, h⟩ := Option.bind_eq_some_iff.mp h
      have hv := ih.value _ _ _ _ hv
      simp only at h
      split at h
      · obtain ⟨⟨ms, t⟩, hms, he⟩ := Option.map_eq_some_iff.mp h
        cases he
        exact List.forall_mem_cons.mpr ⟨hv, ih.members _ _ _ _ hms⟩
      · cases h
        exact List.forall_mem_singleton.mpr hv
      · cases h
    · cases h
  · cases h

lemma readsLiterals (fuel : Nat) : ReadsLiterals fuel := by
  induction fuel with
  | zero => exact ⟨by simp [readValue], by simp [readItems], by simp [readMembers]⟩
  | succ fuel ih =>
    exact ⟨fun _ _ _ _ h => ih.value_succ h, fun _ _ _ _ h => ih.items_succ h,
      fun _ _ _ _ h => ih.members_succ h⟩

lemma numbered_of_parse? {s : String} (h : parse? s = some v) : v.Numbered := by
  obtain ⟨⟨w, t⟩, hr, h⟩ := Option.bind_eq_some_iff.mp h
  simp only at h
  split at h
  · cases h
    exact (readsLiterals _).value _ _ _ _ hr
  · cases h

end MarketFeed.Json
