import MarketFeed.Proofs.Json.Printing
import MarketFeed.Proofs.Json.Reading
import MarketFeed.Proofs.Table

namespace MarketFeed.Json

variable {v w : Json} {items items' : List Json} {members members' : List (String × Json)}

def IsKept : Json → Prop
  | .num literal => IsLiteral literal.toList
  | .obj members => (members.map Prod.fst).Pairwise (· < ·) ∧
      (standsForNumber members = true → members.length ≠ 1)
  | .refused => False
  | _ => True

def Kept : Json → Prop := Everywhere IsKept

lemma Kept.printable (h : v.Kept) : v.Printable := h.mono fun w hw => by cases w <;> trivial

lemma mem_of_canonicalItems? (h : canonicalItems? items = some items') (hv : v ∈ items') :
    ∃ w ∈ items, canonical? w = some v := by
  induction items generalizing items' with
  | nil =>
    cases h
    cases hv
  | cons w r ih =>
    obtain ⟨w', hw, h⟩ := Option.bind_eq_some_iff.mp h
    obtain ⟨r', hr, rfl⟩ := Option.map_eq_some_iff.mp h
    rcases List.mem_cons.mp hv with rfl | hv
    · exact ⟨w, List.mem_cons_self, hw⟩
    · obtain ⟨x, hx, hxv⟩ := ih hr hv
      exact ⟨x, List.mem_cons_of_mem w hx, hxv⟩

lemma mem_of_canonicalMembers? {m : String × Json}
    (h : canonicalMembers? members = some members') (hm : m ∈ members') :
    ∃ e ∈ members, canonical? e.2 = some m.2 := by
  induction members generalizing members' with
  | nil =>
    cases h
    cases hm
  | cons e r ih =>
    obtain ⟨n, v⟩ := e
    obtain ⟨v', hv, h⟩ := Option.bind_eq_some_iff.mp h
    obtain ⟨r', hr, rfl⟩ := Option.map_eq_some_iff.mp h
    rcases List.mem_cons.mp hm with rfl | hm
    · exact ⟨(n, v), List.mem_cons_self, hv⟩
    · obtain ⟨e, he, hev⟩ := ih hr hm
      exact ⟨e, List.mem_cons_of_mem _ he, hev⟩

lemma names_canonicalMembers? (h : canonicalMembers? members = some members') :
    members'.map Prod.fst = members.map Prod.fst := by
  induction members generalizing members' with
  | nil =>
    cases h
    rfl
  | cons e r ih =>
    obtain ⟨n, v⟩ := e
    obtain ⟨v', _, h⟩ := Option.bind_eq_some_iff.mp h
    obtain ⟨r', hr, rfl⟩ := Option.map_eq_some_iff.mp h
    simp [ih hr]

lemma standsForNumber_iff :
    standsForNumber members = true ↔ (members.map Prod.fst).head? = some numberName := by
  cases members <;> simp [standsForNumber]

lemma length_ofList_ne_one (h : standsForNumber members = false)
    (hs : standsForNumber (Table.ofList members) = true) : (Table.ofList members).length ≠ 1 := by
  intro hlen
  obtain ⟨e, he⟩ := List.length_eq_one_iff.mp hlen
  rw [he] at hs
  have hname : e.1 = numberName := by simpa [standsForNumber_iff] using hs
  cases members with
  | nil => cases he
  | cons m r =>
    -- the first name of the text is kept, so it would be the one
    have hm : m.1 ∈ (Table.ofList (m :: r)).names := by simp [Table.mem_names_ofList]
    rw [he] at hm
    have hm : m.1 = numberName := by simpa [Table.names, hname] using hm
    simp [standsForNumber, hm] at h

lemma kept_record (h : standsForNumber members = false) (hm : ∀ m ∈ members, m.2.Kept) :
    (record members).Kept :=
  everywhere_obj_iff.mpr ⟨⟨Table.names_ofList_pairwise members, length_ofList_ne_one h⟩,
    fun m hmem => hm m (Table.mem_of_mem_ofList hmem)⟩

lemma kept_number? (h : number? members = some v) : v.Kept := by
  rw [number?.eq_def] at h
  split at h
  · obtain ⟨literal, hl, rfl⟩ := Option.map_eq_some_iff.mp h
    intro w hw
    obtain rfl : w = .num literal := by simpa [parts] using hw
    exact literal?_eq_some hl
  · cases h

lemma kept_of_canonical? (h : canonical? w = some v) (hn : w.Numbered) : v.Kept := by
  induction w using induct generalizing v with
  | null =>
    cases h
    simp [Kept, Everywhere, parts, IsKept]
  | bool b =>
    cases h
    simp [Kept, Everywhere, parts, IsKept]
  | num literal =>
    cases h
    have hl : IsLiteral literal.toList := hn.self
    simpa [Kept, Everywhere, parts, IsKept] using hl
  | str s =>
    cases h
    simp [Kept, Everywhere, parts, IsKept]
  | arr items ih =>
    obtain ⟨items', hitems, rfl⟩ := Option.map_eq_some_iff.mp h
    refine everywhere_arr_iff.mpr ⟨trivial, fun x hx => ?_⟩
    obtain ⟨y, hy, hyx⟩ := mem_of_canonicalItems? hitems hx
    exact ih y hy hyx ((everywhere_arr_iff.mp hn).2 y hy)
  | obj members ih =>
    rw [canonical?] at h
    split at h
    · exact kept_number? h
    · rename_i hs
      obtain ⟨members', hmembers, rfl⟩ := Option.map_eq_some_iff.mp h
      refine kept_record ?_ fun m hm => ?_
      · rw [Bool.eq_false_iff, ne_eq, standsForNumber_iff, names_canonicalMembers? hmembers]
        rwa [standsForNumber_iff] at hs
      · obtain ⟨e, he, hem⟩ := mem_of_canonicalMembers? hmembers hm
        exact ih e he hem ((everywhere_obj_iff.mp hn).2 e he)
  | refused => cases h

lemma kept_of_ofText? {s : String} (h : ofText? s = some v) : v.Kept := by
  obtain ⟨w, hw, hv⟩ := Option.bind_eq_some_iff.mp h
  exact kept_of_canonical? hv (numbered_of_parse? hw)

lemma ofText?_compact (hf : Fits 0 w) : ofText? w.compact = canonical? w := by
  rw [ofText?, parse?_compact hf, Option.bind_some]

def isMarked : Json → Bool
  | .obj members => standsForNumber members
  | _ => false

def Plain (v : Json) : Prop := Everywhere (¬·.isMarked) v

instance (v : Json) : Decidable v.Plain := inferInstanceAs (Decidable (Everywhere _ v))

lemma canonicalItems?_self (h : ∀ v ∈ items, canonical? v = some v) :
    canonicalItems? items = some items := by
  induction items with
  | nil => rfl
  | cons v r ih =>
    obtain ⟨hv, hr⟩ := List.forall_mem_cons.mp h
    rw [canonicalItems?, hv, Option.bind_some, ih hr, Option.map_some]

lemma canonicalMembers?_self (h : ∀ m ∈ members, canonical? m.2 = some m.2) :
    canonicalMembers? members = some members := by
  induction members with
  | nil => rfl
  | cons m r ih =>
    obtain ⟨hm, hr⟩ := List.forall_mem_cons.mp h
    rw [canonicalMembers?, hm, Option.bind_some, ih hr, Option.map_some]

theorem canonical?_of_plain (hk : v.Kept) (hp : v.Plain) : canonical? v = some v := by
  induction v using induct with
  | null => rfl
  | bool b => rfl
  | num literal => rfl
  | str s => rfl
  | arr items ih =>
    have hk := (everywhere_arr_iff.mp hk).2
    have hp := (everywhere_arr_iff.mp hp).2
    have hitems := canonicalItems?_self fun v hv => ih v hv (hk v hv) (hp v hv)
    rw [canonical?, hitems, Option.map_some]
  | obj members ih =>
    obtain ⟨⟨hsorted, _⟩, hk⟩ := everywhere_obj_iff.mp hk
    obtain ⟨hmark, hp⟩ := everywhere_obj_iff.mp hp
    rw [isMarked] at hmark
    have hmembers := canonicalMembers?_self fun m hm => ih m hm (hk m hm) (hp m hm)
    rw [canonical?, if_neg hmark, hmembers, Option.map_some, record,
      Table.ofList_of_pairwise hsorted]
  | refused => exact hk.self.elim

lemma canonicalItems?_eq_none (hv : v ∈ items) (h : canonical? v = none) :
    canonicalItems? items = none := by
  induction items with
  | nil => cases hv
  | cons w r ih =>
    rcases List.mem_cons.mp hv with rfl | hv
    · rw [canonicalItems?, h, Option.bind_none]
    · rw [canonicalItems?, ih hv]
      cases canonical? w <;> rfl

lemma canonicalMembers?_eq_none {m : String × Json} (hm : m ∈ members)
    (h : canonical? m.2 = none) : canonicalMembers? members = none := by
  induction members with
  | nil => cases hm
  | cons e r ih =>
    obtain ⟨n, w⟩ := e
    rcases List.mem_cons.mp hm with rfl | hm
    · rw [canonicalMembers?, h, Option.bind_none]
    · rw [canonicalMembers?, ih hm]
      cases canonical? w <;> rfl

lemma number?_eq_none (h : members.length ≠ 1) : number? members = none := by
  rw [number?.eq_def]
  split
  · exact absurd rfl h
  · rfl

theorem canonical?_of_not_plain (hk : v.Kept) (hp : ¬v.Plain) : canonical? v = none := by
  induction v using induct with
  | null => simp [Plain, Everywhere, parts, isMarked] at hp
  | bool b => simp [Plain, Everywhere, parts, isMarked] at hp
  | num literal => simp [Plain, Everywhere, parts, isMarked] at hp
  | str s => simp [Plain, Everywhere, parts, isMarked] at hp
  | arr items ih =>
    have hk := (everywhere_arr_iff.mp hk).2
    obtain ⟨v, hv, hp⟩ : ∃ v ∈ items, ¬v.Plain := by
      by_contra! hall
      exact hp (everywhere_arr_iff.mpr ⟨Bool.false_ne_true, hall⟩)
    rw [canonical?, canonicalItems?_eq_none hv (ih v hv (hk v hv) hp), Option.map_none]
  | obj members ih =>
    obtain ⟨⟨_, hlen⟩, hk⟩ := everywhere_obj_iff.mp hk
    rw [canonical?]
    split
    · -- the mark stands before another name, and then it is an error
      rename_i hs
      exact number?_eq_none (hlen hs)
    · rename_i hs
      obtain ⟨m, hm, hp⟩ : ∃ m ∈ members, ¬m.2.Plain := by
        by_contra! hall
        exact hp (everywhere_obj_iff.mpr ⟨hs, hall⟩)
      rw [canonicalMembers?_eq_none hm (ih m hm (hk m hm) hp), Option.map_none]
  | refused => rfl

end MarketFeed.Json
