import Mathlib.Tactic.Lemma
import Mathlib.Order.Lattice
import MarketFeed.Json.Basic

namespace MarketFeed.Json

variable {v w : Json} {items : List Json} {members : List (String × Json)} {n : Nat}

mutual

def parts : Json → List Json
  | .arr items => .arr items :: partsOfItems items
  | .obj members => .obj members :: partsOfMembers members
  | v => [v]

def partsOfItems : List Json → List Json
  | [] => []
  | v :: r => parts v ++ partsOfItems r

def partsOfMembers : List (String × Json) → List Json
  | [] => []
  | (_, v) :: r => parts v ++ partsOfMembers r

end

mutual

def depth : Json → Nat
  | .arr items => depthOfItems items + 1
  | .obj members => depthOfMembers members + 1
  | _ => 0

def depthOfItems : List Json → Nat
  | [] => 0
  | v :: r => max (depth v) (depthOfItems r)

def depthOfMembers : List (String × Json) → Nat
  | [] => 0
  | (_, v) :: r => max (depth v) (depthOfMembers r)

end

lemma mem_partsOfItems : w ∈ partsOfItems items ↔ ∃ v ∈ items, w ∈ v.parts := by
  induction items with
  | nil => simp [partsOfItems]
  | cons v r ih => simp [partsOfItems, ih]

lemma mem_partsOfMembers : w ∈ partsOfMembers members ↔ ∃ m ∈ members, w ∈ m.2.parts := by
  induction members with
  | nil => simp [partsOfMembers]
  | cons m r ih => simp [partsOfMembers, ih]

lemma mem_parts_arr : w ∈ (Json.arr items).parts ↔ w = .arr items ∨ ∃ v ∈ items, w ∈ v.parts := by
  rw [parts, List.mem_cons, mem_partsOfItems]

lemma mem_parts_obj :
    w ∈ (Json.obj members).parts ↔ w = .obj members ∨ ∃ m ∈ members, w ∈ m.2.parts := by
  rw [parts, List.mem_cons, mem_partsOfMembers]

lemma self_mem_parts (v : Json) : v ∈ v.parts := by
  cases v <;> simp [parts]

lemma depthOfItems_le_iff : depthOfItems items ≤ n ↔ ∀ v ∈ items, v.depth ≤ n := by
  induction items with
  | nil => simp [depthOfItems]
  | cons v r ih => simp [depthOfItems, ih]

lemma depthOfMembers_le_iff : depthOfMembers members ≤ n ↔ ∀ m ∈ members, m.2.depth ≤ n := by
  induction members with
  | nil => simp [depthOfMembers]
  | cons m r ih => simp [depthOfMembers, ih]

lemma areReadable_iff : areReadable items = true ↔ ∀ v ∈ items, v.isReadable = true := by
  induction items with
  | nil => simp [areReadable]
  | cons v r ih => simp [areReadable, ih]

lemma areReadableMembers_iff :
    areReadableMembers members = true ↔ ∀ m ∈ members, m.2.isReadable = true := by
  induction members with
  | nil => simp [areReadableMembers]
  | cons m r ih => simp [areReadableMembers, ih]

def Everywhere (P : Json → Prop) (v : Json) : Prop := ∀ w ∈ v.parts, P w

instance {P : Json → Prop} [DecidablePred P] (v : Json) : Decidable (Everywhere P v) :=
  inferInstanceAs (Decidable (∀ w ∈ v.parts, P w))

variable {P Q : Json → Prop}

lemma Everywhere.self (h : Everywhere P v) : P v := h v v.self_mem_parts

lemma Everywhere.mono (h : Everywhere P v) (hpq : ∀ w, P w → Q w) : Everywhere Q v :=
  fun w hw => hpq w (h w hw)

lemma everywhere_arr_iff :
    Everywhere P (.arr items) ↔ P (.arr items) ∧ ∀ v ∈ items, Everywhere P v := by
  simp only [Everywhere, mem_parts_arr]
  constructor
  · exact fun h => ⟨h _ (.inl rfl), fun v hv w hw => h w (.inr ⟨v, hv, hw⟩)⟩
  · rintro ⟨hself, h⟩ w (rfl | ⟨v, hv, hw⟩)
    · exact hself
    · exact h v hv w hw

lemma everywhere_obj_iff :
    Everywhere P (.obj members) ↔ P (.obj members) ∧ ∀ m ∈ members, Everywhere P m.2 := by
  simp only [Everywhere, mem_parts_obj]
  constructor
  · exact fun h => ⟨h _ (.inl rfl), fun m hm w hw => h w (.inr ⟨m, hm, hw⟩)⟩
  · rintro ⟨hself, h⟩ w (rfl | ⟨m, hm, hw⟩)
    · exact hself
    · exact h m hm w hw

lemma add_depth_arr_le_iff {level : Nat} : level + (Json.arr items).depth ≤ n ↔
    level < n ∧ ∀ v ∈ items, level + 1 + v.depth ≤ n := by
  have h : depthOfItems items ≤ n - (level + 1) ↔ ∀ v ∈ items, v.depth ≤ n - (level + 1) :=
    depthOfItems_le_iff
  rw [depth]
  constructor
  · intro hle
    refine ⟨by omega, fun v hv => ?_⟩
    have hv := h.mp (by omega) v hv
    omega
  · rintro ⟨hlevel, hall⟩
    have hle := h.mpr fun v hv => Nat.le_sub_of_add_le' (hall v hv)
    omega

lemma add_depth_obj_le_iff {level : Nat} : level + (Json.obj members).depth ≤ n ↔
    level < n ∧ ∀ m ∈ members, level + 1 + m.2.depth ≤ n := by
  have h : depthOfMembers members ≤ n - (level + 1) ↔ ∀ m ∈ members, m.2.depth ≤ n - (level + 1) :=
    depthOfMembers_le_iff
  rw [depth]
  constructor
  · intro hle
    refine ⟨by omega, fun m hm => ?_⟩
    have hm := h.mp (by omega) m hm
    omega
  · rintro ⟨hlevel, hall⟩
    have hle := h.mpr fun m hm => Nat.le_sub_of_add_le' (hall m hm)
    omega

@[elab_as_elim]
lemma induct {motive : Json → Prop} (null : motive .null) (bool : ∀ b, motive (.bool b))
    (num : ∀ literal, motive (.num literal)) (str : ∀ s, motive (.str s))
    (arr : ∀ items, (∀ v ∈ items, motive v) → motive (.arr items))
    (obj : ∀ members, (∀ m ∈ members, motive m.2) → motive (.obj members))
    (refused : motive .refused) (v : Json) : motive v := by
  match v with
  | .null => exact null
  | .bool b => exact bool b
  | .num literal => exact num literal
  | .str s => exact str s
  | .arr items => exact arr items fun v hv => induct null bool num str arr obj refused v
  | .obj members => exact obj members fun m hm => induct null bool num str arr obj refused m.2
  | .refused => exact refused
termination_by sizeOf v
decreasing_by
  · have h := List.sizeOf_lt_of_mem hv
    rw [Json.arr.sizeOf_spec]
    omega
  · have h := List.sizeOf_lt_of_mem hm
    have hm2 : sizeOf m.2 < sizeOf m := by
      obtain ⟨n, w⟩ := m
      change sizeOf w < sizeOf (n, w)
      rw [Prod.mk.sizeOf_spec]
      omega
    rw [Json.obj.sizeOf_spec]
    omega

end MarketFeed.Json
