import Mathlib.Data.String.Basic
import Mathlib.Tactic.Lemma
import MarketFeed.Table

namespace MarketFeed.Table

variable {α : Type}

lemma lookup_map {β : Type} (f : α → β) (t : Table α) (name : String) :
    (t.map fun (n, v) => (n, f v)).lookup name = (t.lookup name).map f := by
  induction t with
  | nil => rfl
  | cons e r ih =>
    obtain ⟨n, v⟩ := e
    rw [List.map_cons, List.lookup_cons, List.lookup_cons]
    cases name == n with
    | true => rfl
    | false => exact ih

lemma mem_names_iff {t : Table α} {name : String} :
    name ∈ t.names ↔ (t.lookup name).isSome = true := by
  simp [names, List.lookup_isSome_iff]

lemma lookup_eq_some_iff {t : Table α} (h : t.names.Nodup) {name : String} {v : α} :
    t.lookup name = some v ↔ (name, v) ∈ t := by
  induction t with
  | nil => simp
  | cons e r ih =>
    obtain ⟨n, w⟩ := e
    obtain ⟨hn, hr⟩ := List.nodup_cons.mp h
    rw [List.lookup_cons, List.mem_cons, Prod.mk.injEq]
    by_cases he : name = n
    · subst he
      have hnot : (name, v) ∉ r := fun hm => hn (List.mem_map.mpr ⟨_, hm, rfl⟩)
      simp [hnot, eq_comm]
    · simp [he, beq_false_of_ne he, ih hr]

lemma insert_perm {t : Table α} {k : String} {v : α} (h : k ∉ t.names) :
    (t.insert k v).Perm ((k, v) :: t) := by
  induction t with
  | nil => exact .refl _
  | cons e r ih =>
    obtain ⟨n, w⟩ := e
    obtain ⟨hn, hr⟩ := not_or.mp (mt List.mem_cons.mpr h)
    rw [insert, if_neg hn]
    split
    · exact .refl _
    · exact ((ih hr).cons _).trans (.swap _ _ _)

lemma mem_names_insert {t : Table α} {k n : String} {v : α} :
    n ∈ (t.insert k v).names ↔ n = k ∨ n ∈ t.names := by
  rw [mem_names_iff, mem_names_iff, lookup_insert]
  by_cases h : n = k <;> simp [h]

lemma erase_of_not_mem {t : Table α} {k : String} (h : k ∉ t.names) : t.erase k = t :=
  List.filter_eq_self.mpr fun _ he => bne_iff_ne.mpr fun hk => h (hk ▸ List.mem_map_of_mem he)

lemma erase_insert {t : Table α} {k : String} {v : α} (h : k ∉ t.names) :
    (t.insert k v).erase k = t := by
  induction t with
  | nil => simp [insert, erase]
  | cons e r ih =>
    obtain ⟨n, w⟩ := e
    obtain ⟨hn, hr⟩ := not_or.mp (mt List.mem_cons.mpr h)
    rw [insert, if_neg hn]
    split
    · rw [erase, List.filter_cons_of_neg (by simp)]
      exact erase_of_not_mem h
    · rw [erase, List.filter_cons_of_pos (by simpa using Ne.symm hn)]
      exact congrArg _ (ih hr)

lemma names_insert_pairwise {t : Table α} {k : String} {v : α}
    (h : t.names.Pairwise (· < ·)) : (t.insert k v).names.Pairwise (· < ·) := by
  induction t with
  | nil => simp [insert, names]
  | cons e r ih =>
    obtain ⟨n, w⟩ := e
    obtain ⟨hn, hr⟩ := List.pairwise_cons.mp h
    rw [insert]
    split
    · rename_i hk
      refine List.pairwise_cons.mpr ⟨fun m hm => ?_, h⟩
      rcases List.mem_cons.mp hm with rfl | hm
      · exact hk
      · exact lt_trans hk (hn m hm)
    · rename_i hk
      split
      · rename_i he
        subst he
        exact List.pairwise_cons.mpr ⟨hn, hr⟩
      · rename_i he
        refine List.pairwise_cons.mpr ⟨fun m hm => ?_, ih hr⟩
        rcases mem_names_insert.mp hm with rfl | hm
        · exact lt_of_le_of_ne (not_lt.mp hk) (Ne.symm he)
        · exact hn m hm

lemma mem_of_mem_insert {t : Table α} {k : String} {v : α} {e : String × α}
    (h : e ∈ t.insert k v) : e = (k, v) ∨ e ∈ t := by
  induction t with
  | nil => simpa [insert] using h
  | cons d r ih => grind [insert]

lemma ofList_induction {motive : Table α → Prop} {entries : List (String × α)} (nil : motive [])
    (insert : ∀ t, ∀ e ∈ entries, motive t → motive (t.insert e.1 e.2)) :
    motive (ofList entries) := by
  have key : ∀ t, motive t → motive (entries.foldl (fun t e => t.insert e.1 e.2) t) := by
    induction entries with
    | nil => exact fun t h => h
    | cons e r ih =>
      intro t h
      exact ih (fun t d hd => insert t d (List.mem_cons_of_mem e hd)) _
        (insert t e List.mem_cons_self h)
  exact key [] nil

lemma names_ofList_pairwise (entries : List (String × α)) :
    (ofList entries).names.Pairwise (· < ·) :=
  ofList_induction (motive := fun t => t.names.Pairwise (· < ·)) .nil
    fun _ _ _ h => names_insert_pairwise h

lemma mem_of_mem_ofList {entries : List (String × α)} {e : String × α} :
    e ∈ ofList entries → e ∈ entries :=
  ofList_induction (motive := fun t => e ∈ t → e ∈ entries) (by simp) fun _ d hd ih he =>
    (mem_of_mem_insert he).elim (fun h => h ▸ hd) ih

lemma mem_names_ofList {entries : List (String × α)} {n : String} :
    n ∈ (ofList entries).names ↔ n ∈ entries.map Prod.fst := by
  have key : ∀ t : Table α, n ∈ (entries.foldl (fun t e => t.insert e.1 e.2) t).names ↔
      n ∈ entries.map Prod.fst ∨ n ∈ t.names := by
    induction entries with
    | nil => simp
    | cons e r ih =>
      intro t
      rw [List.foldl_cons, ih, mem_names_insert, List.map_cons, List.mem_cons]
      tauto
  simpa [ofList, names] using key []

lemma forall₂_insert {R : String × α → String × α → Prop} (hR : ∀ d e, R d e → d.1 = e.1)
    {t t' : Table α} {d e : String × α} (h : List.Forall₂ R t t') (he : R d e) :
    List.Forall₂ R (t.insert d.1 d.2) (t'.insert e.1 e.2) := by
  induction h with
  | nil => exact .cons he .nil
  | @cons x y xs ys hxy hr ih =>
    have hx := hR _ _ hxy
    have hd := hR _ _ he
    obtain ⟨n, v⟩ := x
    obtain ⟨_, w⟩ := y
    obtain ⟨k, a⟩ := d
    obtain ⟨_, b⟩ := e
    obtain rfl : n = _ := hx
    obtain rfl : k = _ := hd
    rw [insert, insert]
    split
    · exact .cons he (.cons hxy hr)
    · split
      · exact .cons he hr
      · exact .cons hxy ih

lemma forall₂_ofList {R : String × α → String × α → Prop} (hR : ∀ d e, R d e → d.1 = e.1)
    {entries entries' : List (String × α)} (h : List.Forall₂ R entries entries') :
    List.Forall₂ R (ofList entries) (ofList entries') := by
  have key : ∀ t t' : Table α, List.Forall₂ R t t' → List.Forall₂ R
      (entries.foldl (fun (t : Table α) e => t.insert e.1 e.2) t)
      (entries'.foldl (fun (t : Table α) e => t.insert e.1 e.2) t') := by
    induction h with
    | nil => exact fun _ _ ht => ht
    | cons he _ ih => exact fun t t' ht => ih _ _ (forall₂_insert hR ht he)
  exact key [] [] .nil

lemma insert_of_last {t : Table α} {k : String} {v : α} (h : ∀ n ∈ t.names, n < k) :
    t.insert k v = t ++ [(k, v)] := by
  induction t with
  | nil => rfl
  | cons e r ih =>
    obtain ⟨n, w⟩ := e
    have hn : n < k := h n List.mem_cons_self
    rw [insert, if_neg (not_lt_of_gt hn), if_neg (ne_of_gt hn),
      ih fun m hm => h m (List.mem_cons_of_mem n hm), List.cons_append]

lemma ofList_of_pairwise {t : Table α} (h : t.names.Pairwise (· < ·)) : ofList t = t := by
  have key : ∀ s : Table α, (s ++ t).names.Pairwise (· < ·) →
      t.foldl (fun t e => t.insert e.1 e.2) s = s ++ t := by
    induction t with
    | nil => simp
    | cons e r ih =>
      intro s hs
      have hlast : ∀ n ∈ s.names, n < e.1 := by
        rw [names, List.map_append, List.pairwise_append] at hs
        exact fun n hn => hs.2.2 n hn e.1 List.mem_cons_self
      have hr : (names r).Pairwise (· < ·) := (List.pairwise_cons.mp h).2
      rw [List.foldl_cons, insert_of_last hlast, ih hr, List.append_assoc, List.singleton_append]
      rwa [List.append_assoc, List.singleton_append]
  exact key [] h

lemma mem_sortNames {names : List String} {n : String} : n ∈ sortNames names ↔ n ∈ names := by
  rw [sortNames, mem_names_ofList, List.map_map]
  exact iff_of_eq (congrArg (n ∈ ·) (List.map_id names))

lemma sortNames_pairwise (names : List String) : (sortNames names).Pairwise (· < ·) :=
  names_ofList_pairwise _

lemma sortNames_nodup (names : List String) : (sortNames names).Nodup :=
  (sortNames_pairwise names).imp fun h => ne_of_lt h

end MarketFeed.Table
