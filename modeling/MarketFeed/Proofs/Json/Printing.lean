import MarketFeed.Proofs.Json.Escape
import MarketFeed.Proofs.Json.Literal
import MarketFeed.Proofs.Json.Tree

namespace MarketFeed.Json

variable {v : Json} {items : List Json} {members : List (String × Json)} {cs r : List Char}
  {fuel level : Nat}

def IsSound : Json → Prop
  | .num literal => IsLiteral literal.toList
  | .refused => False
  | _ => True

def Printable : Json → Prop := Everywhere IsSound

lemma Printable.isReadable (h : v.Printable) : v.isReadable = true := by
  induction v using induct with
  | null => rfl
  | bool b => rfl
  | num literal => rfl
  | str s => rfl
  | arr items ih =>
    have hp := (everywhere_arr_iff.mp h).2
    exact areReadable_iff.mpr fun v hv => ih v hv (hp v hv)
  | obj members ih =>
    have hp := (everywhere_obj_iff.mp h).2
    exact areReadableMembers_iff.mpr fun m hm => ih m hm (hp m hm)
  | refused => exact h.self.elim

def Starts (cs : List Char) : Prop := ∃ c t, cs = c :: t ∧ isBlank c = false ∧ c ≠ ']'

lemma Starts.append (h : Starts cs) (r : List Char) : Starts (cs ++ r) := by
  obtain ⟨c, t, rfl, hc⟩ := h
  exact ⟨c, t ++ r, rfl, hc⟩

lemma Starts.skipBlanks (h : Starts cs) : skipBlanks cs = cs := by
  obtain ⟨c, t, rfl, hc, _⟩ := h
  rw [Json.skipBlanks, List.dropWhile_cons_of_neg]
  simp [hc]

def StartsNumber (cs : List Char) : Prop := ∃ c t, cs = c :: t ∧ (c = '-' ∨ c.isDigit = true)

lemma StartsNumber.append (h : StartsNumber cs) (r : List Char) : StartsNumber (cs ++ r) := by
  obtain ⟨c, t, rfl, hc⟩ := h
  exact ⟨c, t ++ r, rfl, hc⟩

lemma StartsNumber.starts (h : StartsNumber cs) : Starts cs := by
  obtain ⟨c, t, rfl, hc⟩ := h
  refine ⟨c, t, rfl, Bool.eq_false_iff.mpr fun hb => ?_, ?_⟩
  · have hb : c = ' ' ∨ c = '\t' ∨ c = '\n' ∨ c = '\r' := by simpa [isBlank, or_assoc] using hb
    rcases hb with rfl | rfl | rfl | rfl <;> simp at hc
  · rintro rfl
    simp at hc

lemma IsWhole.startsNumber (h : IsWhole cs) : StartsNumber cs := by
  obtain ⟨hne, hall⟩ := Text.isDigits_iff.mp h.isDigits
  obtain ⟨c, t, rfl⟩ := List.exists_cons_of_ne_nil hne
  exact ⟨c, t, rfl, .inr (hall c List.mem_cons_self)⟩

lemma KeptAs.startsNumber {ds : List Char} (h : KeptAs cs ds) : StartsNumber cs := by
  cases h with
  | bare h =>
    obtain ⟨whole, fraction, written, _, hw, _, _, rfl, _⟩ := h
    rw [List.append_assoc]
    exact hw.startsNumber.append _
  | minus h => exact ⟨'-', _, rfl, .inl rfl⟩

lemma starts_print (h : v.Printable) : Starts v.print := by
  cases v with
  | null => exact ⟨_, _, rfl, rfl, by decide⟩
  | bool b => cases b <;> exact ⟨_, _, rfl, rfl, by decide⟩
  | num literal => exact (IsLiteral.kept h.self).startsNumber.starts
  | str s => exact ⟨_, _, rfl, rfl, by decide⟩
  | arr items => exact ⟨_, _, rfl, rfl, by decide⟩
  | obj members => exact ⟨_, _, rfl, rfl, by decide⟩
  | refused => exact h.self.elim

lemma readValue_number {ds : List Char} (hs : StartsNumber cs)
    (h : readNumber cs = some (ds, r)) :
    readValue (fuel + 1) level cs = some (.num (String.ofList ds), r) := by
  have hskip := hs.starts.skipBlanks
  obtain ⟨c, t, rfl, hc⟩ := hs
  rw [readValue.eq_def]
  simp only [hskip]
  -- no other value starts as a number does
  split <;> simp_all

lemma readValue_literal (h : IsLiteral cs) (hr : Ends inNumber r) :
    readValue (fuel + 1) level (cs ++ r) = some (.num (String.ofList cs), r) :=
  readValue_number (h.kept.startsNumber.append r) (readNumber_append h.kept hr)

lemma readValue_str (s : String) :
    readValue (fuel + 1) level (quoted s ++ r) = some (.str s, r) := by
  have h := readString_escaped s r
  simp [readValue, quoted, skipBlanks, isBlank, h]

lemma readValue_arr (h : Starts cs) : readValue (fuel + 1) level ('[' :: cs) =
    (readItems fuel (level + 1) cs).map fun (vs, r) => (ofItems level vs, r) := by
  have hskip := h.skipBlanks
  obtain ⟨c, t, rfl, _, hc⟩ := h
  have hopen : skipBlanks ('[' :: c :: t) = '[' :: c :: t := rfl
  simp only [readValue, hopen, hskip]
  split
  · simp_all
  · rfl

lemma readValue_obj (h : cs.head? = some '"') : readValue (fuel + 1) level ('\x7b' :: cs) =
    (readMembers fuel (level + 1) cs).map fun (ms, r) => (ofMembers level ms, r) := by
  obtain ⟨t, rfl⟩ := List.head?_eq_some_iff.mp h
  simp [readValue, skipBlanks, isBlank]

lemma readItems_last (h : readValue fuel level cs = some (v, ']' :: r)) :
    readItems (fuel + 1) level cs = some ([v], r) := by
  simp [readItems, h, skipBlanks, isBlank]

lemma readItems_cons {t : List Char} (hv : readValue fuel level cs = some (v, ',' :: t))
    (ht : readItems fuel level t = some (items, r)) :
    readItems (fuel + 1) level cs = some (v :: items, r) := by
  simp [readItems, hv, ht, skipBlanks, isBlank]

lemma readMembers_last {n : String} (h : readValue fuel level cs = some (v, '\x7d' :: r)) :
    readMembers (fuel + 1) level (quoted n ++ ':' :: cs) = some ([(some n, v)], r) := by
  have hn := readString_escaped n (':' :: cs)
  simp [readMembers, quoted, hn, h, skipBlanks, isBlank]

lemma readMembers_cons {n : String} {t : List Char} {named : List (Option String × Json)}
    (hv : readValue fuel level cs = some (v, ',' :: t))
    (ht : readMembers fuel level t = some (named, r)) :
    readMembers (fuel + 1) level (quoted n ++ ':' :: cs) = some ((some n, v) :: named, r) := by
  have hn := readString_escaped n (':' :: cs)
  simp [readMembers, quoted, hn, hv, ht, skipBlanks, isBlank]

def named (members : List (String × Json)) : List (Option String × Json) :=
  members.map fun m => (some m.1, m.2)

lemma namedMembers_named (members : List (String × Json)) :
    namedMembers (named members) = some members := by
  induction members with
  | nil => rfl
  | cons m r ih =>
    rw [named] at ih
    simp [named, namedMembers, ih]

def Fits (level : Nat) (v : Json) : Prop := v.Printable ∧ level + v.depth ≤ maxDepth

lemma fits_arr_iff : Fits level (.arr items) ↔
    level < maxDepth ∧ ∀ v ∈ items, Fits (level + 1) v := by
  rw [Fits, Printable, everywhere_arr_iff, add_depth_arr_le_iff]
  exact ⟨fun ⟨⟨_, hp⟩, hl, hd⟩ => ⟨hl, fun v hv => ⟨hp v hv, hd v hv⟩⟩,
    fun ⟨hl, h⟩ => ⟨⟨trivial, fun v hv => (h v hv).1⟩, hl, fun v hv => (h v hv).2⟩⟩

lemma fits_obj_iff : Fits level (.obj members) ↔
    level < maxDepth ∧ ∀ m ∈ members, Fits (level + 1) m.2 := by
  rw [Fits, Printable, everywhere_obj_iff, add_depth_obj_le_iff]
  exact ⟨fun ⟨⟨_, hp⟩, hl, hd⟩ => ⟨hl, fun m hm => ⟨hp m hm, hd m hm⟩⟩,
    fun ⟨hl, h⟩ => ⟨⟨trivial, fun m hm => (h m hm).1⟩, hl, fun m hm => (h m hm).2⟩⟩

lemma fits_of_scalar (hp : v.parts = [v]) (hd : v.depth = 0) (hs : v.IsSound)
    (h : level ≤ maxDepth) : Fits level v := by
  refine ⟨fun w hw => ?_, by omega⟩
  rw [hp, List.mem_singleton] at hw
  exact hw ▸ hs

lemma fits_null (h : level ≤ maxDepth) : Fits level .null := fits_of_scalar rfl rfl trivial h

lemma fits_str (h : level ≤ maxDepth) (s : String) : Fits level (.str s) :=
  fits_of_scalar rfl rfl trivial h

lemma fits_ofInt (h : level ≤ maxDepth) (n : Int) : Fits level (.ofInt n) :=
  fits_of_scalar rfl rfl (isLiteral_toString n) h

lemma printItems_cons {w : Json} {vs : List Json} :
    printItems (v :: w :: vs) = print v ++ ',' :: printItems (w :: vs) := rfl

lemma printMembers_cons {n : String} {m : String × Json} {ms : List (String × Json)} :
    printMembers ((n, v) :: m :: ms) =
      quoted n ++ ':' :: (print v ++ ',' :: printMembers (m :: ms)) := by
  rw [printMembers, List.append_assoc, List.cons_append]
  exact List.cons_ne_nil m ms

structure ReadsBack (fuel : Nat) : Prop where
  value : ∀ level v r, Fits level v → v.print.length ≤ fuel → Ends inNumber r →
    readValue fuel level (v.print ++ r) = some (v, r)
  items : ∀ level v vs r, (∀ w ∈ v :: vs, Fits level w) → (printItems (v :: vs)).length < fuel →
    readItems fuel level (printItems (v :: vs) ++ ']' :: r) = some (v :: vs, r)
  members : ∀ level m ms r, (∀ w ∈ m :: ms, Fits level w.2) →
    (printMembers (m :: ms)).length < fuel →
    readMembers fuel level (printMembers (m :: ms) ++ '\x7d' :: r) = some (named (m :: ms), r)

lemma starts_printItems {vs : List Json} (h : v.Printable) : Starts (printItems (v :: vs)) := by
  have hv := starts_print h
  cases vs with
  | nil => exact hv
  | cons w vs => exact hv.append _

lemma head?_printMembers {m : String × Json} {ms : List (String × Json)} :
    (printMembers (m :: ms)).head? = some '"' := by
  cases ms <;> rfl

lemma ReadsBack.value_succ (ih : ReadsBack fuel) (hf : Fits level v)
    (hlen : v.print.length ≤ fuel + 1) (hr : Ends inNumber r) :
    readValue (fuel + 1) level (v.print ++ r) = some (v, r) := by
  cases v with
  | null => rfl
  | bool b => cases b <;> rfl
  | num literal => rw [print, readValue_literal hf.1.self hr, String.ofList_toList]
  | str s => exact readValue_str s
  | arr items =>
    obtain ⟨hlevel, hitems⟩ := fits_arr_iff.mp hf
    cases items with
    | nil => simp [print, printItems, readValue, ofItems, hlevel, skipBlanks, isBlank]
    | cons v vs =>
      have hv := (hitems v List.mem_cons_self).1
      simp only [print, List.length_cons, List.length_append] at hlen
      rw [print, List.cons_append, List.cons_append, List.append_assoc, List.singleton_append,
        readValue_arr ((starts_printItems hv).append _),
        ih.items (level + 1) v vs r hitems (by omega), Option.map_some]
      simp [ofItems, hlevel]
  | obj members =>
    obtain ⟨hlevel, hmembers⟩ := fits_obj_iff.mp hf
    cases members with
    | nil => simp [print, printMembers, readValue, ofMembers, namedMembers, hlevel, skipBlanks,
        isBlank]
    | cons m ms =>
      simp only [print, List.length_cons, List.length_append] at hlen
      rw [print, List.cons_append, List.cons_append, List.append_assoc, List.singleton_append,
        readValue_obj, ih.members (level + 1) m ms r hmembers (by omega), Option.map_some]
      · simp [ofMembers, namedMembers_named, hlevel]
      · rw [List.head?_append, head?_printMembers, Option.some_or]
  | refused => exact hf.1.self.elim

lemma ReadsBack.items_succ {vs : List Json} (ih : ReadsBack fuel)
    (hf : ∀ w ∈ v :: vs, Fits level w) (hlen : (printItems (v :: vs)).length < fuel + 1) :
    readItems (fuel + 1) level (printItems (v :: vs) ++ ']' :: r) = some (v :: vs, r) := by
  have hv := hf v List.mem_cons_self
  cases vs with
  | nil =>
    rw [printItems] at hlen ⊢
    exact readItems_last (ih.value level v _ hv (by omega) (ends_cons.mpr rfl))
  | cons w vs =>
    rw [printItems_cons, List.length_append, List.length_cons] at hlen
    rw [printItems_cons, List.append_assoc]
    refine readItems_cons (ih.value level v _ hv (by omega) (ends_cons.mpr rfl)) ?_
    exact ih.items level w vs r (fun x hx => hf x (List.mem_cons_of_mem v hx)) (by omega)

lemma ReadsBack.members_succ {m : String × Json} {ms : List (String × Json)} (ih : ReadsBack fuel)
    (hf : ∀ w ∈ m :: ms, Fits level w.2) (hlen : (printMembers (m :: ms)).length < fuel + 1) :
    readMembers (fuel + 1) level (printMembers (m :: ms) ++ '\x7d' :: r) =
      some (named (m :: ms), r) := by
  have hm := hf m List.mem_cons_self
  obtain ⟨n, v⟩ := m
  cases ms with
  | nil =>
    rw [printMembers, List.length_append, List.length_cons] at hlen
    rw [printMembers, List.append_assoc]
    exact readMembers_last (ih.value level v _ hm (by omega) (ends_cons.mpr rfl))
  | cons m ms =>
    simp only [printMembers_cons, List.length_append, List.length_cons] at hlen
    rw [printMembers_cons, List.append_assoc, List.cons_append, List.append_assoc]
    refine readMembers_cons (ih.value level v _ hm (by omega) (ends_cons.mpr rfl)) ?_
    exact ih.members level m ms r (fun x hx => hf x (List.mem_cons_of_mem _ hx)) (by omega)

lemma readsBack (fuel : Nat) : ReadsBack fuel := by
  induction fuel with
  | zero =>
    -- every value is printed as something, so none is that short
    refine ⟨fun level v r hf hlen => ?_, fun _ _ _ _ _ hlen => absurd hlen (by omega),
      fun _ _ _ _ _ hlen => absurd hlen (by omega)⟩
    obtain ⟨c, t, he, _⟩ := starts_print hf.1
    rw [he, List.length_cons] at hlen
    omega
  | succ fuel ih =>
    exact ⟨fun _ _ _ hf hlen hr => ih.value_succ hf hlen hr,
      fun _ _ _ _ hf hlen => ih.items_succ hf hlen,
      fun _ _ _ _ hf hlen => ih.members_succ hf hlen⟩

theorem parse?_compact (hf : Fits 0 v) : parse? v.compact = some v := by
  have hread := (readsBack (2 * v.compact.length + 2)).value 0 v [] hf ?_ ends_nil
  · rw [List.append_nil] at hread
    rw [parse?, compact, String.toList_ofList, ← compact, hread]
    rfl
  · rw [compact, String.length_ofList]
    omega

end MarketFeed.Json
