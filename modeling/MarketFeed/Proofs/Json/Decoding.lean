import Mathlib.Data.List.DropRight
import MarketFeed.Proofs.Json.Requoting

namespace MarketFeed.Json

variable {b : Bool} {c : Char} {cs ds r t n : List Char} {v : Json} {fuel more level : Nat}

lemma skipBlanks_skipBlanks : skipBlanks (skipBlanks cs) = skipBlanks cs :=
  List.dropWhile_idempotent isBlank cs

lemma readValue_skipBlanks : readValue fuel level (skipBlanks cs) = readValue fuel level cs := by
  cases fuel with
  | zero => rfl
  | succ fuel => simp only [readValue, skipBlanks_skipBlanks]

def ReadsLike {α : Type} (R : α → α → Prop) (a : α) (r ds : List Char)
    (x : Option (α × List Char)) : Prop :=
  ∃ a' s, x = some (a', s) ∧ R a a' ∧ s.length < ds.length ∧ ∃ b, RequotedText b r s

lemma ReadsLike.mono {α : Type} {R : α → α → Prop} {a : α} {x : Option (α × List Char)}
    (h : ReadsLike R a r ds x) (hlen : ds.length ≤ cs.length) : ReadsLike R a r cs x := by
  obtain ⟨a', s, hx, ha, hlt, hrest⟩ := h
  exact ⟨a', s, hx, ha, hlt.trans_le hlen, hrest⟩

/-- What a reader takes from one text is taken from the other, with fuel counted by the length of
that text: quotes make it longer, so the two runs do not share a counter. -/
structure ReadsRequoted (fuel : Nat) : Prop where
  value : ∀ more level b cs ds v r, RequotedText b cs ds → 2 * ds.length < more →
    readValue fuel level cs = some (v, r) →
    ReadsLike (Requoted b) v r ds (readValue more level ds)
  items : ∀ more level cs ds vs r, RequotedText false cs ds → 2 * ds.length + 1 < more →
    readItems fuel level cs = some (vs, r) →
    ReadsLike (List.Forall₂ (Requoted false)) vs r ds (readItems more level ds)
  members : ∀ more level cs ds ms r, RequotedText false cs ds → 2 * ds.length + 1 < more →
    readMembers fuel level cs = some (ms, r) →
    ReadsLike (List.Forall₂ RequotedNamed) ms r ds (readMembers more level ds)

lemma readValue_string : readValue (fuel + 1) level ('"' :: r) =
    (readString r).map fun (s, r) => (s.elim .refused .str, r) := rfl

lemma readValue_bare (ht : KeptAs t n) (hr : Follows r) :
    readValue (fuel + 1) level (t ++ r) = some (.num (String.ofList n), r) :=
  readValue_number (ht.startsNumber.append r) (readNumber_append ht hr.1)

lemma readValue_quoted (ht : KeptAs t n) :
    readValue (fuel + 1) level ('"' :: (t ++ ['"']) ++ r) = some (.str (String.ofList t), r) := by
  rw [List.cons_append, List.append_assoc, List.singleton_append, readValue_string,
    ht.readString_eq]
  rfl

lemma readValue_nil_items (h : skipBlanks cs = ']' :: r) :
    readValue (fuel + 1) level ('[' :: cs) = some (ofItems level [], r) := by
  have hopen : skipBlanks ('[' :: cs) = '[' :: cs := rfl
  simp only [readValue, hopen, h]

lemma readValue_items (h : ∀ t, skipBlanks cs ≠ ']' :: t) :
    readValue (fuel + 1) level ('[' :: cs) =
      (readItems fuel (level + 1) (skipBlanks cs)).map fun (vs, r) => (ofItems level vs, r) := by
  have hopen : skipBlanks ('[' :: cs) = '[' :: cs := rfl
  simp only [readValue, hopen]

lemma readValue_nil_members (h : skipBlanks cs = '\x7d' :: r) :
    readValue (fuel + 1) level ('\x7b' :: cs) = some (ofMembers level [], r) := by
  have hopen : skipBlanks ('\x7b' :: cs) = '\x7b' :: cs := rfl
  simp only [readValue, hopen, h]

lemma readValue_members (h : ∀ t, skipBlanks cs ≠ '\x7d' :: t) :
    readValue (fuel + 1) level ('\x7b' :: cs) =
      (readMembers fuel (level + 1) (skipBlanks cs)).map
        fun (ms, r) => (ofMembers level ms, r) := by
  have hopen : skipBlanks ('\x7b' :: cs) = '\x7b' :: cs := rfl
  simp only [readValue, hopen]

lemma ReadsRequoted.array (ih : ReadsRequoted fuel) (hq : RequotedText false cs ds)
    (hmore : 2 * ds.length + 1 < more) (h : readValue (fuel + 1) level ('[' :: cs) = some (v, r)) :
    ReadsLike (Requoted b) v r ('[' :: ds) (readValue (more + 1) level ('[' :: ds)) := by
  have hlen := length_skipBlanks_le ds
  rcases hq.skipBlanks.closed_or (c := ']') (by decide) (by decide) with
    ⟨t, u, hcs, hds, hrest⟩ | ⟨hcs, hds⟩
  · rw [readValue_nil_items hcs] at h
    cases h
    rw [hds, List.length_cons] at hlen
    exact ⟨_, u, readValue_nil_items hds, .same b _, Nat.lt_succ_of_lt hlen, _, hrest⟩
  · rw [readValue_items hcs] at h
    obtain ⟨⟨vs, t⟩, hvs, he⟩ := Option.map_eq_some_iff.mp h
    cases he
    obtain ⟨ws, u, hws, hitems, hlt, hrest⟩ :=
      ih.items more _ _ _ _ _ hq.skipBlanks (by omega) hvs
    refine ⟨_, u, ?_, requoted_ofItems hitems, Nat.lt_succ_of_lt (hlt.trans_le hlen), hrest⟩
    rw [readValue_items hds, hws, Option.map_some]

lemma ReadsRequoted.object (ih : ReadsRequoted fuel) (hq : RequotedText false cs ds)
    (hmore : 2 * ds.length + 1 < more)
    (h : readValue (fuel + 1) level ('\x7b' :: cs) = some (v, r)) :
    ReadsLike (Requoted b) v r ('\x7b' :: ds) (readValue (more + 1) level ('\x7b' :: ds)) := by
  have hlen := length_skipBlanks_le ds
  rcases hq.skipBlanks.closed_or (c := '\x7d') (by decide) (by decide) with
    ⟨t, u, hcs, hds, hrest⟩ | ⟨hcs, hds⟩
  · rw [readValue_nil_members hcs] at h
    cases h
    rw [hds, List.length_cons] at hlen
    exact ⟨_, u, readValue_nil_members hds, .same b _, Nat.lt_succ_of_lt hlen, _, hrest⟩
  · rw [readValue_members hcs] at h
    obtain ⟨⟨ms, t⟩, hms, he⟩ := Option.map_eq_some_iff.mp h
    cases he
    obtain ⟨ms', u, hms', hmembers, hlt, hrest⟩ :=
      ih.members more _ _ _ _ _ hq.skipBlanks (by omega) hms
    refine ⟨_, u, ?_, requoted_ofMembers hmembers, Nat.lt_succ_of_lt (hlt.trans_le hlen),
      hrest⟩
    rw [readValue_members hds, hms', Option.map_some]

lemma readsLike_word (word : List Char) (hw : word.all isMark = true) (hne : word ≠ [])
    (hread : ∀ r, readValue (more + 1) level (word ++ r) = some (v, r))
    (hq : RequotedText b (word ++ r) ds) :
    ReadsLike (Requoted b) v r ds (readValue (more + 1) level ds) := by
  obtain ⟨b', ds', rfl, hrest⟩ := hq.of_word hw
  refine ⟨v, ds', hread ds', .same b v, ?_, b', hrest⟩
  rw [List.length_append]
  have hpos := List.length_pos_of_ne_nil hne
  omega

lemma isBlank_of_skipBlanks (h : skipBlanks cs = c :: r) : isBlank c = false := by
  have hhead := List.head?_dropWhile_not isBlank cs
  rw [skipBlanks] at h
  simpa only [h, List.head?_cons] using hhead

lemma startsNumber_of_readNumber (h : readNumber cs = some (n, r)) : StartsNumber cs := by
  obtain ⟨t, ht, rfl⟩ := readNumber_eq_some h
  exact ht.startsNumber.append r

lemma ReadsRequoted.value_mark (ih : ReadsRequoted fuel) (hc : isMark c = true)
    (hq : RequotedText b (c :: cs) (c :: ds)) (hblank : isBlank c = false)
    (hmore : 2 * ds.length + 1 < more) (h : readValue (fuel + 1) level (c :: cs) = some (v, r)) :
    ReadsLike (Requoted b) v r (c :: ds) (readValue (more + 1) level (c :: ds)) := by
  have hskip : skipBlanks (c :: cs) = c :: cs := by
    rw [skipBlanks, List.dropWhile_cons_of_neg (by simp [hblank])]
  have hread := h
  rw [readValue.eq_def] at h
  simp only [hskip] at h
  split at h
  · rename_i he
    cases he
    cases hc
  · rename_i he
    cases he
    obtain ⟨ds', he, hrest⟩ := hq.of_punctuation hc rfl
    cases he
    exact ih.array hrest hmore hread
  · rename_i he
    cases he
    obtain ⟨ds', he, hrest⟩ := hq.of_punctuation hc rfl
    cases he
    exact ih.object hrest hmore hread
  · rename_i he
    cases h
    rw [he] at hq
    exact readsLike_word ['n', 'u', 'l', 'l'] rfl (List.cons_ne_nil _ _) (fun _ => rfl) hq
  · rename_i he
    cases h
    rw [he] at hq
    exact readsLike_word ['t', 'r', 'u', 'e'] rfl (List.cons_ne_nil _ _) (fun _ => rfl) hq
  · rename_i he
    cases h
    rw [he] at hq
    exact readsLike_word ['f', 'a', 'l', 's', 'e'] rfl (List.cons_ne_nil _ _) (fun _ => rfl) hq
  · obtain ⟨⟨n, t⟩, hn, _⟩ := Option.map_eq_some_iff.mp h
    exact absurd rfl ((startsNumber_of_readNumber hn).startsToken.not_mark hc)

lemma ReadsRequoted.value_succ (ih : ReadsRequoted fuel) (hq : RequotedText b cs ds)
    (hmore : 2 * ds.length < more) (h : readValue (fuel + 1) level cs = some (v, r)) :
    ReadsLike (Requoted b) v r ds (readValue more level ds) := by
  obtain ⟨more, rfl⟩ : ∃ m, more = m + 1 := ⟨more - 1, by omega⟩
  have hlen := length_skipBlanks_le ds
  refine ReadsLike.mono ?_ hlen
  have hskip := hq.skipBlanks
  rw [← readValue_skipBlanks] at h ⊢
  generalize hx : skipBlanks cs = x at hskip h
  generalize skipBlanks ds = y at hskip hlen ⊢
  cases hskip with
  | nil => cases h
  | mark hc hrest =>
    rw [List.length_cons] at hlen
    exact ih.value_mark hc (.mark hc hrest) (isBlank_of_skipBlanks hx) (by omega) h
  | string hs hrest =>
    rw [readValue_string, hs] at h
    cases h
    refine ⟨_, _, ?_, .same b _, ?_, _, hrest⟩
    · rw [readValue_string, hs, Option.map_some]
    · simp only [List.length_cons, List.length_append]
      omega
  | @number b t n x y cs' ds' ht hs hc hd hrest =>
    have hkept : KeptAs (String.ofList t).toList (String.ofList n).toList := by
      rwa [String.toList_ofList, String.toList_ofList]
    have hshort : ds'.length < (y ++ ds').length := by
      rw [List.length_append]
      exact Nat.lt_add_of_pos_left (hs.symm.length_pos ht)
    cases hs with
    | bare =>
      cases h.symm.trans (readValue_bare ht hc)
      exact ⟨_, _, readValue_bare ht hd, .same b _, hshort, _, hrest⟩
    | quote =>
      cases h.symm.trans (readValue_bare ht hc)
      exact ⟨_, _, readValue_quoted ht, .quote hkept, hshort, _, hrest⟩
    | unquote =>
      cases h.symm.trans (readValue_quoted ht)
      exact ⟨_, _, readValue_bare ht hd, .unquote hkept, hshort, _, hrest⟩

lemma ReadsRequoted.items_succ (ih : ReadsRequoted fuel) {vs : List Json}
    (hq : RequotedText false cs ds) (hmore : 2 * ds.length + 1 < more)
    (h : readItems (fuel + 1) level cs = some (vs, r)) :
    ReadsLike (List.Forall₂ (Requoted false)) vs r ds (readItems more level ds) := by
  obtain ⟨more, rfl⟩ : ∃ m, more = m + 1 := ⟨more - 1, by omega⟩
  rw [readItems.eq_def] at h
  obtain ⟨⟨v, t⟩, hv, h⟩ := Option.bind_eq_some_iff.mp h
  obtain ⟨w, u, hw, hvw, hlt, b, hrest⟩ := ih.value more _ _ _ _ _ _ hq (by omega) hv
  simp only at h
  split at h
  · rename_i hcomma
    obtain ⟨u', hu, hlt', hrest⟩ := hrest.after_blanks (by decide) (by decide) hcomma
    obtain ⟨⟨vs, t⟩, hvs, he⟩ := Option.map_eq_some_iff.mp h
    cases he
    obtain ⟨ws, u'', hws, hitems, hlt'', hlast⟩ := ih.items more _ _ _ _ _ hrest (by omega) hvs
    refine ⟨w :: ws, u'', ?_, .cons hvw hitems, by omega, hlast⟩
    simp only [readItems, hw, Option.bind_some, hu, hws, Option.map_some]
  · rename_i hclose
    cases h
    obtain ⟨u', hu, hlt', hlast⟩ := hrest.after_blanks (by decide) (by decide) hclose
    refine ⟨[w], u', ?_, .cons hvw .nil, hlt'.trans hlt, _, hlast⟩
    simp only [readItems, hw, Option.bind_some, hu]
  · cases h

lemma ReadsRequoted.members_succ (ih : ReadsRequoted fuel) {ms : List (Option String × Json)}
    (hq : RequotedText false cs ds) (hmore : 2 * ds.length + 1 < more)
    (h : readMembers (fuel + 1) level cs = some (ms, r)) :
    ReadsLike (List.Forall₂ RequotedNamed) ms r ds (readMembers more level ds) := by
  obtain ⟨more, rfl⟩ : ∃ m, more = m + 1 := ⟨more - 1, by omega⟩
  have hlen := length_skipBlanks_le ds
  refine ReadsLike.mono ?_ hlen
  have hskip := hq.skipBlanks
  rw [readMembers.eq_def] at h
  simp only at h
  split at h
  · rename_i hcs
    rw [hcs] at hskip
    obtain ⟨⟨name, t⟩, hname, h⟩ := Option.bind_eq_some_iff.mp h
    simp only at h
    split at h
    · rename_i hcolon
      obtain ⟨s, x, x', hds, hs, hx, hshorter, hvalue⟩ := hskip.of_member hname hcolon
      obtain ⟨⟨v, t⟩, hv, h⟩ := Option.bind_eq_some_iff.mp h
      obtain ⟨w, y, hw, hvw, hlt, b', hrest⟩ := ih.value more _ _ _ _ _ _ hvalue (by omega) hv
      simp only at h
      split at h
      · rename_i hcomma
        obtain ⟨y', hy, hlt', hrest⟩ := hrest.after_blanks (by decide) (by decide) hcomma
        obtain ⟨⟨ms, t⟩, hms, he⟩ := Option.map_eq_some_iff.mp h
        cases he
        obtain ⟨ms', z, hms', hmembers, hlt'', hlast⟩ :=
          ih.members more _ _ _ _ _ hrest (by omega) hms
        refine ⟨(name, w) :: ms', z, ?_, .cons ⟨rfl, hvw⟩ hmembers, by omega, hlast⟩
        simp only [readMembers, hds, hs, Option.bind_some, hx, hw, hy, hms', Option.map_some]
      · rename_i hclose
        cases h
        obtain ⟨y', hy, hlt', hlast⟩ := hrest.after_blanks (by decide) (by decide) hclose
        refine ⟨[(name, w)], y', ?_, .cons ⟨rfl, hvw⟩ .nil, by omega, _, hlast⟩
        simp only [readMembers, hds, hs, Option.bind_some, hx, hw, hy]
      · cases h
    · cases h
  · cases h

lemma readsRequoted (fuel : Nat) : ReadsRequoted fuel := by
  induction fuel with
  | zero => exact ⟨by simp [readValue], by simp [readItems], by simp [readMembers]⟩
  | succ fuel ih =>
    exact ⟨fun _ _ _ _ _ _ _ hq hmore h => ih.value_succ hq hmore h,
      fun _ _ _ _ _ _ hq hmore h => ih.items_succ hq hmore h,
      fun _ _ _ _ _ _ hq hmore h => ih.members_succ hq hmore h⟩

lemma exists_parse?_of_requoted {s t : String} (hq : RequotedText false s.toList t.toList)
    (h : parse? s = some v) : ∃ w, parse? t = some w ∧ Requoted false v w := by
  obtain ⟨⟨v, r⟩, hv, h⟩ := Option.bind_eq_some_iff.mp h
  have hfuel : 2 * t.toList.length < 2 * t.length + 2 := by
    rw [String.length_toList]
    omega
  obtain ⟨w, u, hw, hvw, _, b, hrest⟩ := (readsRequoted _).value _ _ _ _ _ _ _ hq hfuel hv
  simp only at h
  split at h
  · rename_i hr
    cases h
    have hskip := hrest.skipBlanks
    rw [List.isEmpty_iff.mp hr] at hskip
    refine ⟨w, ?_, hvw⟩
    rw [parse?, hw, Option.bind_some]
    simp only [hskip.of_nil, List.isEmpty_nil, if_true]
  · cases h

theorem ofText?_requoted {s t : String} (h : RequotedText false s.toList t.toList) :
    Option.Rel (Requoted false) (ofText? s) (ofText? t) := by
  rw [ofText?, ofText?]
  cases hs : parse? s with
  | some v =>
    obtain ⟨w, hw, hvw⟩ := exists_parse?_of_requoted h hs
    rw [hw]
    exact canonical?_requoted hvw
  | none =>
    cases ht : parse? t with
    | none => exact .none
    | some w =>
      obtain ⟨v, hv, _⟩ := exists_parse?_of_requoted h.symm ht
      cases hs.symm.trans hv

end MarketFeed.Json
