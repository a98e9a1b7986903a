import Mathlib.Data.Option.Defs
import MarketFeed.Proofs.Json.Quoting

namespace MarketFeed.Json

variable {b : Bool} {c : Char} {cs ds r s t n : List Char} {v w : Json} {fuel more level : Nat}

/-- Members that are read for their text, in which quotes make a difference. -/
def textNames : List String := ["symbol", "code", "status", "product_id", numberName]

def isText (name : Option String) : Bool := name.any textNames.contains

mutual

/-- The values differ only in numbers that stand in quotes in one of them; a text value has its
own quotes. -/
inductive Requoted : Bool → Json → Json → Prop
  | same (b : Bool) (v : Json) : Requoted b v v
  | quote {t n : String} (h : KeptAs t.toList n.toList) : Requoted false (.num n) (.str t)
  | unquote {t n : String} (h : KeptAs t.toList n.toList) : Requoted false (.str t) (.num n)
  | arr {b : Bool} {items items' : List Json} (h : List.Forall₂ (Requoted false) items items') :
      Requoted b (.arr items) (.arr items')
  | obj {b : Bool} {members members' : List (String × Json)}
      (h : List.Forall₂ RequotedMember members members') : Requoted b (.obj members) (.obj members')

inductive RequotedMember : String × Json → String × Json → Prop
  | mk {name : String} {v w : Json} (h : Requoted (isText name) v w) :
      RequotedMember (name, v) (name, w)

end

def isMark (c : Char) : Bool := !(c = '"' || c = '-' || c.isDigit)

def isGap (c : Char) : Bool := isBlank c || c = ':'

inductive Spelled (t : List Char) : Bool → List Char → List Char → Prop
  | bare (b : Bool) : Spelled t b t t
  | quote : Spelled t false t ('"' :: (t ++ ['"']))
  | unquote : Spelled t false ('"' :: (t ++ ['"'])) t

/-- Neither a number nor a name ends before the text. -/
def Follows (cs : List Char) : Prop := Ends inNumber cs ∧ (skipBlanks cs).head? ≠ some ':'

/-- The texts differ only in quotes around numbers. The first argument is whether the texts begin
with the value of a text member. -/
inductive RequotedText : Bool → List Char → List Char → Prop
  | nil (b : Bool) : RequotedText b [] []
  | mark {b : Bool} {c : Char} {cs ds : List Char} (hc : isMark c = true)
      (h : RequotedText (b && isGap c) cs ds) : RequotedText b (c :: cs) (c :: ds)
  | string {b : Bool} {name : Option String} {s cs ds : List Char}
      (hs : ∀ r, readString (s ++ r) = some (name, r)) (h : RequotedText (isText name) cs ds) :
      RequotedText b ('"' :: (s ++ cs)) ('"' :: (s ++ ds))
  | number {b : Bool} {t n x y cs ds : List Char} (ht : KeptAs t n) (hs : Spelled t b x y)
      (hc : Follows cs) (hd : Follows ds) (h : RequotedText false cs ds) :
      RequotedText b (x ++ cs) (y ++ ds)

lemma Spelled.symm {x y : List Char} (h : Spelled t b x y) : Spelled t b y x := by
  cases h with
  | bare => exact .bare b
  | quote => exact .unquote
  | unquote => exact .quote

lemma RequotedText.symm (h : RequotedText b cs ds) : RequotedText b ds cs := by
  induction h with
  | nil b => exact .nil b
  | mark hc _ ih => exact .mark hc ih
  | string hs _ ih => exact .string hs ih
  | number ht hs hc hd _ ih => exact .number ht hs.symm hd hc ih

lemma RequotedText.marks {word : List Char} (hw : word.all isMark = true)
    (h : RequotedText (b && word.all isGap) cs ds) : RequotedText b (word ++ cs) (word ++ ds) := by
  induction word generalizing b with
  | nil => rwa [List.all_nil, Bool.and_true] at h
  | cons c word ih =>
    obtain ⟨hc, hw⟩ := Bool.and_eq_true_iff.mp hw
    rw [List.all_cons, ← Bool.and_assoc] at h
    exact .mark hc (ih hw h)

lemma RequotedText.word {word : List Char} (hw : word.all isMark = true)
    (hg : word.all isGap = false) (h : RequotedText false cs ds) :
    RequotedText b (word ++ cs) (word ++ ds) := by
  refine .marks hw ?_
  rwa [hg, Bool.and_false]

lemma RequotedText.quoted (s : String) (h : RequotedText (isText s) cs ds) :
    RequotedText b (quoted s ++ cs) (quoted s ++ ds) := by
  have hs (r : List Char) :
      readString (s.toList.flatMap escapeChar ++ ['"'] ++ r) = some (some s, r) := by
    rw [List.append_assoc, List.singleton_append, readString_escaped]
  exact .string hs h

lemma RequotedText.member {name : String} {text : Bool} (hn : isText name = text)
    (h : RequotedText text cs ds) :
    RequotedText b (Json.quoted name ++ ':' :: cs) (Json.quoted name ++ ':' :: ds) := by
  refine .quoted name (.mark (by decide) ?_)
  rwa [hn, show isGap ':' = true from rfl, Bool.and_true]

lemma follows_cons (hn : inNumber c = false) (hg : isGap c = false) : Follows (c :: cs) := by
  obtain ⟨hb, hc⟩ := Bool.or_eq_false_iff.mp hg
  refine ⟨ends_cons.mpr hn, ?_⟩
  rw [skipBlanks, List.dropWhile_cons_of_neg (by simp [hb]), List.head?_cons]
  simpa using hc

def StartsToken (cs : List Char) : Prop := ∃ c t, cs = c :: t ∧ isMark c = false

lemma StartsNumber.startsToken (h : StartsNumber cs) : StartsToken cs := by
  obtain ⟨c, t, rfl, hc⟩ := h
  refine ⟨c, t, rfl, ?_⟩
  rcases hc with rfl | hc
  · rfl
  · simp [isMark, hc]

lemma Spelled.startsToken {x y : List Char} (ht : KeptAs t n) (h : Spelled t b x y) :
    StartsToken (x ++ r) := by
  cases h with
  | bare => exact (ht.startsNumber.append r).startsToken
  | quote => exact (ht.startsNumber.append r).startsToken
  | unquote => exact ⟨'"', _, rfl, rfl⟩

lemma Spelled.length_pos {x y : List Char} (ht : KeptAs t n) (h : Spelled t b x y) :
    0 < x.length := by
  obtain ⟨c, u, he, _⟩ := h.startsToken (r := []) ht
  rw [List.append_nil] at he
  rw [he, List.length_cons]
  exact Nat.succ_pos _

lemma StartsToken.not_mark (h : StartsToken cs) (hc : isMark c = true) : cs ≠ c :: r := by
  rintro rfl
  obtain ⟨_, _, he, hm⟩ := h
  cases he
  cases hm.symm.trans hc

lemma isMark_of_isBlank (h : isBlank c = true) : isMark c = true := by
  have hb : c = ' ' ∨ c = '\t' ∨ c = '\n' ∨ c = '\r' := by simpa [isBlank, or_assoc] using h
  rcases hb with rfl | rfl | rfl | rfl <;> decide

lemma StartsToken.skipBlanks (h : StartsToken cs) : skipBlanks cs = cs := by
  obtain ⟨c, t, rfl, hc⟩ := h
  rw [Json.skipBlanks, List.dropWhile_cons_of_neg]
  intro hb
  cases hc.symm.trans (isMark_of_isBlank hb)

lemma RequotedText.skipBlanks (h : RequotedText b cs ds) :
    RequotedText b (skipBlanks cs) (skipBlanks ds) := by
  induction h with
  | nil b => exact .nil b
  | @mark b c cs ds hc h ih =>
    cases hb : isBlank c with
    | true =>
      rw [isGap, hb, Bool.true_or, Bool.and_true] at ih
      rwa [Json.skipBlanks, Json.skipBlanks, List.dropWhile_cons_of_pos hb,
        List.dropWhile_cons_of_pos hb]
    | false =>
      have hn : ¬isBlank c = true := by simp [hb]
      rw [Json.skipBlanks, Json.skipBlanks, List.dropWhile_cons_of_neg hn,
        List.dropWhile_cons_of_neg hn]
      exact .mark hc h
  | string hs h _ => exact .string hs h
  | number ht hs hc hd h _ =>
    rw [(hs.startsToken ht).skipBlanks, (hs.symm.startsToken ht).skipBlanks]
    exact .number ht hs hc hd h

lemma RequotedText.of_mark (hc : isMark c = true) (h : RequotedText b (c :: cs) ds) :
    ∃ ds', ds = c :: ds' ∧ RequotedText (b && isGap c) cs ds' := by
  generalize hx : c :: cs = x at h
  cases h with
  | nil => cases hx
  | mark _ h =>
    cases hx
    exact ⟨_, rfl, h⟩
  | string =>
    cases hx
    cases hc
  | number ht hs => exact absurd hx.symm ((hs.startsToken ht).not_mark hc)

lemma KeptAs.ne_quote {u : List Char} (ht : KeptAs t n) : t ++ r ≠ '"' :: u := by
  intro he
  obtain ⟨c, x, hx, hc⟩ := ht.startsNumber.append r
  rw [he] at hx
  cases hx
  rcases hc with hc | hc <;> cases hc

lemma RequotedText.of_name {name : Option String} {u : List Char}
    (h : RequotedText b ('"' :: cs) ds) (hname : readString cs = some (name, r))
    (hcolon : Json.skipBlanks r = ':' :: u) :
    ∃ s ds', ds = '"' :: (s ++ ds') ∧ (∀ r, readString (s ++ r) = some (name, r)) ∧
      RequotedText (isText name) r ds' := by
  generalize hx : '"' :: cs = x at h
  cases h with
  | nil => cases hx
  | mark hc _ =>
    cases hx
    cases hc
  | string hs h =>
    cases hx
    rw [hs] at hname
    cases hname
    exact ⟨_, _, rfl, hs, h⟩
  | number ht hs hc hd h =>
    cases hs with
    | bare => exact absurd hx.symm ht.ne_quote
    | quote => exact absurd hx.symm ht.ne_quote
    | unquote =>
      rw [List.cons_append, List.append_assoc, List.singleton_append] at hx
      cases hx
      rw [ht.readString_eq] at hname
      cases hname
      exact absurd (by rw [hcolon, List.head?_cons]) hc.2

lemma RequotedText.of_word {word : List Char} (hw : word.all isMark = true)
    (h : RequotedText b (word ++ cs) ds) :
    ∃ b' ds', ds = word ++ ds' ∧ RequotedText b' cs ds' := by
  induction word generalizing b ds with
  | nil => exact ⟨b, ds, rfl, h⟩
  | cons c word ih =>
    obtain ⟨hc, hw⟩ := Bool.and_eq_true_iff.mp hw
    obtain ⟨ds, rfl, hrest⟩ := h.of_mark hc
    obtain ⟨b', ds', rfl, hlast⟩ := ih hw hrest
    exact ⟨b', ds', rfl, hlast⟩

lemma RequotedText.of_punctuation (hc : isMark c = true) (hg : isGap c = false)
    (h : RequotedText b (c :: cs) ds) : ∃ ds', ds = c :: ds' ∧ RequotedText false cs ds' := by
  obtain ⟨ds', rfl, hrest⟩ := h.of_mark hc
  rw [hg, Bool.and_false] at hrest
  exact ⟨ds', rfl, hrest⟩

lemma length_skipBlanks_le (cs : List Char) : (skipBlanks cs).length ≤ cs.length :=
  (List.dropWhile_sublist _).length_le

lemma RequotedText.after_blanks (hc : isMark c = true) (hg : isGap c = false)
    (h : RequotedText b cs ds) (hcs : Json.skipBlanks cs = c :: r) :
    ∃ s, Json.skipBlanks ds = c :: s ∧ s.length < ds.length ∧ RequotedText false r s := by
  have hskip := h.skipBlanks
  rw [hcs] at hskip
  obtain ⟨s, hds, hrest⟩ := hskip.of_punctuation hc hg
  have hlen := length_skipBlanks_le ds
  rw [hds, List.length_cons] at hlen
  exact ⟨s, hds, hlen, hrest⟩

lemma RequotedText.of_nil (h : RequotedText b [] ds) : ds = [] := by
  generalize hx : [] = x at h
  cases h with
  | nil => rfl
  | mark => cases hx
  | string => cases hx
  | number ht hs =>
    obtain ⟨c, u, he, _⟩ := hs.startsToken ht
    cases hx.trans he

lemma RequotedText.of_member {name : Option String} {u : List Char}
    (h : RequotedText b ('"' :: cs) ds) (hname : readString cs = some (name, r))
    (hcolon : Json.skipBlanks r = ':' :: u) :
    ∃ s x x', ds = '"' :: (s ++ x) ∧ (∀ r, readString (s ++ r) = some (name, r)) ∧
      Json.skipBlanks x = ':' :: x' ∧ x'.length < ds.length ∧
      RequotedText (isText name) u x' := by
  obtain ⟨s, x, rfl, hs, hrest⟩ := h.of_name hname hcolon
  have hskip := hrest.skipBlanks
  rw [hcolon] at hskip
  obtain ⟨x', hx, hvalue⟩ := hskip.of_mark (by decide)
  rw [show isGap ':' = true from rfl, Bool.and_true] at hvalue
  have hlen := length_skipBlanks_le x
  rw [hx, List.length_cons] at hlen
  refine ⟨s, x, x', rfl, hs, hx, ?_, hvalue⟩
  rw [List.length_cons, List.length_append]
  omega

lemma RequotedText.closed_or (hc : isMark c = true) (hg : isGap c = false)
    (h : RequotedText b cs ds) :
    (∃ r s, cs = c :: r ∧ ds = c :: s ∧ RequotedText false r s) ∨
      (∀ r, cs ≠ c :: r) ∧ ∀ s, ds ≠ c :: s := by
  by_cases hcs : ∃ r, cs = c :: r
  · obtain ⟨r, rfl⟩ := hcs
    obtain ⟨s, rfl, hrest⟩ := h.of_punctuation hc hg
    exact .inl ⟨r, s, rfl, rfl, hrest⟩
  · refine .inr ⟨fun r hr => hcs ⟨r, hr⟩, ?_⟩
    rintro s rfl
    obtain ⟨r, hr, _⟩ := h.symm.of_punctuation hc hg
    exact hcs ⟨r, hr⟩

lemma requoted_ofItems {vs ws : List Json} (h : List.Forall₂ (Requoted false) vs ws) :
    Requoted b (ofItems level vs) (ofItems level ws) := by
  rw [ofItems, ofItems]
  split
  · exact .arr h
  · exact .same b _

def RequotedNamed (m m' : Option String × Json) : Prop :=
  m.1 = m'.1 ∧ Requoted (isText m.1) m.2 m'.2

lemma namedMembers_requoted {ms ms' : List (Option String × Json)}
    (h : List.Forall₂ RequotedNamed ms ms') :
    Option.Rel (List.Forall₂ RequotedMember) (namedMembers ms) (namedMembers ms') := by
  induction h with
  | nil => exact .some .nil
  | @cons m m' ms ms' hm _ ih =>
    obtain ⟨name, v⟩ := m
    obtain ⟨_, w⟩ := m'
    obtain ⟨rfl, hv⟩ := hm
    rw [namedMembers, namedMembers]
    generalize namedMembers ms = x at ih
    generalize namedMembers ms' = y at ih
    cases name with
    | none => exact .none
    | some name =>
      cases ih with
      | none => exact .none
      | some hms => exact .some (.cons (.mk hv) hms)

lemma requoted_ofMembers {ms ms' : List (Option String × Json)}
    (h : List.Forall₂ RequotedNamed ms ms') :
    Requoted b (ofMembers level ms) (ofMembers level ms') := by
  have hnamed := namedMembers_requoted h
  rw [ofMembers, ofMembers]
  generalize namedMembers ms = x at hnamed
  generalize namedMembers ms' = y at hnamed
  cases hnamed with
  | none => exact .same b _
  | some hms =>
    simp only
    split
    · exact .obj hms
    · exact .same b _

lemma RequotedMember.fst_eq {m m' : String × Json} (h : RequotedMember m m') : m.1 = m'.1 := by
  cases h
  rfl

lemma standsForNumber_requoted {ms ms' : List (String × Json)}
    (h : List.Forall₂ RequotedMember ms ms') : standsForNumber ms = standsForNumber ms' := by
  cases h with
  | nil => rfl
  | cons hm _ => simp [standsForNumber, hm.fst_eq]

lemma number?_requoted {ms ms' : List (String × Json)} (h : List.Forall₂ RequotedMember ms ms')
    (hs : standsForNumber ms = true) : number? ms = number? ms' := by
  cases h with
  | nil => rfl
  | @cons m m' ms ms' hm hr =>
    cases hr with
    | nil =>
      cases hm with
      | @mk name v w hv =>
        have hname : isText name = true := by
          simp [standsForNumber] at hs
          subst hs
          decide
        rw [hname] at hv
        cases hv with
        | same => rfl
        | arr => rfl
        | obj => rfl
    | cons _ _ => rw [number?_eq_none (by simp), number?_eq_none (by simp)]

lemma canonicalItems?_requoted {items items' : List Json}
    (h : List.Forall₂ (Requoted false) items items')
    (ih : ∀ v ∈ items, ∀ w, Requoted false v w →
      Option.Rel (Requoted false) (canonical? v) (canonical? w)) :
    Option.Rel (List.Forall₂ (Requoted false)) (canonicalItems? items) (canonicalItems? items') := by
  induction h with
  | nil => exact .some .nil
  | @cons v w vs ws hv _ hrest =>
    have hrest := hrest fun v hv => ih v (List.mem_cons_of_mem _ hv)
    have hv := ih v List.mem_cons_self w hv
    rw [canonicalItems?, canonicalItems?]
    generalize canonical? v = x at hv
    generalize canonical? w = y at hv
    generalize canonicalItems? vs = xs at hrest
    generalize canonicalItems? ws = ys at hrest
    cases hv with
    | none => exact .none
    | some hv =>
      cases hrest with
      | none => exact .none
      | some hrest => exact .some (.cons hv hrest)

lemma canonicalMembers?_requoted {ms ms' : List (String × Json)}
    (h : List.Forall₂ RequotedMember ms ms')
    (ih : ∀ m ∈ ms, ∀ b w, Requoted b m.2 w →
      Option.Rel (Requoted b) (canonical? m.2) (canonical? w)) :
    Option.Rel (List.Forall₂ RequotedMember) (canonicalMembers? ms) (canonicalMembers? ms') := by
  induction h with
  | nil => exact .some .nil
  | @cons m m' ms ms' hm _ hrest =>
    have hrest := hrest fun v hv => ih v (List.mem_cons_of_mem _ hv)
    have ih := ih m List.mem_cons_self
    cases hm with
    | @mk name v w hv =>
      have hv := ih _ w hv
      rw [canonicalMembers?, canonicalMembers?]
      generalize canonical? v = x at hv
      generalize canonical? w = y at hv
      generalize canonicalMembers? ms = xs at hrest
      generalize canonicalMembers? ms' = ys at hrest
      cases hv with
      | none => exact .none
      | some hv =>
        cases hrest with
        | none => exact .none
        | some hrest => exact .some (.cons (.mk hv) hrest)

lemma Requoted.relSame (b : Bool) (x : Option Json) : Option.Rel (Requoted b) x x := by
  cases x with
  | none => exact .none
  | some v => exact .some (.same b v)

lemma record_requoted {ms ms' : List (String × Json)} (h : List.Forall₂ RequotedMember ms ms') :
    Requoted b (record ms) (record ms') :=
  .obj (Table.forall₂_ofList (fun _ _ => RequotedMember.fst_eq) h)

lemma canonical?_requoted (h : Requoted b v w) :
    Option.Rel (Requoted b) (canonical? v) (canonical? w) := by
  induction v using induct generalizing b w with
  | null =>
    cases h
    exact .some (.same b _)
  | bool =>
    cases h
    exact .some (.same b _)
  | num =>
    cases h with
    | same => exact .some (.same b _)
    | quote h => exact .some (.quote h)
  | str =>
    cases h with
    | same => exact .some (.same b _)
    | unquote h => exact .some (.unquote h)
  | arr items ih =>
    cases h with
    | same => exact Requoted.relSame b _
    | @arr _ _ items' h =>
      have hitems := canonicalItems?_requoted h fun v hv w hw => ih v hv hw
      rw [canonical?, canonical?]
      generalize canonicalItems? items = x at hitems
      generalize canonicalItems? items' = y at hitems
      cases hitems with
      | none => exact .none
      | some h => exact .some (.arr h)
  | obj members ih =>
    cases h with
    | same => exact Requoted.relSame b _
    | @obj _ _ members' h =>
      rw [canonical?, canonical?, ← standsForNumber_requoted h]
      split
      · rename_i hs
        rw [number?_requoted h hs]
        exact Requoted.relSame b _
      · have hmembers := canonicalMembers?_requoted h fun m hm b w hw => ih m hm hw
        generalize canonicalMembers? members = x at hmembers
        generalize canonicalMembers? members' = y at hmembers
        cases hmembers with
        | none => exact .none
        | some h => exact .some (record_requoted h)
  | refused =>
    cases h
    exact .none

end MarketFeed.Json
