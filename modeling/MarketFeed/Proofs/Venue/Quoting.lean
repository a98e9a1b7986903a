import MarketFeed.Proofs.Except
import MarketFeed.Proofs.Json.Decoding
import MarketFeed.Venue.Dialect

namespace MarketFeed

namespace Json

variable {α β : Type} {b : Bool} {v w : Json} {name : String}

lemma lookup_requoted {members members' : List (String × Json)}
    (h : List.Forall₂ RequotedMember members members') (name : String) :
    Option.Rel (Requoted (isText name)) (members.lookup name) (members'.lookup name) := by
  induction h with
  | nil => exact .none
  | @cons m m' _ _ hm _ ih =>
    cases hm with
    | @mk n v w hv =>
      rw [List.lookup_cons, List.lookup_cons]
      cases hname : name == n with
      | true =>
        rw [eq_of_beq hname]
        exact .some hv
      | false => exact ih

lemma Requoted.get? (h : Requoted b v w) (name : String) :
    Option.Rel (Requoted (isText name)) (v.get? name) (w.get? name) := by
  cases h with
  | same => exact relSame _ _
  | quote h => exact .none
  | unquote h => exact .none
  | arr h => exact .none
  | obj h => exact lookup_requoted h name

lemma Requoted.isNull_eq (h : Requoted b v w) : v.isNull = w.isNull := by
  cases h <;> rfl

lemma Requoted.field? (h : Requoted b v w) (name : String) :
    Option.Rel (Requoted (isText name)) (v.field? name) (w.field? name) := by
  have hget := h.get? name
  rw [Json.field?, Json.field?]
  generalize v.get? name = x at hget
  generalize w.get? name = y at hget
  cases hget with
  | none => exact .none
  | @some a c hac =>
    rw [Option.filter_some, Option.filter_some, hac.isNull_eq]
    split
    · exact .some hac
    · exact .none

lemma Requoted.field (h : Requoted b v w) (name : String) :
    Alike (Requoted (isText name)) (v.field name) (w.field name) := by
  have hfield := h.field? name
  rw [Json.field, Json.field]
  generalize v.field? name = x at hfield
  generalize w.field? name = y at hfield
  cases hfield with
  | none => exact .error _ _
  | some hac => exact .ok hac

lemma Requoted.fieldBy {read : Json → Option α} (h : Requoted b v w) (ht : isText name = true)
    (hread : ∀ x y, Requoted true x y → read x = read y) :
    Alike Eq (fieldBy read v name) (fieldBy read w name) := by
  refine (h.field name).bind fun x y hxy => ?_
  rw [ht] at hxy
  rw [hread x y hxy]
  cases read y with
  | some a => exact .refl _
  | none => exact .error _ _

lemma Requoted.text?_eq (h : Requoted true v w) : v.text? = w.text? := by
  cases h <;> rfl

lemma Requoted.numberText?_eq (h : Requoted true v w) : v.numberText? = w.numberText? := by
  cases h <;> rfl

lemma Requoted.textField (h : Requoted b v w) (ht : isText name = true) :
    Alike Eq (v.textField name) (w.textField name) := h.fieldBy ht fun _ _ => text?_eq

lemma Requoted.idField (h : Requoted b v w) (ht : isText name = true) :
    Alike Eq (v.idField name) (w.idField name) := h.fieldBy ht fun _ _ => numberText?_eq

lemma Requoted.itemsField (h : Requoted b v w) (name : String) :
    Alike (List.Forall₂ (Requoted false)) (v.itemsField name) (w.itemsField name) := by
  refine (h.field name).bind fun x y hxy => ?_
  generalize isText (some name) = c at hxy
  cases hxy with
  | same =>
    cases x with
    | arr items => exact .ok (List.forall₂_same.mpr fun x _ => .same false x)
    | _ => exact .error _ _
  | quote h => exact .error _ _
  | unquote h => exact .error _ _
  | arr h => exact .ok h
  | obj h => exact .error _ _

lemma Requoted.text_eq {read : String → Option α}
    (hread : ∀ t n : String, KeptAs t.toList n.toList → read t = read n) (h : Requoted b v w) :
    v.numberText?.bind read = w.numberText?.bind read := by
  cases h with
  | same => rfl
  | quote h => exact (hread _ _ h).symm
  | unquote h => exact hread _ _ h
  | arr h => rfl
  | obj h => rfl

lemma Requoted.numberBy {read : List Char → Option α}
    (hread : ∀ t n, KeptAs t n → read t = read n) (h : Requoted b v w) (name : String) :
    Alike Eq (numberBy read name v) (numberBy read name w) := by
  have htext : (v.numberText?.bind fun s => read s.toList) =
      w.numberText?.bind fun s => read s.toList := h.text_eq fun _ _ => hread _ _
  rw [Json.numberBy, Json.numberBy, htext]
  split
  · exact .ok rfl
  · exact .error _ _

lemma Requoted.decimalBy {read : String → Option Decimal}
    (hread : ∀ t n : String, KeptAs t.toList n.toList → read t = read n) (h : Requoted b v w)
    (name : String) : Alike Eq (decimalBy read name v) (decimalBy read name w) := by
  refine alike_eq_iff.mpr fun d => ?_
  rw [decimalBy_eq_ok_iff, decimalBy_eq_ok_iff, ← Option.bind_eq_some_iff, h.text_eq hread,
    Option.bind_eq_some_iff]

lemma Requoted.uint64Value (h : Requoted b v w) (name : String) :
    Alike Eq (uint64Value name v) (uint64Value name w) :=
  h.numberBy (fun _ _ => KeptAs.uint64?_eq) name

lemma Requoted.int64Value (h : Requoted b v w) (name : String) :
    Alike Eq (int64Value name v) (int64Value name w) :=
  h.numberBy (fun _ _ => KeptAs.int64?_eq) name

lemma Requoted.decimalValue (h : Requoted b v w) (name : String) :
    Alike Eq (decimalValue name v) (decimalValue name w) :=
  h.decimalBy (fun _ _ => KeptAs.ofText?_eq) name

lemma Requoted.scaledValue (h : Requoted b v w) (scale : Nat) (name : String) :
    Alike Eq (scaledValue scale name v) (scaledValue scale name w) :=
  h.decimalBy (fun _ _ hk => hk.ofScaledText?_eq scale) name

lemma Requoted.uint64Field (h : Requoted b v w) (name : String) :
    Alike Eq (v.uint64Field name) (w.uint64Field name) :=
  (h.field name).bind fun _ _ hab => hab.uint64Value name

lemma Requoted.int64Field? (h : Requoted b v w) (name : String) :
    Alike Eq (v.int64Field? name) (w.int64Field? name) := by
  have hfield := h.field? name
  rw [Json.int64Field?, Json.int64Field?]
  generalize v.field? name = x at hfield
  generalize w.field? name = y at hfield
  cases hfield with
  | none => exact .refl _
  | some hab => exact (hab.int64Value name).map some

lemma Requoted.levelValue {read : String → Json → Except ReadError Decimal}
    (hread : ∀ v w, Requoted false v w → Alike Eq (read name v) (read name w))
    (h : Requoted b v w) : Alike Eq (levelValue read name v) (levelValue read name w) := by
  cases h with
  | same => exact .refl _
  | quote h => exact .error _ _
  | unquote h => exact .error _ _
  | obj h => exact .error _ _
  | arr h =>
    rcases h with _ | ⟨hp, _ | ⟨hs, _⟩⟩
    · exact .error _ _
    · exact .error _ _
    · refine (hread _ _ hp).bind_eq fun price => ?_
      refine (hread _ _ hs).bind_eq fun size => ?_
      exact .refl _

lemma Requoted.levelsField {read : String → Json → Except ReadError Decimal}
    (hread : ∀ name v w, Requoted false v w → Alike Eq (read name v) (read name w))
    (h : Requoted b v w) (name : String) :
    Alike Eq (v.levelsField read name) (w.levelsField read name) := by
  refine (h.itemsField name).bind fun rows rows' hrows => ?_
  have hlevels := Alike.mapM hrows fun row row' hrow => hrow.levelValue (hread name)
  exact hlevels.mono fun _ _ => List.forall₂_eq_eq_eq.le _ _

lemma Requoted.decimalLevels (h : Requoted b v w) (name : String) :
    Alike Eq (v.levelsField Json.decimalValue name) (w.levelsField Json.decimalValue name) :=
  h.levelsField (fun name _ _ hr => hr.decimalValue name) name

lemma Requoted.scaledLevels (h : Requoted b v w) (scale : Nat) (name : String) :
    Alike Eq (v.levelsField (Json.scaledValue scale) name)
      (w.levelsField (Json.scaledValue scale) name) :=
  h.levelsField (fun name _ _ hr => hr.scaledValue scale name) name

end Json

namespace Kucoin

open Json

variable {b : Bool} {v w : Json}

lemma readSpan_requoted (h : Requoted b v w) : Alike Eq (readSpan v) (readSpan w) := by
  refine (h.uint64Field "sequenceStart").bind_eq fun first => ?_
  refine (h.uint64Field "sequenceEnd").bind_eq fun last => ?_
  exact .refl _

lemma readUpdate_requoted (h : Requoted b v w) (dir : Directory) :
    Alike Eq (readUpdate dir v) (readUpdate dir w) := by
  refine (h.field "data").bind fun data data' hd => ?_
  refine (hd.textField (by decide)).bind_eq fun venueId => ?_
  refine (Alike.refl _).bind_eq fun symbol => ?_
  refine (readSpan_requoted hd).bind_eq fun span => ?_
  refine (hd.field "changes").bind fun changes changes' hc => ?_
  refine (hc.decimalLevels "bids").bind_eq fun bids => ?_
  refine (hc.decimalLevels "asks").bind_eq fun asks => ?_
  refine (hd.int64Field? "time").bind_eq fun time => ?_
  exact .refl _

lemma plainText_ne_successCode {c : Char} {cs : List Char} (ht : v.text? = none)
    (hv : v.print = c :: cs) (hc : c ≠ '2') : v.plainText ≠ successCode := by
  intro he
  rw [plainText, ht, Option.getD_none, compact, hv] at he
  have hhead := congrArg (·.toList.head?) he
  rw [String.toList_ofList] at hhead
  exact hc (Option.some.inj hhead)

lemma plainText_requoted (h : Requoted true v w) :
    v.plainText = successCode ↔ w.plainText = successCode := by
  have harr (items : List Json) : (Json.arr items).plainText ≠ successCode :=
    plainText_ne_successCode rfl rfl (by decide)
  have hobj (members : List (String × Json)) : (Json.obj members).plainText ≠ successCode :=
    plainText_ne_successCode rfl rfl (by decide)
  cases h with
  | same => rfl
  | arr => exact iff_of_false (harr _) (harr _)
  | obj => exact iff_of_false (hobj _) (hobj _)

lemma checkCode_requoted (h : Requoted b v w) : Alike Eq (checkCode v) (checkCode w) := by
  have hcode := h.field? "code"
  rw [show isText (some "code") = true by decide] at hcode
  rw [checkCode, checkCode]
  generalize v.field? "code" = x at hcode
  generalize w.field? "code" = y at hcode
  cases hcode with
  | none => exact .refl _
  | some hcode =>
    simp only [plainText_requoted hcode]
    split
    · exact .refl _
    · exact .error _ _

lemma readSnapshot_requoted (h : Requoted b v w) :
    Alike Eq (readSnapshot v) (readSnapshot w) := by
  refine (checkCode_requoted h).bind_eq fun _ => ?_
  refine (h.field "data").bind fun data data' hd => ?_
  refine (hd.decimalLevels "bids").bind_eq fun bids => ?_
  refine (hd.decimalLevels "asks").bind_eq fun asks => ?_
  refine (hd.uint64Field "sequence").bind_eq fun sequence => ?_
  refine (hd.int64Field? "time").bind_eq fun time => ?_
  exact .refl _

end Kucoin

namespace Vertex

open Json

variable {b : Bool} {v w : Json}

lemma readSymbol_requoted (h : Requoted b v w) (dir : Directory) :
    Alike Eq (readSymbol dir v) (readSymbol dir w) :=
  (h.idField (by decide)).bind_eq fun _ => .refl _

lemma readTime_requoted (h : Requoted b v w) (name : String) :
    Alike Eq (readTime v name) (readTime w name) := (h.int64Field? name).map _

lemma readUpdate_requoted (h : Requoted b v w) (dir : Directory) :
    Alike Eq (readUpdate dir v) (readUpdate dir w) := by
  refine (readSymbol_requoted h dir).bind_eq fun symbol => ?_
  refine (h.scaledLevels places "bids").bind_eq fun bids => ?_
  refine (h.scaledLevels places "asks").bind_eq fun asks => ?_
  refine (readTime_requoted h "max_timestamp").bind_eq fun time => ?_
  exact .refl _

lemma checkStatus_requoted (h : Requoted b v w) : checkStatus v = checkStatus w := by
  have hstatus := h.get? "status"
  rw [show isText (some "status") = true by decide] at hstatus
  rw [checkStatus, checkStatus, textField?, textField?]
  generalize v.get? "status" = x at hstatus
  generalize w.get? "status" = y at hstatus
  cases hstatus with
  | none => rfl
  | some hstatus => rw [Option.bind_some, Option.bind_some, hstatus.text?_eq]

lemma readSnapshot_requoted (h : Requoted b v w) :
    Alike Eq (readSnapshot v) (readSnapshot w) := by
  rw [readSnapshot, readSnapshot, checkStatus_requoted h]
  refine (Alike.refl _).bind_eq fun _ => ?_
  refine (h.field "data").bind fun data data' hd => ?_
  refine (hd.scaledLevels places "bids").bind_eq fun bids => ?_
  refine (hd.scaledLevels places "asks").bind_eq fun asks => ?_
  refine (readTime_requoted hd "timestamp").bind_eq fun time => ?_
  exact .refl _

end Vertex

namespace Venue

open Json

lemma readUpdate_requoted {b : Bool} {v w : Json} (venue : Venue) (dir : Directory)
    (h : Requoted b v w) : Alike Eq (venue.readUpdate dir v) (venue.readUpdate dir w) := by
  cases venue with
  | kucoin => exact Kucoin.readUpdate_requoted h dir
  | vertex => exact Vertex.readUpdate_requoted h dir

lemma readSnapshot_requoted {b : Bool} {v w : Json} (venue : Venue) (h : Requoted b v w) :
    Alike Eq (venue.readSnapshot v) (venue.readSnapshot w) := by
  cases venue with
  | kucoin => exact Kucoin.readSnapshot_requoted h
  | vertex => exact Vertex.readSnapshot_requoted h

/-- A number is read alike bare and in quotes, at each of the readers and in the messages about
books of either venue, as decoded and as text; identifiers are kept as they are written. -/
theorem quoted_numbers_read_alike :
    (∀ t n : String, KeptAs t.toList n.toList →
      ofText? t = some (.num n) ∧ ofText? (Json.str t).compact = some (.str t) ∧
      (∀ name : String, Alike Eq (uint64Value name (.num n)) (uint64Value name (.str t)) ∧
        Alike Eq (decimalValue name (.num n)) (decimalValue name (.str t)) ∧
        ∀ scale, Alike Eq (scaledValue scale name (.num n)) (scaledValue scale name (.str t))) ∧
      ∀ (v w : Json) (name : String), v.get? name = some (.num n) → w.get? name = some (.str t) →
        Alike Eq (v.int64Field? name) (w.int64Field? name) ∧
          ((∀ c ∈ t.toList, c ≠ '.' ∧ c ≠ 'e' ∧ c ≠ 'E') →
            v.idField name = .ok t ∧ w.idField name = .ok t)) ∧
    ∀ (venue : Venue) (dir : Directory),
      (∀ v w : Json, Requoted false v w →
        Alike Eq (venue.readUpdate dir v) (venue.readUpdate dir w) ∧
          Alike Eq (venue.readSnapshot v) (venue.readSnapshot w)) ∧
      ∀ s t : String, RequotedText false s.toList t.toList →
        Option.Rel (fun v w => Alike Eq (venue.readUpdate dir v) (venue.readUpdate dir w) ∧
          Alike Eq (venue.readSnapshot v) (venue.readSnapshot w)) (ofText? s) (ofText? t) := by
  have hframes (venue : Venue) (dir : Directory) (v w : Json) (h : Requoted false v w) :=
    And.intro (venue.readUpdate_requoted dir h) (venue.readSnapshot_requoted h)
  refine ⟨fun t n hk => ?_, fun venue dir => ⟨hframes venue dir, fun s t h => ?_⟩⟩
  · have hq : Requoted false (.num n) (.str t) := .quote hk
    have hbare := ofText?_written hk
    rw [String.ofList_toList, String.ofList_toList] at hbare
    refine ⟨hbare, ofText?_quoted t, fun name => ⟨hq.uint64Value name, hq.decimalValue name,
      fun scale => hq.scaledValue scale name⟩, fun v w name hv hw => ?_⟩
    have hfv : v.field? name = some (.num n) := by rw [field?, hv]; rfl
    have hfw : w.field? name = some (.str t) := by rw [field?, hw]; rfl
    refine ⟨?_, fun hc => ?_⟩
    · rw [int64Field?, int64Field?, hfv, hfw]
      exact (hq.int64Value name).map some
    · obtain rfl : t = n := String.toList_inj.mp (hk.eq_of_no_mark fun c hm => (hc c hm).2)
      simp only [idField, fieldBy, field, hfv, hfw]
      exact ⟨rfl, rfl⟩
  · have hdecoded := ofText?_requoted h
    generalize ofText? s = x at hdecoded
    generalize ofText? t = y at hdecoded
    cases hdecoded with
    | none => exact .none
    | some hvw => exact .some (hframes venue dir _ _ hvw)

theorem quoted_book_read_alike :
    let dir : Directory := ⟨.kucoin, [("BTC-USDT", ⟨.of "BTC" "USDT" .spot, "BTC-USDT"⟩)]⟩
    let products : Directory := ⟨.vertex, [("BTC-USDC", ⟨.of "BTC" "USDC" .spot, "2"⟩)]⟩
    let frame := "\x7b\"data\":\x7b\"symbol\":\"BTC-USDT\",\"sequenceStart\":\"6\"," ++
      "\"sequenceEnd\":\"6\",\"changes\":\x7b\"bids\":[[\"1.5E3\",\"0\"]],\"asks\":[]\x7d," ++
        "\"time\":\"-0\"\x7d\x7d"
    Json.decimalValue "size" (.str "1.5E3") = .ok ⟨false, 1500, 0, by decide, by decide⟩ ∧
      Json.scaledValue 1 "size" (.str "7") = .ok ⟨false, 7, 1, by decide, by decide⟩ ∧
      Json.uint64Value "sequence" (.str "7") = .ok 7 ∧
      (∀ k, Json.uint64Value "sequence" (.num "-0") ≠ .ok k) ∧
      Json.int64Field? (.obj [("time", .str "-0")]) "time" = .ok (some 0) ∧
      Json.idField (.obj [("id", .num "-0")]) "id" = .ok "-0" ∧
      Venue.vertex.readUpdate products (.obj [("asks", .arr []),
          ("bids", .arr [.arr [.str "7", .num "0"]]), ("max_timestamp", .str "-0"),
            ("product_id", .str "2")]) =
        .ok ⟨"BTC-USDC", [.onSide .bid ⟨⟨false, 7, 18, by decide, by decide⟩, .zero⟩], none, some 0,
          none⟩ ∧
      ((Json.ofText? frame).bind fun v =>
        (Venue.kucoin.readUpdate dir v).toOption.map fun u =>
          (u.symbol, u.changes, u.span, u.exchangeTime)) =
        some ("BTC-USDT", [.onSide .bid ⟨⟨false, 1500, 0, by decide, by decide⟩, .zero⟩],
          some ⟨6, 6⟩, some 0) := by
  intro dir products frame
  obtain ⟨hnumber, hbook⟩ := quoted_numbers_read_alike
  have hdigits : Text.isDigits ['5'] = true ∧ Text.isDigits ['3'] = true := ⟨rfl, rfl⟩
  have hthousands : KeptAs "1.5E3".toList "1.5e+3".toList :=
    .bare ⟨['1'], ['.', '5'], _, _, Or.inr ⟨rfl, by decide⟩, Or.inr ⟨['5'], hdigits.1, rfl⟩,
      .unsigned (Or.inr rfl) hdigits.2, rfl, rfl⟩
  have hkept : ∀ c : Char, Text.isDigits [c] = true → [c].head? ≠ some '0' → KeptAs [c] [c] :=
    fun c hc h0 => .bare ⟨[c], [], [], [], Or.inr ⟨hc, h0⟩, Or.inl rfl, .none, rfl, rfl⟩
  have hzero : KeptUnsigned ['0'] ['0'] :=
    ⟨['0'], [], [], [], Or.inl rfl, Or.inl rfl, .none, rfl, rfl⟩
  have hminus : KeptAs "-0".toList "-0".toList := .minus hzero
  have hsix : KeptAs "6".toList "6".toList := hkept '6' rfl (by decide)
  have hseven : KeptAs "7".toList "7".toList := hkept '7' rfl (by decide)
  refine ⟨?_, ?_, ?_, ?_, ?_, ?_, ?_, ?_⟩
  · have hread := (hnumber _ _ hthousands).2.2.1 "size"
    exact (alike_eq_iff.mp hread.2.1 _).mp rfl
  · have hread := (hnumber _ _ hseven).2.2.1 "size"
    exact (alike_eq_iff.mp (hread.2.2 1) _).mp rfl
  · have hread := (hnumber _ _ hseven).2.2.1 "sequence"
    exact (alike_eq_iff.mp hread.1 _).mp rfl
  · intro k hk
    have hread := (hnumber _ _ hminus).2.2.1 "sequence"
    cases (alike_eq_iff.mp hread.1 k).mp hk
  · have hread := (hnumber _ _ hminus).2.2.2 (.obj [("time", .num "-0")])
      (.obj [("time", .str "-0")]) "time" rfl rfl
    exact (alike_eq_iff.mp hread.1 _).mp rfl
  · have hread := (hnumber _ _ hminus).2.2.2 (.obj [("id", .num "-0")])
      (.obj [("id", .str "-0")]) "id" rfl rfl
    exact (hread.2 (by simp)).1
  · have hrow : List.Forall₂ (Requoted false) [.num "7", .num "0"] [.str "7", .num "0"] :=
      .cons (.quote hseven) (.cons (.same _ _) .nil)
    have hfields : List.Forall₂ RequotedMember
        [("asks", .arr []), ("bids", .arr [.arr [.num "7", .num "0"]]),
          ("max_timestamp", .num "-0"), ("product_id", .str "2")]
        [("asks", .arr []), ("bids", .arr [.arr [.str "7", .num "0"]]),
          ("max_timestamp", .str "-0"), ("product_id", .str "2")] :=
      .cons (.mk (.same _ _)) (.cons (.mk (.arr (.cons (.arr hrow) .nil)))
        (.cons (.mk (.quote hminus)) (.cons (.mk (.same _ _)) .nil)))
    have hread := ((hbook .vertex products).1 _ _ (.obj hfields)).1
    exact (alike_eq_iff.mp hread _).mp rfl
  · let text (spell : List Char → List Char) : List Char :=
      ['\x7b'] ++ (quoted "data" ++ ':' :: (['\x7b'] ++ (quoted "symbol" ++ ':' ::
        (quoted "BTC-USDT" ++ ([','] ++ (quoted "sequenceStart" ++ ':' :: (spell "6".toList ++
          ([','] ++ (quoted "sequenceEnd" ++ ':' :: (spell "6".toList ++ ([','] ++
            (quoted "changes" ++ ':' :: (['\x7b'] ++ (quoted "bids" ++ ':' :: (['[', '['] ++
              (spell "1.5E3".toList ++ ([','] ++ (spell "0".toList ++ ([']', ']', ','] ++
                (quoted "asks" ++ ':' :: (['[', ']', '\x7d', ','] ++ (quoted "time" ++ ':' ::
                  (spell "-0".toList ++ (['\x7d', '\x7d'] ++ []))))))))))))))))))))))))
    have hq : RequotedText false (text id) (text fun t => '"' :: (t ++ ['"'])) := by
      refine .word rfl rfl (.member rfl (.word rfl rfl (.member rfl (.quoted _ ?_))))
      refine .word rfl rfl (.member (show isText "sequenceStart" = false by decide) ?_)
      refine .number hsix .quote (follows_cons rfl rfl) (follows_cons rfl rfl) ?_
      refine .word rfl rfl (.member (show isText "sequenceEnd" = false by decide) ?_)
      refine .number hsix .quote (follows_cons rfl rfl) (follows_cons rfl rfl) ?_
      refine .word rfl rfl (.member rfl (.word rfl rfl (.member rfl ?_)))
      refine .word rfl rfl ?_
      refine .number hthousands .quote (follows_cons rfl rfl) (follows_cons rfl rfl) ?_
      refine .word rfl rfl ?_
      refine .number (.bare hzero) .quote (follows_cons rfl rfl) (follows_cons rfl rfl) ?_
      refine .word rfl rfl (.member rfl (.word rfl rfl ?_))
      refine .member (show isText "time" = false by decide) ?_
      refine .number hminus .quote (follows_cons rfl rfl) (follows_cons rfl rfl) ?_
      exact .word rfl rfl (.nil _)
    have hbare : String.toList (String.ofList (text id)) = text id := String.toList_ofList
    have hframe : frame.toList = text fun t => '"' :: (t ++ ['"']) := by decide +kernel
    rw [← hbare, ← hframe] at hq
    have hread := (hbook .kucoin dir).2 _ _ hq
    have hvalue : ((ofText? (String.ofList (text id))).bind fun v =>
        (Venue.kucoin.readUpdate dir v).toOption.map fun u =>
          (u.symbol, u.changes, u.span, u.exchangeTime)) =
        some ("BTC-USDT", [.onSide .bid ⟨⟨false, 1500, 0, by decide, by decide⟩, .zero⟩],
          some ⟨6, 6⟩, some 0) := by decide +kernel
    rw [← hvalue]
    generalize ofText? frame = x at hread
    generalize ofText? (String.ofList (text id)) = y at hread
    cases hread with
    | none => rfl
    | some h => rw [Option.bind_some, Option.bind_some, h.1.toOption_eq]

end Venue

end MarketFeed
