import Mathlib.Data.Option.Defs
import MarketFeed.Proofs.Directory
import MarketFeed.Proofs.Payload
import MarketFeed.Venue.Dialect

namespace MarketFeed

namespace Json

variable {α : Type} {v x row : Json} {name s : String} {read : Json → Except ReadError Decimal}
  {readBy : String → Json → Except ReadError Decimal}

def GivesLevel (read : Json → Except ReadError Decimal) (row : Json) (level : Level) : Prop :=
  ∃ price size rest, row = .arr (price :: size :: rest) ∧ read price = .ok level.price ∧
    read size = .ok level.size

def GivesLevels (readBy : String → Json → Except ReadError Decimal) (v : Json) (name : String)
    (levels : List Level) : Prop :=
  ∃ rows, v.field? name = some (.arr rows) ∧ List.Forall₂ (GivesLevel (readBy name)) rows levels

def GivesTime (v : Json) (name : String) (time : Option Int64) : Prop :=
  Option.Rel (fun x t => int64Value name x = .ok t) (v.field? name) time

lemma field_eq_ok_iff : v.field name = .ok x ↔ v.field? name = some x := by
  rw [field]
  cases v.field? name <;> simp

lemma fieldBy_eq_ok_iff {read : Json → Option α} {a : α} :
    fieldBy read v name = .ok a ↔ ∃ x, v.field? name = some x ∧ read x = some a := by
  rw [fieldBy, bind_eq_ok_iff]
  refine exists_congr fun x => and_congr field_eq_ok_iff ?_
  cases read x <;> simp [invalid]

lemma textField_eq_ok_iff : v.textField name = .ok s ↔ v.field? name = some (.str s) := by
  rw [textField, fieldBy_eq_ok_iff]
  constructor
  · rintro ⟨x, hx, hs⟩
    cases x <;> simp_all [text?]
  · exact fun h => ⟨_, h, rfl⟩

lemma itemsField_eq_ok_iff {items : List Json} :
    v.itemsField name = .ok items ↔ v.field? name = some (.arr items) := by
  rw [itemsField, fieldBy_eq_ok_iff]
  constructor
  · rintro ⟨x, hx, hs⟩
    cases x <;> simp_all [items?]
  · exact fun h => ⟨_, h, rfl⟩

lemma int64Field?_eq_ok_iff {time : Option Int64} :
    v.int64Field? name = .ok time ↔ v.GivesTime name time := by
  rw [int64Field?, GivesTime]
  cases v.field? name with
  | none => cases time <;> simp
  | some x =>
    cases hx : int64Value name x <;> cases time <;> simp [hx, Except.map]

lemma levelValue_eq_ok_iff {level : Level} :
    levelValue readBy name row = .ok level ↔ GivesLevel (readBy name) row level := by
  rw [GivesLevel]
  constructor
  · intro h
    unfold levelValue at h
    split at h
    · simp only [bind_eq_ok_iff, Except.ok.injEq] at h
      obtain ⟨price, hp, size, hs, rfl⟩ := h
      exact ⟨_, _, _, rfl, hp, hs⟩
    · cases h
  · rintro ⟨price, size, rest, rfl, hp, hs⟩
    exact bind_eq_ok_iff.mpr ⟨_, hp, bind_eq_ok_iff.mpr ⟨_, hs, rfl⟩⟩

lemma levelsField_eq_ok_iff {levels : List Level} :
    v.levelsField readBy name = .ok levels ↔ v.GivesLevels readBy name levels := by
  simp only [levelsField, bind_eq_ok_iff, itemsField_eq_ok_iff, mapM_eq_ok_iff,
    levelValue_eq_ok_iff, GivesLevels]

lemma GivesLevels.exists_level {levels : List Level} {rows : List Json}
    (h : v.GivesLevels readBy name levels) (hrows : v.field? name = some (.arr rows))
    (hrow : row ∈ rows) : ∃ level, GivesLevel (readBy name) row level := by
  obtain ⟨rows', hrows', hlevels⟩ := h
  obtain rfl := Json.arr.inj (Option.some.inj (hrows.symm.trans hrows'))
  exact exists_of_forall₂ hlevels hrow

lemma exists_levels {bids asks : List Level} (hbids : v.GivesLevels readBy "bids" bids)
    (hasks : v.GivesLevels readBy "asks" asks) :
    ∀ name, name = "bids" ∨ name = "asks" → ∃ levels, v.GivesLevels readBy name levels := by
  rintro _ (rfl | rfl)
  · exact ⟨_, hbids⟩
  · exact ⟨_, hasks⟩

lemma plainText_eq_successCode_iff :
    v.plainText = Kucoin.successCode ↔ v.numberText? = some Kucoin.successCode := by
  have hbracket : ∀ (c : Char) (cs : List Char), c ≠ '2' →
      String.ofList (c :: cs) ≠ Kucoin.successCode := by
    intro c cs hc h
    exact hc (List.cons.inj ((String.toList_ofList).symm.trans (congrArg String.toList h))).1
  cases v with
  | str s => simp [plainText, text?, numberText?]
  | num literal => simp [plainText, text?, numberText?, compact, print]
  | arr items => exact iff_of_false (hbracket '[' _ (by decide)) (by simp [numberText?])
  | obj members => exact iff_of_false (hbracket '\x7b' _ (by decide)) (by simp [numberText?])
  | bool b => cases b <;> simp [plainText, text?, numberText?, compact, print, Kucoin.successCode]
  | null => simp [plainText, text?, numberText?, compact, print, Kucoin.successCode]
  | refused => simp [plainText, text?, numberText?, compact, print, Kucoin.successCode]

end Json

namespace Kucoin

open Json

variable {dir : Directory} {msg response data : Json}

def GivesSpan (data : Json) (span : Span) : Prop :=
  data.uint64Field "sequenceStart" = .ok span.first ∧
    data.uint64Field "sequenceEnd" = .ok span.last ∧ span.first ≤ span.last

inductive StatesUpdate (dir : Directory) (msg : Json) : Update → Prop
  | intro {data book : Json} {venueId symbol : String} {span : Span} {bids asks : List Level}
      {time : Option Int64} (hdata : msg.field? "data" = some data)
      (hid : data.field? "symbol" = some (.str venueId))
      (hlisted : dir.symbol? venueId = some symbol) (hspan : GivesSpan data span)
      (hbook : data.field? "changes" = some book)
      (hbids : book.GivesLevels decimalValue "bids" bids)
      (hasks : book.GivesLevels decimalValue "asks" asks) (htime : data.GivesTime "time" time) :
      StatesUpdate dir msg ⟨symbol, bids.map (.onSide .bid) ++ asks.map (.onSide .ask), some span,
        time, none⟩

inductive StatesSnapshot (response : Json) : Snapshot → Prop
  | intro {data : Json} {bids asks : List Level} {sequence : UInt64} {time : Option Int64}
      (hcode : ∀ code, response.field? "code" = some code → code.numberText? = some successCode)
      (hdata : response.field? "data" = some data)
      (hbids : data.GivesLevels decimalValue "bids" bids)
      (hasks : data.GivesLevels decimalValue "asks" asks)
      (hsequence : data.uint64Field "sequence" = .ok sequence)
      (htime : data.GivesTime "time" time) :
      StatesSnapshot response ⟨bids, asks, some sequence, time, none⟩

lemma readSpan_eq_ok_iff {span : Span} : readSpan data = .ok span ↔ GivesSpan data span := by
  simp only [readSpan, bind_eq_ok_iff, GivesSpan]
  constructor
  · rintro ⟨first, hf, last, hl, h⟩
    split at h
    · cases h
    · rename_i hle
      cases h
      exact ⟨hf, hl, UInt64.not_lt.mp hle⟩
  · rintro ⟨hf, hl, hle⟩
    exact ⟨_, hf, _, hl, if_neg (UInt64.not_lt.mpr hle)⟩

lemma checkCode_eq_ok_iff : checkCode response = .ok () ↔
    ∀ code, response.field? "code" = some code → code.numberText? = some successCode := by
  rw [checkCode]
  cases response.field? "code" with
  | none => simp
  | some code =>
    have hcode := plainText_eq_successCode_iff (v := code)
    by_cases h : code.plainText = successCode
    · simpa [h] using hcode.mp h
    · simpa [h] using mt hcode.mpr h

lemma readUpdate_eq_ok_iff {u : Update} :
    readUpdate dir msg = .ok u ↔ StatesUpdate dir msg u := by
  simp only [readUpdate, bind_eq_ok_iff, field_eq_ok_iff, textField_eq_ok_iff,
    Directory.resolve_eq_ok_iff, readSpan_eq_ok_iff, levelsField_eq_ok_iff, int64Field?_eq_ok_iff,
    Except.ok.injEq]
  constructor
  · rintro ⟨data, hdata, venueId, hid, symbol, hs, span, hspan, book, hbook, bids, hb, asks, ha,
      time, ht, rfl⟩
    exact ⟨hdata, hid, hs, hspan, hbook, hb, ha, ht⟩
  · rintro ⟨hdata, hid, hs, hspan, hbook, hb, ha, ht⟩
    exact ⟨_, hdata, _, hid, _, hs, _, hspan, _, hbook, _, hb, _, ha, _, ht, rfl⟩

lemma readSnapshot_eq_ok_iff {s : Snapshot} :
    readSnapshot response = .ok s ↔ StatesSnapshot response s := by
  simp only [readSnapshot, bind_eq_ok_iff, field_eq_ok_iff, levelsField_eq_ok_iff,
    int64Field?_eq_ok_iff, Except.ok.injEq]
  constructor
  · rintro ⟨⟨⟩, hcode, data, hdata, bids, hb, asks, ha, sequence, hs, time, ht, rfl⟩
    exact ⟨checkCode_eq_ok_iff.mp hcode, hdata, hb, ha, hs, ht⟩
  · rintro ⟨hcode, hdata, hb, ha, hs, ht⟩
    exact ⟨(), checkCode_eq_ok_iff.mpr hcode, _, hdata, _, hb, _, ha, _, hs, _, ht, rfl⟩

end Kucoin

namespace Vertex

open Json

variable {dir : Directory} {msg response : Json} {name : String}

inductive StatesUpdate (dir : Directory) (msg : Json) : Update → Prop
  | intro {product symbol : String} {bids asks : List Level} {time : Option Int64}
      (hid : msg.idField "product_id" = .ok product)
      (hlisted : dir.symbol? product = some symbol)
      (hbids : msg.GivesLevels (scaledValue places) "bids" bids)
      (hasks : msg.GivesLevels (scaledValue places) "asks" asks)
      (htime : msg.GivesTime "max_timestamp" time) :
      StatesUpdate dir msg ⟨symbol, bids.map (.onSide .bid) ++ asks.map (.onSide .ask), none,
        time.map millisOfNanos, none⟩

inductive StatesSnapshot (response : Json) : Snapshot → Prop
  | intro {data : Json} {bids asks : List Level} {time : Option Int64}
      (hstatus : ∀ status, response.field? "status" = some (.str status) → status = "success")
      (hdata : response.field? "data" = some data)
      (hbids : data.GivesLevels (scaledValue places) "bids" bids)
      (hasks : data.GivesLevels (scaledValue places) "asks" asks)
      (htime : data.GivesTime "timestamp" time) :
      StatesSnapshot response ⟨bids, asks, none, time.map millisOfNanos, none⟩

lemma readTime_eq_ok_iff {time : Option Int64} : readTime msg name = .ok time ↔
    ∃ t, msg.GivesTime name t ∧ t.map millisOfNanos = time := by
  simp only [readTime, ← int64Field?_eq_ok_iff]
  cases msg.int64Field? name <;> simp [Except.map]

lemma checkStatus_eq_ok_iff : checkStatus response = .ok () ↔
    ∀ status, response.field? "status" = some (.str status) → status = "success" := by
  have htext : ∀ status, response.textField? "status" = some status ↔
      response.field? "status" = some (.str status) := by
    intro status
    rw [textField?, field?]
    rcases response.get? "status" with _ | v
    · simp
    · cases v <;> simp [text?, isNull]
  simp only [← htext, checkStatus]
  cases response.textField? "status" <;> simp

lemma readUpdate_eq_ok_iff {u : Update} :
    readUpdate dir msg = .ok u ↔ StatesUpdate dir msg u := by
  simp only [readUpdate, readSymbol, bind_eq_ok_iff, Directory.resolve_eq_ok_iff,
    levelsField_eq_ok_iff, readTime_eq_ok_iff, Except.ok.injEq]
  constructor
  · rintro ⟨symbol, ⟨product, hid, hs⟩, bids, hb, asks, ha, _, ⟨time, ht, rfl⟩, rfl⟩
    exact ⟨hid, hs, hb, ha, ht⟩
  · rintro ⟨hid, hs, hb, ha, ht⟩
    exact ⟨_, ⟨_, hid, hs⟩, _, hb, _, ha, _, ⟨_, ht, rfl⟩, rfl⟩

lemma readSnapshot_eq_ok_iff {s : Snapshot} :
    readSnapshot response = .ok s ↔ StatesSnapshot response s := by
  simp only [readSnapshot, bind_eq_ok_iff, field_eq_ok_iff, levelsField_eq_ok_iff,
    readTime_eq_ok_iff, Except.ok.injEq]
  constructor
  · rintro ⟨⟨⟩, hstatus, data, hdata, bids, hb, asks, ha, _, ⟨time, ht, rfl⟩, rfl⟩
    exact ⟨checkStatus_eq_ok_iff.mp hstatus, hdata, hb, ha, ht⟩
  · rintro ⟨hstatus, hdata, hb, ha, ht⟩
    exact ⟨(), checkStatus_eq_ok_iff.mpr hstatus, _, hdata, _, hb, _, ha, _, ⟨_, ht, rfl⟩, rfl⟩

end Vertex

namespace Venue

open Json

variable {venue : Venue} {dir : Directory} {msg response : Json} {u : Update} {s : Snapshot}

def readAmount : Venue → String → Json → Except ReadError Decimal
  | kucoin => decimalValue
  | vertex => scaledValue Vertex.places

def StatesUpdate : Venue → Directory → Json → Update → Prop
  | kucoin => Kucoin.StatesUpdate
  | vertex => Vertex.StatesUpdate

def StatesSnapshot : Venue → Json → Snapshot → Prop
  | kucoin => Kucoin.StatesSnapshot
  | vertex => Vertex.StatesSnapshot

def changesOf? : Venue → Json → Option Json
  | kucoin, msg => (msg.field? "data").bind (·.field? "changes")
  | vertex, msg => some msg

lemma readUpdate_eq_ok_iff : venue.readUpdate dir msg = .ok u ↔ venue.StatesUpdate dir msg u := by
  cases venue with
  | kucoin => exact Kucoin.readUpdate_eq_ok_iff
  | vertex => exact Vertex.readUpdate_eq_ok_iff

lemma readSnapshot_eq_ok_iff :
    venue.readSnapshot response = .ok s ↔ venue.StatesSnapshot response s := by
  cases venue with
  | kucoin => exact Kucoin.readSnapshot_eq_ok_iff
  | vertex => exact Vertex.readSnapshot_eq_ok_iff

lemma StatesUpdate.exists_levels (h : venue.StatesUpdate dir msg u) :
    ∃ book, venue.changesOf? msg = some book ∧ ∀ name, name = "bids" ∨ name = "asks" →
      ∃ levels, book.GivesLevels venue.readAmount name levels := by
  cases venue with
  | kucoin =>
    obtain ⟨hdata, _, _, _, hbook, hbids, hasks, _⟩ := h
    exact ⟨_, Option.bind_eq_some_iff.mpr ⟨_, hdata, hbook⟩, Json.exists_levels hbids hasks⟩
  | vertex =>
    obtain ⟨_, _, hbids, hasks, _⟩ := h
    exact ⟨_, rfl, Json.exists_levels hbids hasks⟩

lemma StatesSnapshot.exists_levels (h : venue.StatesSnapshot response s) :
    ∃ book, response.field? "data" = some book ∧ ∀ name, name = "bids" ∨ name = "asks" →
      ∃ levels, book.GivesLevels venue.readAmount name levels := by
  cases venue with
  | kucoin =>
    obtain ⟨_, hdata, hbids, hasks, _, _⟩ := h
    exact ⟨_, hdata, Json.exists_levels hbids hasks⟩
  | vertex =>
    obtain ⟨_, hdata, hbids, hasks, _⟩ := h
    exact ⟨_, hdata, Json.exists_levels hbids hasks⟩

/-- A message about a book is read exactly if it states an update, or a snapshot, and then as the
one that it states; one row without a price and a size spoils it. -/
theorem book_messages_read_in_full (venue : Venue) (dir : Directory) (msg : Json) :
    (∀ u, venue.readUpdate dir msg = .ok u ↔ venue.StatesUpdate dir msg u) ∧
      (∀ s, venue.readSnapshot msg = .ok s ↔ venue.StatesSnapshot msg s) ∧
      ∀ book name rows row, name = "bids" ∨ name = "asks" →
        book.field? name = some (.arr rows) → row ∈ rows →
        (∀ level, ¬ GivesLevel (venue.readAmount name) row level) →
        (venue.changesOf? msg = some book → ∃ e, venue.readUpdate dir msg = .error e) ∧
          (msg.field? "data" = some book → ∃ e, venue.readSnapshot msg = .error e) := by
  refine ⟨fun u => readUpdate_eq_ok_iff, fun s => readSnapshot_eq_ok_iff,
    fun book name rows row hname hrows hrow hbad => ?_⟩
  have hspoilt : ¬ ∀ name, name = "bids" ∨ name = "asks" →
      ∃ levels, book.GivesLevels venue.readAmount name levels := by
    intro hall
    obtain ⟨levels, hlevels⟩ := hall name hname
    obtain ⟨level, hlevel⟩ := hlevels.exists_level hrows hrow
    exact hbad level hlevel
  refine ⟨fun hbook => exists_error_of_ne_ok fun u hread => hspoilt ?_,
    fun hbook => exists_error_of_ne_ok fun s hread => hspoilt ?_⟩
  · obtain ⟨book', hbook', hall⟩ := (readUpdate_eq_ok_iff.mp hread).exists_levels
    obtain rfl := Option.some.inj (hbook.symm.trans hbook')
    exact hall
  · obtain ⟨book', hbook', hall⟩ := (readSnapshot_eq_ok_iff.mp hread).exists_levels
    obtain rfl := Option.some.inj (hbook.symm.trans hbook')
    exact hall

theorem book_messages_read_in_full_around_a_short_row :
    let dir : Directory := ⟨.kucoin, [("BTC-USDT", ⟨⟨"BTC", "USDT", .spot⟩, "XBT"⟩)]⟩
    let msg : Json → Json := fun row => .obj [("data", .obj [
      ("changes", .obj [("asks", .arr [row]),
        ("bids", .arr [.arr [.str "100.50", .num "2", .str "7"]])]),
      ("sequenceEnd", .num "6"), ("sequenceStart", .str "5"), ("symbol", .str "XBT"),
      ("time", .null)])]
    Venue.kucoin.StatesUpdate dir (msg (.arr [.num "101", .str "0"])) ⟨"BTC-USDT",
        [⟨.bid, ⟨false, 1005, 1, by decide, by decide⟩, ⟨false, 2, 0, by decide, by decide⟩⟩,
          ⟨.ask, ⟨false, 101, 0, by decide, by decide⟩, .zero⟩], some ⟨5, 6⟩, none, none⟩ ∧
      (∀ level, ¬ GivesLevel (Venue.kucoin.readAmount "asks") (.arr [.num "101"]) level) ∧
      ∃ e, Venue.kucoin.readUpdate dir (msg (.arr [.num "101"])) = .error e := by
  intro dir msg
  have hshort : ∀ level, ¬ GivesLevel (Venue.kucoin.readAmount "asks") (.arr [.num "101"])
      level := by
    rintro level ⟨price, size, rest, hrow, _⟩
    cases hrow
  refine ⟨?_, hshort, ?_⟩
  · exact ((book_messages_read_in_full .kucoin dir _).1 _).mp rfl
  · exact ((book_messages_read_in_full .kucoin dir _).2.2 _ "asks" _ _ (Or.inr rfl) rfl
      List.mem_cons_self hshort).1 rfl

end Venue

end MarketFeed
