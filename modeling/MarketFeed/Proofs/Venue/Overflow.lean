import MarketFeed.Desk.Frames
import MarketFeed.Proofs.Decimal.Rounding
import MarketFeed.Proofs.Except

namespace MarketFeed

namespace Kucoin

variable {v msg response entry : Json} {totalName : String} {time : Int64}

def Overflows (v : Json) (totalName : String) : Prop :=
  ∃ available total currency, v.decimalField "available" = .ok available ∧
    v.decimalField totalName = .ok total ∧ v.textField "currency" = .ok currency ∧
      Decimal.IsWide (total.units - available.units)

lemma readHolding_eq_overflow_iff :
    readHolding v totalName = .error .overflow ↔ Overflows v totalName := by
  simp only [readHolding, bind_eq_error_iff, Fault.lift_ne_overflow, Fault.lift_eq_ok_iff, false_or,
    Overflows, ← Decimal.sub_eq_none_iff]
  constructor
  · rintro ⟨available, ha, total, ht, currency, hc, hsub⟩
    refine ⟨available, total, currency, ha, ht, hc, ?_⟩
    cases hs : total.sub available with
    | none => rfl
    | some reserved => simp [hs] at hsub
  · rintro ⟨available, total, currency, ha, ht, hc, hs⟩
    exact ⟨available, ha, total, ht, currency, hc, by rw [hs]⟩

lemma readBalance_eq_overflow_iff :
    readBalance msg time = .error .overflow ↔
      ∃ data, msg.field "data" = .ok data ∧ Overflows data "total" := by
  simp only [readBalance, bind_eq_error_iff, Fault.lift_ne_overflow, Fault.lift_eq_ok_iff, false_or,
    readHolding_eq_overflow_iff, reduceCtorEq, and_false, exists_false, or_false]

lemma readAccount_eq_overflow_iff :
    readAccount time entry = .error .overflow ↔ Overflows entry "balance" := by
  simp only [readAccount, bind_eq_error_iff, readHolding_eq_overflow_iff, reduceCtorEq, and_false,
    exists_false, or_false]

lemma readBalances_eq_overflow_iff :
    readBalances response time = .error .overflow ↔ ∃ read entry rest,
      response.itemsField "data" = .ok (read ++ entry :: rest) ∧
        (∀ x ∈ read, ∃ e, readAccount time x = .ok e) ∧ Overflows entry "balance" := by
  simp only [readBalances, bind_eq_error_iff, Fault.lift_ne_overflow, Fault.lift_eq_ok_iff,
    false_or, mapM_eq_error_iff, readAccount_eq_overflow_iff]
  constructor
  · rintro ⟨entries, he, read, entry, rest, rfl, hread, hx⟩
    exact ⟨read, entry, rest, he, hread, hx⟩
  · rintro ⟨read, entry, rest, he, hread, hx⟩
    exact ⟨_, he, read, entry, rest, rfl, hread, hx⟩

end Kucoin

namespace Venue

variable {venue : Venue} {dir : Directory} {msg : Json} {time : Int64}

lemma readBalance_eq_overflow_iff :
    venue.readBalance dir msg time = .error .overflow ↔ venue = .kucoin ∧
      ∃ data, msg.field "data" = .ok data ∧ Kucoin.Overflows data "total" := by
  cases venue with
  | kucoin => simpa [readBalance] using Kucoin.readBalance_eq_overflow_iff
  | vertex => simp [readBalance]

lemma result_handleData_eq_overflow_iff {d : Desk} {channel : Channel} :
    (d.handleData venue dir channel msg time).result = .overflow ↔
      channel = .balances ∧ venue.readBalance dir msg time = .error .overflow := by
  cases channel with
  | book =>
    cases h : venue.readUpdate dir msg <;> simp [Desk.handleData, h, Reaction.refused,
      Reaction.quiet, Reaction.ofStep]
  | trades =>
    cases h : venue.readTrade dir msg time <;> simp [Desk.handleData, h, Reaction.refused,
      Reaction.quiet, Reaction.published]
  | orders =>
    cases h : venue.readOrder dir msg time <;> simp [Desk.handleData, h, Reaction.refused,
      Reaction.quiet, Reaction.published]
  | balances =>
    rcases h : venue.readBalance dir msg time with (cause | _) | b <;> simp [Desk.handleData, h,
      Reaction.refused, Reaction.quiet, Reaction.published]

lemma result_handle_eq_overflow_iff {d : Desk} {text : String} :
    (d.handle venue dir text time).result = .overflow ↔ ∃ msg topic,
      Json.ofText? text = some msg ∧ venue.inspect msg = .data topic ∧
        venue.channel? topic = some .balances ∧
          venue.readBalance dir msg time = .error .overflow := by
  rw [Desk.handle]
  cases hm : Json.ofText? text with
  | none => simp [Reaction.refused, Reaction.quiet]
  | some msg =>
    simp only [Option.some.injEq, exists_and_left, exists_eq_left']
    rw [Desk.handleJson]
    cases hi : venue.inspect msg with
    | control => simp [Reaction.quiet]
    | refusal text => simp [Reaction.refused, Reaction.quiet]
    | data topic =>
      simp only [Frame.data.injEq, exists_eq_left']
      cases hc : venue.channel? topic with
      | none => simp [Reaction.refused, Reaction.quiet]
      | some channel => simp [result_handleData_eq_overflow_iff]

/-- A frame stops the work exactly if it is a balance of KuCoin whose total and available amounts
lie too far apart, and a list of balances does so at its first such entry if all before it can be
read. Every other frame is handled or refused. Amounts of one sign are never too far apart. -/
theorem overflow_iff (venue : Venue) (dir : Directory) (time : Int64) :
    (∀ d text, (Desk.handle d venue dir text time).result = .overflow ↔ venue = .kucoin ∧
      ∃ msg topic data, Json.ofText? text = some msg ∧ Kucoin.inspect msg = .data topic ∧
        Kucoin.channel? topic = some .balances ∧ msg.field "data" = .ok data ∧
          Kucoin.Overflows data "total") ∧
      (∀ response, venue.readBalances dir response time = .error .overflow ↔ venue = .kucoin ∧
        ∃ read entry rest, response.itemsField "data" = .ok (read ++ entry :: rest) ∧
          (∀ x ∈ read, ∃ e, Kucoin.readAccount time x = .ok e) ∧
            Kucoin.Overflows entry "balance") ∧
      ∀ v name available total, v.decimalField "available" = .ok available →
        v.decimalField name = .ok total → (total.units < 0 ↔ available.units < 0) →
          ¬ Kucoin.Overflows v name := by
  refine ⟨fun d text => ?_, fun response => ?_, ?_⟩
  · rw [result_handle_eq_overflow_iff]
    cases venue with
    | vertex => simp [readBalance_eq_overflow_iff]
    | kucoin =>
      simp only [readBalance_eq_overflow_iff, true_and]
      constructor
      · rintro ⟨msg, topic, hm, hi, hc, data, hd, ho⟩
        exact ⟨msg, topic, data, hm, hi, hc, hd, ho⟩
      · rintro ⟨msg, topic, data, hm, hi, hc, hd, ho⟩
        exact ⟨msg, topic, hm, hi, hc, data, hd, ho⟩
  · cases venue with
    | vertex => simp [readBalances]
    | kucoin => simpa [readBalances] using Kucoin.readBalances_eq_overflow_iff
  · rintro v name available total ha ht hsign ⟨a, t, currency, ha', ht', _, hwide⟩
    obtain rfl := Except.ok.inj (ha.symm.trans ha')
    obtain rfl := Except.ok.inj (ht.symm.trans ht')
    exact Decimal.not_isWide_sub hsign hwide

theorem overflow_at_a_negative_amount :
    let text := "\x7b\"topic\":\"/account/balance\",\"data\":\x7b\"available\":\"-1\"," ++
      "\"currency\":\"a\",\"total\":\"79228162514264337593543950335\"\x7d\x7d"
    ((Desk.empty .kucoin none).handle .kucoin (.empty .kucoin) text 0).result = .overflow := by
  decide +kernel

end Venue

end MarketFeed
