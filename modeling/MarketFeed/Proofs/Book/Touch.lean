import MarketFeed.Book
import MarketFeed.Proofs.Decimal.Halving

namespace MarketFeed.Book

open Decimal

variable {book : Book} {bid ask : Level}

lemma touch?_eq (hbid : book.best? .bid = some bid) (hask : book.best? .ask = some ask) :
    book.touch? = some (bid.price, ask.price) := by
  change book.bids.best? = some bid at hbid
  change book.asks.best? = some ask at hask
  rw [touch?, hbid, hask]
  rfl

/-- The middle of best prices that do not cross lies between them. It is exact if some decimal stands
for the exact middle; otherwise it is the even one of the two nearest numbers at the scale of the
sum. A difference of the prices that fits at their scale is exact. -/
theorem mid_between_quotes (hbid : book.best? .bid = some bid) (hask : book.best? .ask = some ask)
    (hle : bid.price.value ≤ ask.price.value)
    (hsum : FitsAt (bid.price.value + ask.price.value) (max bid.price.scale ask.price.scale)) :
    (∃ m, book.mid = some (some m) ∧ bid.price.value ≤ m.value ∧ m.value ≤ ask.price.value ∧
      (Held ((bid.price.value + ask.price.value) / 2) →
        m.value = (bid.price.value + ask.price.value) / 2) ∧
      (¬ Held ((bid.price.value + ask.price.value) / 2) →
        |m.value - (bid.price.value + ask.price.value) / 2| =
            1 / 10 ^ max bid.price.scale ask.price.scale / 2 ∧
          ∃ n : ℤ, Even n ∧ m.value = n / 10 ^ max bid.price.scale ask.price.scale)) ∧
      (FitsAt (ask.price.value - bid.price.value) (max bid.price.scale ask.price.scale) →
        ∃ d, book.spread = some (some d) ∧ d.value = ask.price.value - bid.price.value) := by
  constructor
  · obtain ⟨m, hm, hbetween⟩ := exists_midpoint hle hsum
    refine ⟨m, ?_, hbetween⟩
    rw [mid, touch?_eq hbid hask]
    exact congrArg some hm
  · intro hdiff
    rw [Nat.max_comm] at hdiff
    obtain ⟨d, hd, hvalue⟩ := exists_sub hdiff
    refine ⟨d, ?_, hvalue⟩
    rw [spread, touch?_eq hbid hask]
    exact congrArg some hd

theorem mid_between_quotes_in_the_last_place :
    let size : Decimal := ⟨false, 1, 0, by decide, by decide⟩
    let bid : Level := ⟨⟨true, 4, 28, by decide, by decide⟩, size⟩
    let ask : Level := ⟨⟨true, 3, 28, by decide, by decide⟩, size⟩
    let book : Book := { Book.empty .vertex "BTC-USDC" none with
      bids := ⟨[bid], List.pairwise_singleton _ _, by decide⟩
      asks := ⟨[ask], List.pairwise_singleton _ _, by decide⟩ }
    book.best? .bid = some bid ∧ book.best? .ask = some ask ∧
      bid.price.value ≤ ask.price.value ∧ FitsAt (bid.price.value + ask.price.value) 28 ∧
      ¬ Held ((bid.price.value + ask.price.value) / 2) ∧
      (∃ m, book.mid = some (some m) ∧ bid.price.value ≤ m.value ∧ m.value ≤ ask.price.value ∧
        |m.value - (bid.price.value + ask.price.value) / 2| = 1 / 10 ^ 28 / 2) ∧
      FitsAt (ask.price.value - bid.price.value) 28 ∧
      ∃ d, book.spread = some (some d) ∧ d.value = 1 / 10 ^ 28 := by
  intro size bid ask book
  have hbid : bid.price.value = -4 / 10 ^ 28 := by
    change ((-4 : ℤ) / 10 ^ 28 : ℚ) = _
    norm_num
  have hask : ask.price.value = -3 / 10 ^ 28 := by
    change ((-3 : ℤ) / 10 ^ 28 : ℚ) = _
    norm_num
  have hle : bid.price.value ≤ ask.price.value := by
    rw [hbid, hask]
    norm_num
  have hsum : FitsAt (bid.price.value + ask.price.value) 28 := by
    refine ⟨-7, by decide, ?_⟩
    rw [hbid, hask]
    norm_num
  have hdiff : ask.price.value - bid.price.value = 1 / 10 ^ 28 := by
    rw [hbid, hask]
    norm_num
  have hfits : FitsAt (ask.price.value - bid.price.value) 28 := by
    refine ⟨1, by decide, ?_⟩
    rw [hdiff, Int.cast_one]
  have hheld : ¬ Held ((bid.price.value + ask.price.value) / 2) := by
    have hmid : (bid.price.value + ask.price.value) / 2 =
        Text.signed true ((7 : ℕ) / 10 ^ 28 / 2 : ℚ) := by
      rw [hbid, hask, Text.signed]
      norm_num
    rw [hmid, held_signed_iff]
    exact fun h => (not_halfFits_iff.mpr ⟨rfl, fun hlt => absurd hlt (by decide)⟩)
      (halfFits_of_held h)
  obtain ⟨⟨m, hm, hlow, hhigh, _, hround⟩, hspread⟩ :=
    @mid_between_quotes book bid ask rfl rfl hle hsum
  obtain ⟨d, hd, hvalue⟩ := hspread hfits
  exact ⟨rfl, rfl, hle, hsum, hheld, ⟨m, hm, hlow, hhigh, (hround hheld).1⟩, hfits, d, hd,
    hvalue.trans hdiff⟩

end MarketFeed.Book
