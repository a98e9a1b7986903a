import Mathlib.Data.String.Basic
import Mathlib.Tactic.Lemma
import MarketFeed.Json.Printer
import MarketFeed.Json.Reader

namespace MarketFeed.Json

lemma readUnit_hexDigit : ∀ n < 32,
    readUnit '0' '0' (hexDigit (n / 16)) (hexDigit (n % 16)) = some n := by decide

lemma exists_piece (c : Char) : ∃ p : Piece,
    (∀ t, readPieces (escapeChar c ++ t) = (readPieces t).map fun (ps, r) => (p :: ps, r)) ∧
      ∀ ps, joinPieces (p :: ps) = (joinPieces ps).map (c :: ·) := by
  rw [escapeChar]
  split_ifs with hq hb h8 hf hn hr ht hc
  · exact ⟨.plain c, fun t => by simp [readPieces, escaped?, hq], fun _ => rfl⟩
  · exact ⟨.plain c, fun t => by simp [readPieces, escaped?, hb], fun _ => rfl⟩
  · exact ⟨.plain c, fun t => by simp [readPieces, escaped?, h8], fun _ => rfl⟩
  · exact ⟨.plain c, fun t => by simp [readPieces, escaped?, hf], fun _ => rfl⟩
  · exact ⟨.plain c, fun t => by simp [readPieces, escaped?, hn], fun _ => rfl⟩
  · exact ⟨.plain c, fun t => by simp [readPieces, escaped?, hr], fun _ => rfl⟩
  · exact ⟨.plain c, fun t => by simp [readPieces, escaped?, ht], fun _ => rfl⟩
  · refine ⟨.unit c.toNat, fun t => ?_, fun ps => ?_⟩
    · simp [readPieces, readUnit_hexDigit _ hc]
    · have hl : isLeading c.toNat = false := by simp [isLeading]; omega
      have ht : isTrailing c.toNat = false := by simp [isTrailing]; omega
      rw [joinPieces.eq_def (.unit c.toNat :: ps)]
      simp [hl, ht]
  · refine ⟨.plain c, fun t => ?_, fun _ => rfl⟩
    rw [List.singleton_append, readPieces.eq_def]
    split <;> simp_all

lemma readPieces_escaped (cs r : List Char) :
    ∃ ps, readPieces (cs.flatMap escapeChar ++ '"' :: r) = some (ps, r) ∧
      joinPieces ps = some cs := by
  induction cs with
  | nil => exact ⟨[], by simp [readPieces], rfl⟩
  | cons c cs ih =>
    obtain ⟨ps, hread, hjoin⟩ := ih
    obtain ⟨p, hp, hpj⟩ := exists_piece c
    refine ⟨p :: ps, ?_, ?_⟩
    · rw [List.flatMap_cons, List.append_assoc, hp, hread, Option.map_some]
    · rw [hpj, hjoin, Option.map_some]

lemma readString_escaped (s : String) (r : List Char) :
    readString (s.toList.flatMap escapeChar ++ '"' :: r) = some (some s, r) := by
  obtain ⟨ps, hread, hjoin⟩ := readPieces_escaped s.toList r
  simp [readString, hread, hjoin]

end MarketFeed.Json
