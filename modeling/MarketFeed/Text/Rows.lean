import MarketFeed.Text.Digits

namespace MarketFeed.Text

structure RowScan where
  rows : List (List Nat)
  row : List Nat
  number : Option Nat

namespace RowScan

def start : RowScan := ⟨[], [], none⟩

def endNumber (s : RowScan) : RowScan := ⟨s.rows, s.number.toList ++ s.row, none⟩

def endRow (s : RowScan) : RowScan := ⟨s.endNumber.row.reverse :: s.rows, [], none⟩

def next (s : RowScan) (c : Char) : RowScan :=
  match hexValue? c with
  | some d => { s with number := some (16 * s.number.getD 0 + d) }
  | none => if c = ',' then s.endRow else s.endNumber

end RowScan

def rows (table : String) : List (List Nat) :=
  (table.toList.foldl RowScan.next .start).endRow.rows.reverse

def ranges (table : String) : List (Nat × Nat) :=
  (rows table).filterMap fun
    | [a] => some (a, a)
    | [a, b] => some (a, b)
    | _ => none

def triples (table : String) : List (Nat × Nat × Nat) :=
  (rows table).filterMap fun
    | [a, b, c] => some (a, b, c)
    | _ => none

def words (table : String) : List (Nat × List Nat) :=
  (rows table).filterMap fun
    | a :: word => some (a, word)
    | [] => none

def inRanges (ranges : List (Nat × Nat)) (n : Nat) : Bool :=
  ranges.any fun (first, last) => first ≤ n && n ≤ last

def rangeValue? (table : List (Nat × Nat × Nat)) (n : Nat) : Option (Nat × Nat) :=
  (table.find? fun (first, last, _) => first ≤ n && n ≤ last).map fun (first, _, v) =>
    (v, n - first)

end MarketFeed.Text
