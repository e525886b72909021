import MarkupOrder.Text.Basic

/-!
# Sets of code points, and tables over them

* `CodeRanges`: a set of code points, as a list of ranges with both ends included.
* `CodeRanges.has`: whether a character is in the set.
* `valueAt`: the value that a table of runs gives to a code point.
-/

namespace MarkupOrder.Unicode

/-- A set of code points: ranges with both ends included. -/
abbrev CodeRanges := List (Nat × Nat)

/-- Whether a character is in the set. -/
def CodeRanges.has (ranges : CodeRanges) (c : Char) : Bool :=
  ranges.any fun range => decide (range.1 ≤ c.toNat) && decide (c.toNat ≤ range.2)

/-- The value of the last run that starts at `n` or before it, the runs being in ascending order
of their starts; `value` where no run does. -/
def valueAt {α : Type} (n : Nat) (value : α) : List (Nat × α) → α
  | [] => value
  | (start, v) :: runs => if start ≤ n then valueAt n v runs else value

end MarkupOrder.Unicode
