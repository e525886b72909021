/-!
# Text

Documents, names and patterns are lists of characters. Characters are Unicode scalar values, and
their order is that of their code points.

* `Text`: a list of characters.
* `Text.decimal`, `Text.hex`: a number in decimal and in lower-case hexadecimal.
* `Text.startsWith`: the test for a fixed beginning, and `Text.run`, the length of the longest
  beginning whose characters all pass a test.
* `Text.sortsUpTo`: the order of texts as in a dictionary.
-/

namespace MarkupOrder

/-- A text is a list of characters. -/
abbrev Text := List Char

namespace Text

/-- The decimal digits of a number, without leading zeros. -/
def decimal (n : Nat) : Text := Nat.toDigits 10 n

/-- The lower-case hexadecimal digits of a number, without leading zeros. -/
def hex (n : Nat) : Text := Nat.toDigits 16 n

/-- Whether a text begins with the given characters. -/
def startsWith (t start : Text) : Bool := start.isPrefixOf t

/-- The length of the longest beginning of a text whose characters all pass the test. -/
def run (test : Char → Bool) (t : Text) : Nat := (t.takeWhile test).length

/-- Whether a text is the same as another one or stands before it in the order of their
characters. -/
def sortsUpTo : Text → Text → Bool
  | [], _ => true
  | _ :: _, [] => false
  | c :: t, d :: u => decide (c.toNat < d.toNat) || (c == d && sortsUpTo t u)

theorem run_le_length (test : Char → Bool) (t : Text) : t.run test ≤ t.length :=
  (List.takeWhile_sublist test).length_le

end Text

end MarkupOrder
