import MarkupOrder.Pattern.Regex

/-!
# Searching

Matching works on marks: a list of truth values, one for every place of a text, from before its
first character to behind its last one. An expression takes marks on places where a match may start
to marks on the places where it may end, for all starts at once.

* `Marks.step`, `Marks.restrict`, `Marks.saturate`: the marks behind one character, those where a
  condition holds, and those that repetition reaches.
* `Regex.ends`: the places where a match may end.
* `Regex.occursIn`: whether an expression matches some stretch of a text.
-/

namespace MarkupOrder.Pattern

/-- Truth values for the places of a text. -/
abbrev Marks := List Bool

namespace Marks

/-- The marks of either list. -/
def join (a b : Marks) : Marks := List.zipWith (· || ·) a b

/-- The places one character behind a marked one, if the character between is in the set. -/
def step (s : CharSet) (t : Text) (marks : Marks) : Marks :=
  false :: List.zipWith (fun mark c => mark && s c) marks t

/-- The marked places where a condition holds; `before?` is the character before the first. -/
def restrict (l : Look) (before? : Option Char) : Text → Marks → Marks
  | _, [] => []
  | [], mark :: _ => [mark && l.holds before? none]
  | c :: t, mark :: marks => (mark && l.holds before? (some c)) :: restrict l (some c) t marks

/-- The marks after a number of rounds. -/
def iterate (f : Marks → Marks) : Nat → Marks → Marks
  | 0, marks => marks
  | n + 1, marks => iterate f n (f marks)

/-- The marks that any number of rounds up to `n` reaches. Once a round adds nothing, no later one
does. -/
def saturate (f : Marks → Marks) : Nat → Marks → Marks
  | 0, marks => marks
  | n + 1, marks =>
    let wider := marks.join (f marks)
    if wider = marks then marks else saturate f n wider

/-- A mark on every place of a text. -/
def everywhere (t : Text) : Marks := List.replicate (t.length + 1) true

end Marks

namespace Regex

/-- The places where a match may end that starts at a marked place. A text of `n` characters has
`n + 1` places, so as many rounds of an unlimited repetition reach all that it can reach. -/
def ends (t : Text) : Regex → Marks → Marks
  | empty, marks => marks
  | set s, marks => Marks.step s t marks
  | look l, marks => Marks.restrict l none t marks
  | cat r s, marks => ends t s (ends t r marks)
  | alt r s, marks => (ends t r marks).join (ends t s marks)
  | rep min none r, marks =>
    Marks.saturate (ends t r) (t.length + 1) (Marks.iterate (ends t r) min marks)
  | rep min (some max) r, marks =>
    Marks.saturate (ends t r) (max - min) (Marks.iterate (ends t r) min marks)

/-- Whether the expression matches some stretch of the text. -/
def occursIn (r : Regex) (t : Text) : Bool := (r.ends t (Marks.everywhere t)).any id

end Regex

end MarkupOrder.Pattern
