import MarkupOrder.Pattern.CharSet

/-!
# Regular expressions

* `Look`, `Look.holds`: conditions on the place between two characters.
* `Regex`: regular expressions over sets of characters and conditions.
* `Regex.repeated`: repetition, which repeats at most once what matches nothing but places.
* `Regex.size`: the number of steps of an expression written out. A set is one step, however many
  characters it has, and however long their encodings are.
-/

namespace MarkupOrder.Pattern

/-- Where a place stands to the word on either side of it. -/
inductive WordEdge where
  | boundary
  | inside
  | start
  | finish
  | startHalf
  | finishHalf
deriving DecidableEq, Repr

/-- Whether a place is such an edge, given whether the characters before and behind it belong to
words. -/
def WordEdge.holds (before behind : Bool) : WordEdge → Bool
  | boundary => before != behind
  | inside => before == behind
  | start => !before && behind
  | finish => before && !behind
  | startHalf => !before
  | finishHalf => !behind

/-- A condition on the place between two characters. -/
inductive Look where
  | textStart
  | textEnd
  | lineStart
  | lineEnd
  /-- The start of a line where lines also end with a carriage return, alone or before a line
  feed. -/
  | crlfLineStart
  /-- The end of such a line. -/
  | crlfLineEnd
  | word (edge : WordEdge) (unicode : Bool)
deriving DecidableEq, Repr

/-- Whether a condition holds between two characters; `none` stands for the ends of the text. -/
def Look.holds (before? behind? : Option Char) : Look → Bool
  | textStart => before? == none
  | textEnd => behind? == none
  | lineStart => before? == none || before? == some '\n'
  | lineEnd => behind? == none || behind? == some '\n'
  | crlfLineStart =>
    before? == none || before? == some '\n' || (before? == some '\r' && behind? != some '\n')
  | crlfLineEnd =>
    behind? == none || behind? == some '\r' || (behind? == some '\n' && before? != some '\r')
  | word edge unicode =>
    edge.holds (before?.any (CharSet.word unicode)) (behind?.any (CharSet.word unicode))

/-- A regular expression. Which of several matches is taken is of no concern, so there are neither
captures nor lazy repetitions. -/
inductive Regex where
  | empty
  | set (s : CharSet)
  | look (l : Look)
  | cat (r s : Regex)
  | alt (r s : Regex)
  /-- At least `min` times, and at most `max?` times if that is given. -/
  | rep (min : Nat) (max? : Option Nat) (r : Regex)

namespace Regex

/-- Whether an expression matches no characters at all, only places. -/
def isPlace : Regex → Bool
  | empty | look _ => true
  | set _ => false
  | cat r s | alt r s => r.isPlace && s.isPlace
  | rep _ max? r => max? == some 0 || r.isPlace

/-- Repetition. What matches only places is not repeated more than once, which changes nothing. -/
def repeated (min : Nat) (max? : Option Nat) (r : Regex) : Regex :=
  if r.isPlace then rep (Nat.min min 1) (some (Nat.min (max?.getD 1) 1)) r else rep min max? r

/-- The expressions one after another. -/
def sequence : List Regex → Regex
  | [] => empty
  | [r] => r
  | r :: rs => cat r (sequence rs)

/-- Any of the expressions. -/
def choice : List Regex → Regex
  | [] => empty
  | [r] => r
  | r :: rs => alt r (choice rs)

/-- The number of steps of an expression in which every repetition is written out. -/
def size : Regex → Nat
  | empty | set _ | look _ => 1
  | cat r s => r.size + s.size
  | alt r s => r.size + s.size + 1
  | rep min none r => Nat.max min 1 * r.size + 1
  | rep min (some max) r => min * r.size + (max - min) * (r.size + 1)

end Regex

end MarkupOrder.Pattern
