import MarkupOrder.Markup.Attribute

/-!
# Arranging attributes

An order is given by a rank on names. Names with a rank come first, by rank and otherwise as they
stood; names without one follow in the order of their characters.

* `Arrangement.names`: the arranged names.
* `Arrangement.lastNamed?`: the attribute that stands for all of its name, which is the last one.
* `Arrangement.attributes`: the arranged attributes.
* `Arrangement.repeats`: the names that a tag repeats, once for every repetition.
-/

namespace MarkupOrder

namespace Arrangement

variable (rank : Text → Option Nat)

/-- Whether `m` may stand before `n` by their ranks. -/
def ranksUpTo (m n : Text) : Bool := decide ((rank m).getD 0 ≤ (rank n).getD 0)

/-- The names in their final order. The sort is stable, so names of one rank stay as they stood. -/
def names (ns : List Text) : List Text :=
  (ns.filter fun n => (rank n).isSome).mergeSort (ranksUpTo rank) ++
    (ns.filter fun n => (rank n).isNone).mergeSort Text.sortsUpTo

/-- The last attribute of a name. -/
def lastNamed? (as : List Attribute) (n : Text) : Option Attribute :=
  as.reverse.find? fun a => a.name == n

/-- The attributes in their final order. Where a name occurs more than once, every place of it holds
the last attribute of that name. -/
def attributes (as : List Attribute) : List Attribute :=
  (names rank (as.map (·.name))).filterMap (lastNamed? as)

/-- The names that occur again behind names already seen, in order, once for every time. -/
def repeatsAfter (seen : List Text) : List Text → List Text
  | [] => []
  | n :: ns => if n ∈ seen then n :: repeatsAfter seen ns else repeatsAfter (n :: seen) ns

/-- The names that a list repeats, in order, once for every repetition. -/
def repeats (ns : List Text) : List Text := repeatsAfter [] ns

end Arrangement

end MarkupOrder
