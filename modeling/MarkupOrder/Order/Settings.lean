import MarkupOrder.Order.Arrangement
import MarkupOrder.Pattern.Reader
import MarkupOrder.Pattern.Search
import MarkupOrder.Text.Quoted

/-!
# Order settings

The order of attributes is given by a list of patterns, the more important ones first. A pattern is
meant to match a whole name, so it is read as a group between anchors; what it means is what the
text that results from this means.

* `OrderPattern.ofSource?`: a pattern from its text.
* `OrderSettings.ofSources`: settings from the texts of their patterns. The first text that is not
  a pattern is reported.
* `OrderSettings.rank`: the index of the first pattern that matches a name.
* `OrderSettings.arrange`: the attributes of a tag in their final order.
-/

namespace MarkupOrder

open Pattern

/-- A pattern and the text it was given by. -/
structure OrderPattern where
  source : Text
  regex : Regex

namespace OrderPattern

/-- The text that a pattern is read as: a group between the anchors of a text. -/
def anchored (source : Text) : Text := ['^', '(', '?', ':'] ++ source ++ [')', '$']

/-- The pattern that a text stands for. -/
def ofSource? (source : Text) : Option OrderPattern :=
  (Regex.ofText? (anchored source)).map fun regex => ⟨source, regex⟩

/-- Whether the pattern matches a name. -/
def hits (p : OrderPattern) (name : Text) : Bool := p.regex.occursIn name

end OrderPattern

/-- A text that should have been a pattern. -/
structure PatternError where
  source : Text
deriving DecidableEq, Repr

namespace PatternError

/-- The error message, up to the reason. -/
def message (e : PatternError) : Text :=
  "invalid order pattern ".toList ++ Quoted.quote e.source ++ ": ".toList

end PatternError

/-- The patterns that give the order of attributes, the more important ones first. -/
structure OrderSettings where
  patterns : List OrderPattern

namespace OrderSettings

/-- The patterns of a list of texts. -/
def compile : List Text → Except PatternError (List OrderPattern)
  | [] => .ok []
  | source :: sources => do
    match OrderPattern.ofSource? source with
    | none => .error ⟨source⟩
    | some p => return p :: (← compile sources)

/-- The settings of a list of texts. -/
def ofSources (sources : List Text) : Except PatternError OrderSettings := do
  return ⟨← compile sources⟩

/-- The texts that the patterns were given by. -/
def sources (s : OrderSettings) : List Text := s.patterns.map (·.source)

/-- Whether there are no patterns. -/
def isEmpty (s : OrderSettings) : Bool := s.patterns.isEmpty

/-- The index of the first pattern that matches a name. -/
def rank (s : OrderSettings) (name : Text) : Option Nat := s.patterns.findIdx? (·.hits name)

/-- The names in their final order. -/
def arrangeNames (s : OrderSettings) (names : List Text) : List Text :=
  Arrangement.names s.rank names

/-- The attributes of a tag in their final order. -/
def arrange (s : OrderSettings) (as : List Attribute) : List Attribute :=
  Arrangement.attributes s.rank as

end OrderSettings

end MarkupOrder
