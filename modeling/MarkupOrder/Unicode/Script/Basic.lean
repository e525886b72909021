import MarkupOrder.Unicode.CodeRanges

/-!
# Scripts

* `Script`: a script's name, its four-letter codes and its code points.
-/

namespace MarkupOrder.Unicode

/-- A script of the Unicode standard. -/
structure Script where
  name : String
  codes : List String
  ranges : CodeRanges

end MarkupOrder.Unicode
