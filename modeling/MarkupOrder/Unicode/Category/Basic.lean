import MarkupOrder.Unicode.CodeRanges

/-!
# General categories

Every code point has one general category. The constructors carry the two-letter names of the
Unicode standard.

* `Category`: the thirty categories.
* `Category.isLetter`, `Category.isMark`, `Category.isNumber` and their fellows: the groups of
  categories with one first letter.
* `Category.names`: the names a category can be asked for by.
-/

namespace MarkupOrder.Unicode

/-- A general category, by its two-letter name. -/
inductive Category where
  | lu | ll | lt | lm | lo
  | mn | mc | me
  | nd | nl | no
  | pc | pd | ps | pe | pi | pf | po
  | sm | sc | sk | so
  | zs | zl | zp
  | cc | cf | cs | co | cn
deriving DecidableEq, Repr

namespace Category

/-- The letters: categories whose short names begin with L. -/
def isLetter : Category → Bool
  | lu | ll | lt | lm | lo => true
  | _ => false

/-- The letters that have case. -/
def isCased : Category → Bool
  | lu | ll | lt => true
  | _ => false

/-- The marks: categories whose short names begin with M. -/
def isMark : Category → Bool
  | mn | mc | me => true
  | _ => false

/-- The numbers: categories whose short names begin with N. -/
def isNumber : Category → Bool
  | nd | nl | no => true
  | _ => false

/-- The punctuation: categories whose short names begin with P. -/
def isPunctuation : Category → Bool
  | pc | pd | ps | pe | pi | pf | po => true
  | _ => false

/-- The symbols: categories whose short names begin with S. -/
def isSymbol : Category → Bool
  | sm | sc | sk | so => true
  | _ => false

/-- The separators: categories whose short names begin with Z. -/
def isSeparator : Category → Bool
  | zs | zl | zp => true
  | _ => false

/-- The rest: controls, format characters, private use and what is unassigned. -/
def isOther : Category → Bool
  | cc | cf | cs | co | cn => true
  | _ => false

/-- The names by which one category can be asked for, in lower case and without underscores. No
character is a surrogate, so that category has none. -/
def names : Category → List String
  | lu => ["lu", "uppercaseletter"]
  | ll => ["ll", "lowercaseletter"]
  | lt => ["lt", "titlecaseletter"]
  | lm => ["lm", "modifierletter"]
  | lo => ["lo", "otherletter"]
  | mn => ["mn", "nonspacingmark"]
  | mc => ["mc", "spacingmark"]
  | me => ["me", "enclosingmark"]
  | nd => ["nd", "decimalnumber", "digit"]
  | nl => ["nl", "letternumber"]
  | no => ["no", "othernumber"]
  | pc => ["pc", "connectorpunctuation"]
  | pd => ["pd", "dashpunctuation"]
  | ps => ["ps", "openpunctuation"]
  | pe => ["pe", "closepunctuation"]
  | pi => ["pi", "initialpunctuation"]
  | pf => ["pf", "finalpunctuation"]
  | po => ["po", "otherpunctuation"]
  | sm => ["sm", "mathsymbol"]
  | sc => ["sc", "currencysymbol"]
  | sk => ["sk", "modifiersymbol"]
  | so => ["so", "othersymbol"]
  | zs => ["zs", "spaceseparator"]
  | zl => ["zl", "lineseparator"]
  | zp => ["zp", "paragraphseparator"]
  | cc => ["cc", "control", "cntrl"]
  | cf => ["cf", "format"]
  | cs => []
  | co => ["co", "privateuse"]
  | cn => ["cn", "unassigned"]

/-- Every category, once. -/
def all : List Category :=
  [lu, ll, lt, lm, lo, mn, mc, me, nd, nl, no, pc, pd, ps, pe, pi, pf, po, sm, sc, sk, so,
   zs, zl, zp, cc, cf, cs, co, cn]

end Category

end MarkupOrder.Unicode
