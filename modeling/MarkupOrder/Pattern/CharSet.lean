import MarkupOrder.Unicode.CaseFold
import MarkupOrder.Unicode.Class

/-!
# Sets of characters

A set of characters is its membership test.

* `CharSet` and its operations: `single`, `range`, `union`, `inter`, `diff`, `symmDiff`, `compl`.
* `CharSet.digit`, `CharSet.space`, `CharSet.word`: the classes that an escape letter names, in
  their Unicode and their ASCII form.
* `CharSet.asciiNamed?`: the ASCII classes that are named between colons.
* `CharSet.caseClosure`: a set with all characters that are alike to its members up to case.
-/

namespace MarkupOrder.Pattern

/-- A set of characters. -/
abbrev CharSet := Char → Bool

namespace CharSet

/-- The empty set. -/
def empty : CharSet := fun _ => false

/-- The set of all characters. -/
def any : CharSet := fun _ => true

/-- The set of one character. -/
def single (c : Char) : CharSet := fun d => d == c

/-- The set of the characters from `first` to `last`, both included. -/
def range (first last : Char) : CharSet := fun d => decide (first ≤ d) && decide (d ≤ last)

/-- The set of the given characters. -/
def ofList (cs : List Char) : CharSet := fun d => cs.contains d

/-- The characters of either set. -/
def union (s t : CharSet) : CharSet := fun d => s d || t d

/-- The characters of both sets. -/
def inter (s t : CharSet) : CharSet := fun d => s d && t d

/-- The characters of the first set that are not in the second. -/
def diff (s t : CharSet) : CharSet := fun d => s d && !t d

/-- The characters of exactly one of the sets. -/
def symmDiff (s t : CharSet) : CharSet := fun d => s d != t d

/-- The characters that are not in the set. -/
def compl (s : CharSet) : CharSet := fun d => !s d

/-- ASCII characters. -/
def ascii : CharSet := range '\x00' '\x7f'

/-- ASCII letters, digits and the underscore. -/
def asciiWord : CharSet := fun c => c.isAlphanum || c == '_'

/-- ASCII white space, the vertical tab included. -/
def asciiSpace : CharSet := ofList ['\t', '\n', '\x0b', '\x0c', '\r', ' ']

/-- Decimal digits. -/
def digit (unicode : Bool) : CharSet := fun c =>
  if unicode then Unicode.category c == .nd else c.isDigit

/-- White space. -/
def space (unicode : Bool) : CharSet := fun c =>
  if unicode then Unicode.isWhitespace c else asciiSpace c

/-- The characters of words: alphabetic characters, marks, decimal digits, connector punctuation
and the two join controls. -/
def word (unicode : Bool) : CharSet := fun c =>
  if unicode && 128 ≤ c.toNat then
    Unicode.isAlphabetic c || (Unicode.category c).isMark || Unicode.category c == .nd ||
      Unicode.category c == .pc || c == '\u200c' || c == '\u200d'
  else asciiWord c

/-- The ASCII classes that have a name. -/
def asciiClasses : List (String × CharSet) :=
  [("alnum", Char.isAlphanum),
   ("alpha", Char.isAlpha),
   ("ascii", ascii),
   ("blank", ofList [' ', '\t']),
   ("cntrl", union (range '\x00' '\x1f') (single '\x7f')),
   ("digit", Char.isDigit),
   ("graph", range '!' '~'),
   ("lower", Char.isLower),
   ("print", range ' ' '~'),
   ("punct", diff (range '!' '~') Char.isAlphanum),
   ("space", asciiSpace),
   ("upper", Char.isUpper),
   ("word", asciiWord),
   ("xdigit", fun c => c.isDigit || range 'a' 'f' c || range 'A' 'F' c)]

/-- The ASCII class of a name. -/
def asciiNamed? (name : Text) : Option CharSet :=
  (asciiClasses.find? fun entry => entry.1.toList == name).map (·.2)

/-- The set with all characters that are alike to its members up to case. -/
def caseClosure (unicode : Bool) (s : CharSet) : CharSet := fun c =>
  (if unicode then Unicode.caseOrbit c else Unicode.asciiCaseOrbit c).any s

end CharSet

end MarkupOrder.Pattern
