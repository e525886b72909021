import MarkupOrder.Token.Kind
import MarkupOrder.Unicode.Class

/-!
# Classes of characters exclude one another

White space, the alphanumeric characters and the characters that are tokens by themselves are three
disjoint classes: `isAlphanumeric_of_isWhitespace`, `isWhitespace_of_punctuation` and
`isAlphanumeric_of_punctuation`. All reading of lexemes rests on this. `Kind.text?` is the text of
the kinds that have one text only.
-/

namespace MarkupOrder.Unicode

/-- The code points of a set of ranges, one by one. -/
def CodeRanges.codes (ranges : CodeRanges) : List Nat :=
  ranges.flatMap fun range => List.range' range.1 (range.2 + 1 - range.1)

theorem CodeRanges.toNat_mem_codes {ranges : CodeRanges} {c : Char} (h : ranges.has c = true) :
    c.toNat ∈ ranges.codes := by
  obtain ⟨range, hr, h⟩ := List.any_eq_true.1 h
  simp only [Bool.and_eq_true, decide_eq_true_eq] at h
  refine List.mem_flatMap.2 ⟨range, hr, List.mem_range'_1.2 ⟨h.1, ?_⟩⟩
  omega

theorem isAlphanumeric_of_isWhitespace {c : Char} (h : isWhitespace c = true) :
    isAlphanumeric c = false := by
  have hcodes : ∀ n ∈ whitespaceRanges.codes, isAlphanumeric (Char.ofNat n) = false := by
    decide +kernel
  have hc := hcodes c.toNat (CodeRanges.toNat_mem_codes h)
  rwa [Char.ofNat_toNat] at hc

theorem isAlphanumeric_of_isAlphabetic {c : Char} (h : isAlphabetic c = true) :
    isAlphanumeric c = true := by
  simp [isAlphanumeric, h]

theorem isWhitespace_of_isAlphanumeric {c : Char} (h : isAlphanumeric c = true) :
    isWhitespace c = false := by
  cases hw : isWhitespace c with
  | false => rfl
  | true => simp [isAlphanumeric_of_isWhitespace hw] at h

end MarkupOrder.Unicode

namespace MarkupOrder.Kind

open Unicode

/-- The characters that are tokens by themselves. -/
def marks : List Char :=
  ['<', '>', '\x22', '\x27', ':', '.', '=', '(', ')', '[', ']', '/', '!', '-', '#', '@', '*']

theorem mem_marks_of_punctuation {c : Char} {k : Kind} (h : punctuation? c = some k) :
    c ∈ marks := by
  unfold punctuation? at h
  split at h
  case h_18 => cases h
  all_goals simp [marks]

/-- The text that all lexemes of a kind have, for the kinds where it is always the same. -/
def text? : Kind → Option Text
  | tagOpen => some ['<']
  | tagClose => some ['>']
  | equals => some ['=']
  | leftParen => some ['(']
  | rightParen => some [')']
  | leftBracket => some ['[']
  | rightBracket => some [']']
  | singleQuote => some ['\x27']
  | doubleQuote => some ['\x22']
  | slash => some ['/']
  | bang => some ['!']
  | minus => some ['-']
  | hash => some ['#']
  | atSign => some ['@']
  | star => some ['*']
  | colon => some [':']
  | dot => some ['.']
  | commentStart => some ['<', '!', '-', '-']
  | commentEnd => some ['-', '-', '>']
  | bangTagStart => some ['<', '!']
  | identifier | whitespace | unknown | endOfStream => none

theorem text?_of_punctuation {c : Char} {k : Kind} (h : punctuation? c = some k) :
    k.text? = some [c] := by
  unfold punctuation? at h
  split at h <;> cases h <;> rfl

theorem isWhitespace_of_punctuation {c : Char} {k : Kind} (h : punctuation? c = some k) :
    isWhitespace c = false := by
  have hmarks : (marks.all fun c => !isWhitespace c) = true := by decide
  simpa using List.all_eq_true.1 hmarks c (mem_marks_of_punctuation h)

theorem isAlphanumeric_of_punctuation {c : Char} {k : Kind} (h : punctuation? c = some k) :
    isAlphanumeric c = false := by
  have hmarks : (marks.all fun c => !isAlphanumeric c) = true := by decide
  simpa using List.all_eq_true.1 hmarks c (mem_marks_of_punctuation h)

end MarkupOrder.Kind
