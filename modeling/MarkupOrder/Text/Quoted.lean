import MarkupOrder.Unicode.Class

/-!
# Quoted texts

The debug form of a text: double quotes around it, and an escape for every character that could
not be read back or seen.

* `Quoted.escape`: the form of one character within the quotes.
* `Quoted.quote`: the form of a text.
-/

namespace MarkupOrder

namespace Quoted

/-- The form of one character. The quote and the backslash follow a backslash; NUL, tab, carriage
return and line feed have a letter each; what is not printable, and what would attach to the
character before it, is written as its code point in braces. -/
def escape (c : Char) : Text :=
  if c = '\x22' then ['\\', '\x22']
  else if c = '\\' then ['\\', '\\']
  else if c = '\x00' then ['\\', '0']
  else if c = '\t' then ['\\', 't']
  else if c = '\r' then ['\\', 'r']
  else if c = '\n' then ['\\', 'n']
  else if Unicode.isGraphemeExtend c || !Unicode.isPrintable c then
    ['\\', 'u', '\x7b'] ++ Text.hex c.toNat ++ ['\x7d']
  else [c]

/-- A text in double quotes, character by character. -/
def quote (t : Text) : Text := '\x22' :: t.flatMap escape ++ ['\x22']

end Quoted

end MarkupOrder
