import MarkupOrder.Token.Kind
import MarkupOrder.Unicode.Class

/-!
# Lexemes

A lexeme is a kind with the characters it was read from. Every character of a text belongs to
exactly one lexeme.

* `Lexeme.leading`: the kind of a text's first lexeme, and how many characters belong to it behind
  the first one. That there is a first one is what makes the reading end.
* `Lexeme.ofText`: the lexemes of a text.
* `Lexeme.joined`: the characters of a list of lexemes; `joined_ofText` says that nothing is lost.
-/

namespace MarkupOrder

/-- A kind with the text it was read from. -/
structure Lexeme where
  kind : Kind
  text : Text
deriving DecidableEq, Repr

namespace Lexeme

/-- The kind of the lexeme that starts with `c` before `rest`, and the number of characters of
`rest` that belong to it. White space and identifiers run on as far as they can, and the marks of
comments and declarations go before single characters. -/
def leading (c : Char) (rest : Text) : Kind × Nat :=
  if Unicode.isWhitespace c then (.whitespace, rest.run Unicode.isWhitespace)
  else if c = '<' ∧ rest.startsWith ['!', '-', '-'] then (.commentStart, 3)
  else if c = '<' ∧ rest.startsWith ['!'] then (.bangTagStart, 1)
  else if c = '-' ∧ rest.startsWith ['-', '>'] then (.commentEnd, 2)
  else match Kind.punctuation? c with
    | some kind => (kind, 0)
    | none =>
      if Unicode.isAlphabetic c then (.identifier, rest.run Unicode.isAlphanumeric)
      else (.unknown, 0)

/-- The first lexeme of a text that starts with `c` before `rest`. -/
def first (c : Char) (rest : Text) : Lexeme :=
  ⟨(leading c rest).1, c :: rest.take (leading c rest).2⟩

/-- What follows the first lexeme of a text that starts with `c` before `rest`. -/
def behind (c : Char) (rest : Text) : Text := rest.drop (leading c rest).2

theorem length_behind_le (c : Char) (rest : Text) : (behind c rest).length ≤ rest.length := by
  simp [behind]

theorem text_first_append_behind (c : Char) (rest : Text) :
    (first c rest).text ++ behind c rest = c :: rest := by
  simp [first, behind]

/-- The lexemes of a text, in order. -/
def ofText : Text → List Lexeme
  | [] => []
  | c :: rest => first c rest :: ofText (behind c rest)
termination_by t => t.length
decreasing_by exact Nat.lt_succ_of_le (length_behind_le c rest)

/-- The characters of a list of lexemes. -/
def joined (ls : List Lexeme) : Text := ls.flatMap (·.text)

@[simp] theorem joined_nil : joined [] = [] := rfl

@[simp] theorem joined_cons (l : Lexeme) (ls : List Lexeme) :
    joined (l :: ls) = l.text ++ joined ls := rfl

@[simp] theorem joined_append (ks ls : List Lexeme) :
    joined (ks ++ ls) = joined ks ++ joined ls :=
  List.flatMap_append

@[simp] theorem ofText_nil : ofText [] = [] := by rw [ofText]

theorem ofText_cons (c : Char) (rest : Text) :
    ofText (c :: rest) = first c rest :: ofText (behind c rest) := by rw [ofText]

/-- The lexemes of a text hold its characters, all of them and in order. -/
theorem joined_ofText (t : Text) : joined (ofText t) = t := by
  fun_induction ofText t with
  | case1 => rfl
  | case2 c rest ih => rw [joined_cons, ih, text_first_append_behind]

end Lexeme

end MarkupOrder
