import MarkupOrder.Text.Position
import MarkupOrder.Text.Quoted
import MarkupOrder.Token.Lexeme

/-!
# Tokens

A token is a lexeme with the position of its first character. The tokens of a text end with one
token of kind `endOfStream`, which has no characters.

* `Token.ofText`: the tokens of a text.
* `Cursor`, `Cursor.next`, `Cursor.take`: reading tokens one at a time. Behind the last one, the
  end of the stream comes again and again.
* `Token.render`: the form `[LINE:COLUMN](KIND "TEXT")`.
-/

namespace MarkupOrder

/-- A lexeme and where it starts. -/
structure Token extends Lexeme where
  position : Position
deriving DecidableEq, Repr

namespace Token

/-- The token that ends a stream at `p`. -/
def endAt (p : Position) : Token := ⟨⟨.endOfStream, []⟩, p⟩

/-- Whether the token ends a stream. -/
def isEnd (t : Token) : Bool := t.kind == .endOfStream

/-- The lexemes as tokens, the first one at `p`, and the end of the stream behind them. -/
def locate (p : Position) : List Lexeme → List Token
  | [] => [endAt p]
  | l :: ls => ⟨l, p⟩ :: locate (p.after l.text) ls

/-- The tokens of a text. -/
def ofText (t : Text) : List Token := locate .start (Lexeme.ofText t)

/-- The form `[LINE:COLUMN](KIND "TEXT")`. -/
def render (t : Token) : Text :=
  '[' :: t.position.render ++ [']', '('] ++ t.kind.name.toList ++ ' ' :: Quoted.quote t.text ++ [')']

@[simp] theorem length_locate (p : Position) (ls : List Lexeme) :
    (locate p ls).length = ls.length + 1 := by
  induction ls generalizing p with
  | nil => rfl
  | cons l ls ih => simp [locate, ih]

end Token

/-- The part of a text that is still to be read, and where it starts. -/
structure Cursor where
  rest : Text
  position : Position

namespace Cursor

/-- The cursor before the first character of a text. -/
def ofText (t : Text) : Cursor := ⟨t, .start⟩

/-- The next token, and the cursor behind it. -/
def next (cursor : Cursor) : Token × Cursor :=
  match cursor.rest with
  | [] => (.endAt cursor.position, cursor)
  | c :: rest =>
    let l := Lexeme.first c rest
    (⟨l, cursor.position⟩, ⟨Lexeme.behind c rest, cursor.position.after l.text⟩)

/-- The next `n` tokens, and the cursor behind them. -/
def take (cursor : Cursor) : Nat → List Token × Cursor
  | 0 => ([], cursor)
  | n + 1 =>
    let (t, cursor) := cursor.next
    let (ts, cursor) := cursor.take n
    (t :: ts, cursor)

/-- All tokens from the cursor on. -/
def tokens (cursor : Cursor) : List Token :=
  Token.locate cursor.position (Lexeme.ofText cursor.rest)

end Cursor

end MarkupOrder
