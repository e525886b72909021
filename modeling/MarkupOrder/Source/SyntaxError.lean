import MarkupOrder.Token.Token

/-!
# What a document was expected to go on with

* `Expectation`: the things a reading can insist on, each with its wording and its kind of token.
  Those in `Expectation.openings` are what a part begins with.
* `Failure`: an expectation that was not met, and the lexemes from the offending one on.
* `Expectation.meet`: passing one lexeme of the expected kind.
* `remainder`: what follows the part that has been read.
* `SyntaxError`, `Failure.locate`: the failure with the token that was found, in terms of the text
  as a whole.
-/

namespace MarkupOrder

/-- What a reading can insist on. -/
inductive Expectation where
  /-- An attribute, where neither a slash nor the end of the tag follows. -/
  | attributeName
  /-- The end of an opening tag. -/
  | tagEnd
  /-- The end of a parenthesised name. -/
  | parenEnd
  /-- The end of a bracketed name. -/
  | bracketEnd
  /-- A value behind `=`. -/
  | attributeValue
  /-- The quote that opened a value, a second time. -/
  | quoteEnd (quote : Kind)
  /-- The end of a closing tag. -/
  | closingTagEnd
  /-- The end of a comment. -/
  | commentEnd
  /-- The end of a declaration. -/
  | bangTagEnd
  /-- The `<` of a tag. -/
  | tagStart
  /-- The slash behind the `<` of a closing tag. -/
  | closingSlash
  /-- The quote that opens a value. -/
  | quoteStart
  /-- The start of a comment. -/
  | commentStart
  /-- The start of a declaration. -/
  | bangTagStart
deriving DecidableEq, Repr

namespace Expectation

/-- The expectation in words. -/
def words : Expectation → String
  | attributeName => "attribute identifier"
  | tagEnd => "closing '>'"
  | parenEnd => "attribute ')'"
  | bracketEnd => "attribute ']'"
  | attributeValue => "attribute value"
  | quoteEnd _ => "string end"
  | closingTagEnd => "closing tag '>'"
  | commentEnd => "comment end '-->'"
  | bangTagEnd => "bang tag closing '>'"
  | tagStart => "tag opening '<'"
  | closingSlash => "closing tag '/'"
  | quoteStart => "string start ('\x22' or ''')"
  | commentStart => "comment start '<!--'"
  | bangTagStart => "bang tag '<!'"

/-- The kind of token that would have met the expectation. -/
def kind : Expectation → Kind
  | attributeName => .identifier
  | tagEnd | closingTagEnd | bangTagEnd => .tagClose
  | parenEnd => .rightParen
  | bracketEnd => .rightBracket
  | attributeValue | quoteStart => .doubleQuote
  | quoteEnd quote => quote
  | commentEnd => .commentEnd
  | tagStart => .tagOpen
  | closingSlash => .slash
  | commentStart => .commentStart
  | bangTagStart => .bangTagStart

/-- What a part begins with. A part is read only where this has been seen. -/
def openings : List Expectation := [tagStart, closingSlash, quoteStart, commentStart, bangTagStart]

end Expectation

/-- An expectation that was not met, and the lexemes that were there instead. -/
structure Failure where
  expectation : Expectation
  rest : List Lexeme
deriving DecidableEq, Repr

namespace Failure

/-- A reading in two steps succeeds if and only if both do. -/
theorem bind_eq_ok_iff {α β : Type} {x : Except Failure α} {f : α → Except Failure β} {b : β} :
    (x >>= f) = .ok b ↔ ∃ a, x = .ok a ∧ f a = .ok b := by
  constructor
  · intro h
    cases x with
    | error e => cases h
    | ok a => exact ⟨a, rfl, h⟩
  · rintro ⟨a, rfl, h⟩
    exact h

theorem pure_eq_ok_iff {α : Type} {a b : α} :
    (pure a : Except Failure α) = .ok b ↔ a = b := by
  simp [pure, Except.pure]

end Failure

/-- What follows the part that has been read; nothing behind a failure. -/
def remainder {α : Type} : Except Failure (α × List Lexeme) → List Lexeme
  | .ok (_, rest) => rest
  | .error _ => []

@[simp] theorem remainder_ok {α : Type} (a : α) (rest : List Lexeme) :
    remainder (.ok (a, rest)) = rest := rfl

/-- Pass one lexeme of the expected kind. -/
def Expectation.meet (e : Expectation) : List Lexeme → Except Failure (List Lexeme)
  | [] => .error ⟨e, []⟩
  | l :: rest => if l.kind = e.kind then .ok rest else .error ⟨e, l :: rest⟩

theorem Expectation.length_of_meet {e : Expectation} {ls rest : List Lexeme}
    (h : e.meet ls = .ok rest) : ls.length = rest.length + 1 := by
  cases ls with
  | nil => simp [meet] at h
  | cons l tail =>
    rw [meet] at h
    split at h
    · cases h; rfl
    · simp at h

/-- A failure in terms of the text: the expectation and the token that was found. -/
structure SyntaxError where
  expectation : Expectation
  found : Token
deriving DecidableEq, Repr

namespace SyntaxError

/-- The error message. -/
def message (e : SyntaxError) : Text :=
  e.found.position.render ++ ": expected ".toList ++ e.expectation.words.toList ++ " (".toList ++
    e.expectation.kind.name.toList ++ ") but found ".toList ++ e.found.kind.name.toList ++
    ' ' :: Quoted.quote e.found.text

end SyntaxError

/-- The lexeme at which the expectation was not met; without characters at the end of the text. -/
def Failure.found (f : Failure) : Lexeme := f.rest.headD ⟨.endOfStream, []⟩

/-- The failure in terms of the text. What is no longer there stands before the token that was
found. -/
def Failure.locate (f : Failure) (input : Text) : SyntaxError :=
  let before := input.take (input.length - (Lexeme.joined f.rest).length)
  ⟨f.expectation, ⟨f.found, Position.start.after before⟩⟩

end MarkupOrder
