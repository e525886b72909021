import MarkupOrder.Text.Basic

/-!
# Attributes

* `Wrapper`: the punctuation around an attribute's name, with its two parts `Wrapper.opening` and
  `Wrapper.closing`.
* `Attribute`, `Attribute.render`: a name in its wrapper, with the value behind `=` if there is one.
-/

namespace MarkupOrder

/-- How an attribute's name is wrapped. -/
inductive Wrapper where
  /-- The form `name`. -/
  | plain
  /-- The form `[name]`. -/
  | bracket
  /-- The form `(name)`. -/
  | paren
  /-- The form `#name`. -/
  | hash
  /-- The form `@name`. -/
  | atSign
  /-- The form `*name`. -/
  | star
  /-- The form `[(name)]`. -/
  | twoWay
deriving DecidableEq, Repr

namespace Wrapper

/-- Every wrapper, once. -/
def all : List Wrapper := [plain, bracket, paren, hash, atSign, star, twoWay]

/-- The name of a wrapper. -/
def name : Wrapper → String
  | plain => "plain"
  | bracket => "bracket"
  | paren => "paren"
  | hash => "hash"
  | atSign => "at"
  | star => "star"
  | twoWay => "two-way"

/-- The text before the name. -/
def opening : Wrapper → Text
  | plain => []
  | bracket => ['[']
  | paren => ['(']
  | hash => ['#']
  | atSign => ['@']
  | star => ['*']
  | twoWay => ['[', '(']

/-- The text behind the name. -/
def closing : Wrapper → Text
  | plain | hash | atSign | star => []
  | bracket => [']']
  | paren => [')']
  | twoWay => [')', ']']

end Wrapper

/-- An attribute of an opening tag. The value is kept as written, with its quotes. -/
structure Attribute where
  name : Text
  wrapper : Wrapper
  value? : Option Text
deriving DecidableEq, Repr

namespace Attribute

/-- The value with the `=` before it; nothing if there is none. -/
def assignment (a : Attribute) : Text :=
  match a.value? with
  | none => []
  | some value => '=' :: value

/-- The attribute as it is written in a tag. -/
def render (a : Attribute) : Text :=
  a.wrapper.opening ++ a.name ++ a.wrapper.closing ++ a.assignment

end Attribute

end MarkupOrder
