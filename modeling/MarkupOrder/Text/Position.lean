import MarkupOrder.Text.Basic

/-!
# Positions in a text

Lines and columns count from one, and a column counts characters. Only a line feed starts a new
line.

* `Position`, `Position.start`: a line and a column, and those of the first character.
* `Position.next`, `Position.after`: the position behind one character, and behind a text.
* `Position.precedes`: the order of positions, line first.
* `Position.render`: the form `LINE:COLUMN`.
-/

namespace MarkupOrder

/-- A line and a column of a text, both counted from one. -/
structure Position where
  line : Nat
  column : Nat
deriving DecidableEq, Repr

namespace Position

/-- The position of the first character of any text. -/
def start : Position := ⟨1, 1⟩

/-- The position behind a character that stands at `p`. -/
def next (p : Position) (c : Char) : Position :=
  if c = '\n' then ⟨p.line + 1, 1⟩ else ⟨p.line, p.column + 1⟩

/-- The position behind a text that starts at `p`. -/
def after (p : Position) (t : Text) : Position := t.foldl next p

/-- The order of positions compares lines first, then columns. -/
def precedes (p q : Position) : Bool :=
  decide (p.line < q.line) || (decide (p.line = q.line) && decide (p.column < q.column))

/-- The form `LINE:COLUMN`. -/
def render (p : Position) : Text := Text.decimal p.line ++ ':' :: Text.decimal p.column

@[simp] theorem after_nil (p : Position) : p.after [] = p := rfl

@[simp] theorem after_cons (p : Position) (c : Char) (t : Text) :
    p.after (c :: t) = (p.next c).after t := rfl

theorem after_append (p : Position) (s t : Text) : p.after (s ++ t) = (p.after s).after t :=
  List.foldl_append

end Position

end MarkupOrder
