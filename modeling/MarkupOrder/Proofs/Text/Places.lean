import Mathlib.Data.List.DropRight
import MarkupOrder.Text.Position

/-!
# Positions in a longer text

* `Text.lastLine`: the characters behind the last line feed.
* `Position.after_eq`: the position behind a text, in terms of its line feeds and its last line.
* `Position.eq_nil_of_after_eq`: only the empty text ends where it starts.
* `Position.movedBy`: where a position comes to be when a text is put in front, which
  `Position.movedBy_after` is about.
-/

namespace MarkupOrder

namespace Text

/-- The characters behind the last line feed, or all of them if there is none. -/
def lastLine (t : Text) : Text := t.rtakeWhile fun c => c != '\n'

@[simp] theorem lastLine_concat (t : Text) (c : Char) :
    lastLine (t ++ [c]) = if c = '\n' then [] else lastLine t ++ [c] := by
  rw [lastLine, List.rtakeWhile_concat]
  by_cases hc : c = '\n' <;> simp [hc, lastLine]

theorem lastLine_eq_self {t : Text} (h : t.count '\n' = 0) : t.lastLine = t := by
  refine List.rtakeWhile_eq_self_iff.2 fun c hc => ?_
  have hne : c ≠ '\n' := fun hc' => List.count_eq_zero.1 h (hc' ▸ hc)
  simpa using hne

end Text

namespace Position

open Text

/-- Line feeds count for the line, and what is behind the last one for the column. -/
theorem after_eq (p : Position) (t : Text) : p.after t =
    ⟨p.line + t.count '\n',
      if t.count '\n' = 0 then p.column + t.length else t.lastLine.length + 1⟩ := by
  induction t using List.reverseRecOn with
  | nil => rfl
  | append_singleton t c ih =>
    rw [after_append, ih, after_cons, after_nil, next]
    by_cases hc : c = '\n'
    · simp [hc, Nat.add_assoc]
    · by_cases ht : t.count '\n' = 0
      · simp [hc, ht, Nat.add_assoc]
      · simp [hc, ht]

/-- Only the empty text ends where it starts. -/
theorem eq_nil_of_after_eq {p : Position} {t : Text} (h : p.after t = p) : t = [] := by
  rw [after_eq] at h
  have hline : t.count '\n' = 0 := Nat.add_eq_left.1 (congrArg line h)
  have hcolumn := congrArg column h
  rw [hline, if_pos rfl, Nat.add_eq_left] at hcolumn
  exact List.length_eq_zero_iff.1 hcolumn

/-- The position of a character when a text is put in front of the whole. -/
def movedBy (t : Text) (p : Position) : Position :=
  ⟨p.line + t.count '\n', if p.line = 1 then p.column + t.lastLine.length else p.column⟩

/-- A position behind two texts is the position behind the second one, moved by the first. -/
theorem movedBy_after (t u : Text) : (start.after u).movedBy t = start.after (t ++ u) := by
  rw [after_append, after_eq start u, after_eq (start.after t) u, after_eq start t, movedBy]
  by_cases hu : u.count '\n' = 0
  · by_cases ht : t.count '\n' = 0
    · simp [hu, ht, start, lastLine_eq_self ht]
      omega
    · simp [hu, ht, start]
      omega
  · simp [hu, start]
    omega

end Position

end MarkupOrder
