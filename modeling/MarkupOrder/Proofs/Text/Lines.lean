import Mathlib.Algebra.Ring.Nat
import MarkupOrder.Text.Basic

/-!
# Lines

* `Text.ofLines`: the text of some lines, each of which ends in a line feed.
* `Text.length_splitOn`: a text falls into one piece more than it has line feeds.
* `Text.splitOn_ofLines`: lines without line feeds are found again, with nothing behind the last one.
  `Text.count_ofLines` is about all lines.
-/

namespace MarkupOrder.Text

/-- The text of some lines, each of which ends in a line feed. -/
def ofLines (ls : List Text) : Text := ls.flatMap (· ++ ['\n'])

@[simp] theorem ofLines_nil : ofLines [] = [] := rfl

@[simp] theorem ofLines_cons (l : Text) (ls : List Text) :
    ofLines (l :: ls) = l ++ '\n' :: ofLines ls := by
  simp [ofLines]

theorem length_splitOn (t : Text) : (t.splitOn '\n').length = t.count '\n' + 1 := by
  induction t with
  | nil => rfl
  | cons c t ih =>
    rw [List.splitOn_cons_eq_if_modifyHead, List.count_cons]
    split
    · rw [List.length_cons, ih]
    · rw [List.length_modifyHead, ih, Nat.add_zero]

/-- The line feeds are those at the ends of the lines and those within them. -/
theorem count_ofLines (ls : List Text) :
    (ofLines ls).count '\n' = ls.length + (ls.map (·.count '\n')).sum := by
  induction ls with
  | nil => rfl
  | cons l ls ih =>
    rw [ofLines_cons, List.count_append, List.count_cons_self, ih]
    simp only [List.length_cons, List.map_cons, List.sum_cons]
    omega

theorem splitOn_ofLines {ls : List Text} (h : ∀ l ∈ ls, '\n' ∉ l) :
    (ofLines ls).splitOn '\n' = ls ++ [[]] := by
  induction ls with
  | nil => rfl
  | cons l ls ih =>
    obtain ⟨hl, hls⟩ := List.forall_mem_cons.1 h
    rw [ofLines_cons, List.splitOn_append_cons_self_of_not_mem hl, ih hls, List.cons_append]

/-- Texts of lines without line feeds are the same only if the lines are. -/
theorem eq_of_ofLines_eq {ls ms : List Text} (hls : ∀ l ∈ ls, '\n' ∉ l) (hms : ∀ l ∈ ms, '\n' ∉ l)
    (h : ofLines ls = ofLines ms) : ls = ms := by
  have hsplit := congrArg (List.splitOn '\n') h
  rw [splitOn_ofLines hls, splitOn_ofLines hms] at hsplit
  exact List.append_cancel_right hsplit

end MarkupOrder.Text
