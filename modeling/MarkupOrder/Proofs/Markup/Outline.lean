import Mathlib.Data.List.Induction
import Mathlib.Order.Bounds.Defs
import MarkupOrder.Markup.Outline
import MarkupOrder.Proofs.Text.Lines

/-!
# The depth and the lines of an outline

* `Outline.balance`: the opening tags of some nodes that do not close themselves, less the closing
  tags. `Outline.depth`: the depth behind some nodes.
* `Outline.isGreatest_depth`: the depth is the greatest balance of the nodes from any one on.
* `Outline.indent_isGreatest`: how far the line of a node is indented.
* `Outline.lines`: the lines of an outline, one for every node, which `Outline.render_eq` says it is
  made of.
-/

namespace MarkupOrder

/-- Whether a node is an opening tag that does not close itself. -/
def Node.opens : Node → Bool
  | openingTag tag => !tag.selfClosing
  | _ => false

/-- Whether a node is a closing tag. -/
def Node.closes : Node → Bool
  | closingTag _ => true
  | _ => false

namespace Outline

variable (depth₀ : Nat) (n : Node) (ms ns : List Node)

/-! ## Depth -/

/-- How many opening tags that do not close themselves there are, less the closing tags. -/
def balance : Int := ns.countP Node.opens - ns.countP Node.closes

/-- The depth behind some nodes, from the first node of a document on. -/
def depth : Nat := ns.foldl depthBehind 0

theorem balance_append : balance (ms ++ ns) = balance ms + balance ns := by
  simp only [balance, List.countP_append]
  omega

/-- A node changes the depth by its balance, except that no depth is below zero. -/
theorem depthBehind_eq : (depthBehind depth₀ n : Int) = max 0 (depth₀ + balance [n]) := by
  cases n with
  | openingTag tag =>
    cases hslash : tag.selfClosing with
    | false =>
      simp only [depthBehind, hslash, balance, List.countP_singleton, Node.opens, Node.closes]
      simp
      omega
    | true => simp [depthBehind, hslash, balance, Node.opens, Node.closes]
  | closingTag name =>
    simp only [depthBehind, balance, List.countP_singleton, Node.opens, Node.closes]
    simp
    omega
  | _ => simp [depthBehind, balance, Node.opens, Node.closes]

/-- A closing tag stands at the depth behind it, every other node at the depth before it. -/
theorem depthAt_eq : depthAt depth₀ n = if n.closes then depthBehind depth₀ n else depth₀ := by
  cases n <;> rfl

theorem depth_concat : depth (ns ++ [n]) = depthBehind (depth ns) n := by
  rw [depth, List.foldl_append]
  rfl

/-- **The depth in closed form.** The depth behind some nodes is the greatest balance of the nodes
from any one on, where there may be none left. -/
theorem isGreatest_depth : IsGreatest {b | ∃ ms, ms <:+ ns ∧ balance ms = b} (depth ns : Int) := by
  induction ns using List.reverseRecOn with
  | nil =>
    refine ⟨⟨[], List.suffix_refl [], rfl⟩, ?_⟩
    rintro b ⟨ms, hms, rfl⟩
    rw [List.suffix_nil.1 hms]
    exact Int.le_refl 0
  | append_singleton ns n ih =>
    obtain ⟨⟨ms, hms, hbalance⟩, hgreatest⟩ := ih
    rw [depth_concat, depthBehind_eq]
    constructor
    · rcases Int.le_total 0 (depth ns + balance [n]) with hle | hle
      · refine ⟨ms ++ [n], List.suffix_concat_iff.2 (.inr ⟨ms, rfl, hms⟩), ?_⟩
        rw [Int.max_eq_right hle, balance_append, hbalance]
      · exact ⟨[], List.nil_suffix, (Int.max_eq_left hle).symm⟩
    · rintro b ⟨ls, hls, rfl⟩
      rcases List.suffix_concat_iff.1 hls with rfl | ⟨ks, rfl, hks⟩
      · exact Int.le_max_left _ _
      · have hle : balance ks ≤ depth ns := hgreatest ⟨ks, hks, rfl⟩
        rw [balance_append]
        exact Int.le_trans (Int.add_le_add_right hle _) (Int.le_max_right _ _)

/-! ## Lines -/

/-- The lines of nodes that follow nodes of the given depth. -/
def linesFrom (depth₀ : Nat) : List Node → List Text
  | [] => []
  | n :: ns => (indent (depthAt depth₀ n) ++ line n) :: linesFrom (depthBehind depth₀ n) ns

/-- The lines of a document. -/
def lines : List Text := linesFrom 0 ns

theorem renderFrom_eq : renderFrom depth₀ ns = Text.ofLines (linesFrom depth₀ ns) := by
  induction ns generalizing depth₀ with
  | nil => rfl
  | cons n ns ih => rw [renderFrom, ih, linesFrom, Text.ofLines_cons]

theorem render_eq : render ns = Text.ofLines (lines ns) := renderFrom_eq 0 ns

/-- There is a line for every node, which shows the node behind an indent. -/
theorem forall₂_linesFrom :
    List.Forall₂ (fun n l => ∃ d, l = indent d ++ line n) ns (linesFrom depth₀ ns) := by
  induction ns generalizing depth₀ with
  | nil => exact .nil
  | cons n ns ih => exact .cons ⟨_, rfl⟩ (ih _)

theorem renderFrom_append :
    renderFrom depth₀ (ms ++ ns) =
      renderFrom depth₀ ms ++ renderFrom (ms.foldl depthBehind depth₀) ns := by
  induction ms generalizing depth₀ with
  | nil => rfl
  | cons m ms ih => simp [renderFrom, ih]

theorem render_concat : render (ns ++ [n]) =
    render ns ++ (indent (depthAt (depth ns) n) ++ line n ++ ['\n']) := by
  rw [render, renderFrom_append]
  simp [renderFrom, render, depth]

theorem isPrefix_render : render ms <+: render (ms ++ ns) := by
  rw [render, render, renderFrom_append]
  exact List.prefix_append _ _

theorem exists_line_eq_cons : ∃ mark own, (mark = '\x22' ∨ mark = '<') ∧ line n = mark :: own := by
  cases n with
  | text content => exact ⟨_, _, .inl rfl, rfl⟩
  | _ => exact ⟨_, _, .inr rfl, rfl⟩

/-- **How far a line is indented.** What an outline shows of a node, behind the lines of the nodes
before it, is its own text, which begins with a quote or with `<`, behind two spaces for every level.
The level is the greatest balance of the nodes before it from any one on, where a closing tag counts
as one of them and there may be none at all. -/
theorem indent_isGreatest (before behind : List Node) (n : Node) :
    ∃ (level : Nat) (mark : Char) (own : Text),
      IsGreatest
        {b | ∃ ms, ms <:+ (if n.closes then before ++ [n] else before) ∧ balance ms = b}
        (level : Int) ∧
      (mark = '\x22' ∨ mark = '<') ∧ line n = mark :: own ∧
      render (before ++ [n]) =
        render before ++ (List.replicate (2 * level) ' ' ++ mark :: own ++ ['\n']) ∧
      render (before ++ [n]) <+: render (before ++ n :: behind) := by
  obtain ⟨mark, own, hmark, hline⟩ := exists_line_eq_cons n
  have hlevel : depthAt (depth before) n =
      depth (if n.closes then before ++ [n] else before) := by
    rw [depthAt_eq, ← depth_concat, apply_ite depth]
  refine ⟨_, mark, own, isGreatest_depth _, hmark, hline, ?_, ?_⟩
  · rw [render_concat, hline, hlevel]
    rfl
  · rw [show before ++ n :: behind = before ++ [n] ++ behind from List.append_cons ..]
    exact isPrefix_render _ behind

end Outline

end MarkupOrder
