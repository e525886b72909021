import MarkupOrder.Proofs.Document.Shape
import MarkupOrder.Proofs.Markup.Outline

/-!
# Outlines of documents

The line of a node shows some of the source as it is: the content of a comment or of a declaration,
and the values of a tag. A line feed in there breaks the line.

* `Node.lineBreaks`: the line feeds that come through to the line of a node.
* `Outline.count_line`: of the nodes of a document, these are all.
* `Document.lines_of_outline_iff`: the outline of a document has a line for every node, and more for
  these line feeds.
-/

namespace MarkupOrder

open Unicode

/-- How many line feeds of a node come through to its line: those in the content of a comment or a
declaration and in the values of a tag. -/
def Node.lineBreaks : Node → Nat
  | comment content | bangTag content => content.count '\n'
  | openingTag tag => (tag.attributes.flatMap fun a => a.value?.getD []).count '\n'
  | text _ | closingTag _ => 0

theorem Unicode.isAlphanumeric_ne_lineFeed {c : Char} (h : isAlphanumeric c = true) : c ≠ '\n' := by
  rintro rfl
  revert h
  decide

/-- A tag's name holds no line feed. -/
theorem Text.lineFeed_notMem_of_tagName {name : Text}
    (h : ∀ c ∈ name, isAlphanumeric c = true ∨ c = '-') : '\n' ∉ name := by
  intro hmem
  rcases h _ hmem with hc | hc
  · exact isAlphanumeric_ne_lineFeed hc rfl
  · cases hc

theorem Attribute.count_render {a : Attribute} (h : a.IsShaped) :
    a.render.count '\n' = (a.value?.getD []).count '\n' := by
  have hname : '\n' ∉ a.name := by
    intro hmem
    rcases (h.name _ hmem).1 with hc | hc
    · exact isAlphanumeric_ne_lineFeed hc rfl
    · exact absurd hc (by decide)
  have hwrapper (w : Wrapper) : w.opening.count '\n' = 0 ∧ w.closing.count '\n' = 0 := by
    cases w <;> decide
  have hassign : a.assignment.count '\n' = (a.value?.getD []).count '\n' := by
    rw [assignment]
    split
    · rename_i hv
      rw [hv]
      rfl
    · rename_i value hv
      rw [hv, List.count_cons_of_ne (by decide)]
      rfl
  simp only [render, List.count_append, hwrapper, List.count_eq_zero.2 hname, hassign, Nat.zero_add]

namespace Outline

theorem count_attributeList {as : List Attribute} (h : ∀ a ∈ as, a.IsShaped) :
    (attributeList as).count '\n' = (as.flatMap fun a => a.value?.getD []).count '\n' := by
  induction as with
  | nil => rfl
  | cons a as ih =>
    obtain ⟨ha, has⟩ := List.forall_mem_cons.1 h
    have ih : (as.flatMap fun a => ' ' :: a.render).count '\n' = _ := ih has
    rw [attributeList, List.flatMap_cons, List.flatMap_cons, List.count_append, List.count_append,
      ih, List.count_cons_of_ne (by decide), Attribute.count_render ha]

/-- A text shows its line feeds as letters. -/
theorem lineFeed_notMem_visible (c : Char) : '\n' ∉ visible c := by
  unfold visible
  split
  · decide
  · rename_i hline
    split
    · decide
    · simpa using Ne.symm hline

theorem count_line {n : Node} (h : n.IsShaped) : (line n).count '\n' = n.lineBreaks := by
  cases n with
  | text content =>
    refine List.count_eq_zero.2 ?_
    simp [line, lineFeed_notMem_visible]
  | openingTag tag =>
    have hname := List.count_eq_zero.2 (Text.lineFeed_notMem_of_tagName h.name)
    simp [line, Node.lineBreaks, hname, count_attributeList h.attributes]
  | closingTag name =>
    have hname := List.count_eq_zero.2 (Text.lineFeed_notMem_of_tagName h)
    simp [line, Node.render, Node.lineBreaks, hname]
  | comment content => simp [line, Node.render, Node.lineBreaks]
  | bangTag content => simp [line, Node.render, Node.lineBreaks]

/-- The line feeds within the lines of an outline are those that come through. -/
theorem map_count_linesFrom {ns : List Node} (h : ∀ n ∈ ns, n.IsShaped) (depth₀ : Nat) :
    (linesFrom depth₀ ns).map (·.count '\n') = ns.map Node.lineBreaks := by
  induction ns generalizing depth₀ with
  | nil => rfl
  | cons n ns ih =>
    obtain ⟨hn, hns⟩ := List.forall_mem_cons.1 h
    have hindent : (indent (depthAt depth₀ n)).count '\n' = 0 := by
      simp [indent, List.count_replicate]
    rw [linesFrom, List.map_cons, List.map_cons, ih hns, List.count_append, hindent, count_line hn,
      Nat.zero_add]

end Outline

namespace Document

open Outline

variable {s : OrderSettings} {input : Text} {ns : List Node}

/-- **The lines of an outline.** The outline of a document has as many lines as nodes, and one more
for every line feed in a comment, a declaration or a value. So it has a line for every node, which
shows the node behind an indent, if and only if there is no such line feed. -/
theorem lines_of_outline_iff (h : parse s input = .ok ns) :
    (Outline.render ns).count '\n' = ns.length + (ns.map Node.lineBreaks).sum ∧
      ((∃ ls, (Outline.render ns).splitOn '\n' = ls ++ [[]] ∧
          List.Forall₂ (fun n l => ∃ d, l = indent d ++ line n) ns ls) ↔
        ∀ n ∈ ns, n.lineBreaks = 0) := by
  have hmap := map_count_linesFrom (shape_of_parse h).1 0
  have hcount : (Outline.render ns).count '\n' = ns.length + (ns.map Node.lineBreaks).sum := by
    rw [render_eq, Text.count_ofLines, Outline.lines, hmap, (forall₂_linesFrom 0 ns).length_eq]
  refine ⟨hcount, ?_, ?_⟩
  · rintro ⟨ls, hsplit, hshow⟩
    have hlength := congrArg List.length hsplit
    rw [Text.length_splitOn, hcount, List.length_append, List.length_singleton,
      ← hshow.length_eq] at hlength
    have hsum : (ns.map Node.lineBreaks).sum = 0 := by omega
    exact List.forall_mem_map.1 (List.sum_eq_zero_iff_forall_eq_nat.1 hsum)
  · intro hns
    refine ⟨lines ns, ?_, forall₂_linesFrom 0 ns⟩
    rw [render_eq]
    refine Text.splitOn_ofLines fun l hl => List.count_eq_zero.1 ?_
    have hmem : l.count '\n' ∈ ns.map Node.lineBreaks := hmap ▸ List.mem_map_of_mem hl
    obtain ⟨n, hn, hbreaks⟩ := List.mem_map.1 hmem
    rw [← hbreaks, hns n hn]

/-- A line feed in a text does not break its line, one in a value does. -/
theorem lines_of_outline_value :
    let value : Text := "\x22c\n\x22".toList
    let tag : OpeningTag := ⟨['a'], [⟨['b'], .plain, some value⟩], [[' ']], [], false⟩
    let ns : List Node := [.text "x\ny".toList, .openingTag tag]
    parse ⟨[]⟩ "x\ny<a b=\x22c\n\x22>".toList = .ok ns ∧ ns.map Node.lineBreaks = [0, 1] ∧
      (Outline.render ns).count '\n' = 2 + 1 ∧
        ¬ ∃ ls, (Outline.render ns).splitOn '\n' = ls ++ [[]] ∧
          List.Forall₂ (fun n l => ∃ d, l = indent d ++ line n) ns ls := by
  intro value tag ns
  have h : parse ⟨[]⟩ "x\ny<a b=\x22c\n\x22>".toList = .ok ns := by
    simp only [ns, tag, value]
    cbv
  obtain ⟨hcount, hiff⟩ := lines_of_outline_iff h
  refine ⟨h, by decide, hcount, fun hlines => ?_⟩
  have hbreaks := hiff.1 hlines (.openingTag tag) (by simp [ns])
  exact absurd hbreaks (by decide)

/-- A comment of two lines is one node, and its outline has two lines. -/
theorem outline_of_broken_comment :
    parse ⟨[]⟩ "<!--a\nb-->".toList = .ok [.comment "a\nb".toList] ∧
      Outline.render [.comment "a\nb".toList] = "<!--a\nb-->\n".toList ∧
        (Outline.render [.comment "a\nb".toList]).count '\n' ≠ [Node.comment "a\nb".toList].length := by
  exact ⟨by cbv, by decide, by decide⟩

end Document

end MarkupOrder
