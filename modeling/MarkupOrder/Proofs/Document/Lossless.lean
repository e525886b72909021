import MarkupOrder.Document
import MarkupOrder.Proofs.Order.Arrangement
import MarkupOrder.Proofs.Source.Lossless

/-!
# Documents are read without loss

* `Document.parse_eq_ok_iff`: the nodes of a document are those that stand in its source, each tag
  with its attributes in order.
* `Document.lossless`: the nodes that stand in the source do not depend on the order, nor does the
  error if there is one, and they are written as the source is.
* `Document.allLegible_of_parse`: the nodes of a document are legible.
-/

namespace MarkupOrder.Document

variable {s : OrderSettings} {input : Text} {ns : List Node}

theorem read_eq (arrange : List Attribute → List Attribute) (input : Text) : read arrange input =
    ((read id input).1.map (SourceNode.mapAttributes arrange), (read id input).2) :=
  SourceNode.readAll_arrange arrange _

theorem parse_eq_ok_iff : parse s input = .ok ns ↔
    ∃ ms, SourceNode.complete? (read id input) = some ms ∧
      ns = ms.map fun n => n.node.mapAttributes s.arrange := by
  rw [parse, read_eq]
  obtain ⟨ms, failure?⟩ := read id input
  cases failure? with
  | some failure => simp [SourceNode.complete?]
  | none =>
    simp only [SourceNode.complete?, List.map_map, Except.ok.injEq, Option.some.injEq,
      exists_eq_left', eq_comm (a := ns)]
    rfl

/-- Arranging attributes leaves nodes legible. -/
theorem isLegible_mapAttributes {n : Node} (hn : n.IsLegible) :
    (n.mapAttributes s.arrange).IsLegible := by
  cases n with
  | openingTag tag =>
    exact OpeningTag.isLegible_mapAttributes hn (Arrangement.length_attributes s.rank)
      fun _ _ ha => Arrangement.mem_of_mem_attributes s.rank ha
  | _ => exact hn

theorem allLegible_map (h : Node.AllLegible ns) :
    Node.AllLegible (ns.map (Node.mapAttributes s.arrange)) := by
  have hfollow (m n : Node) :
      (m.mapAttributes s.arrange).mayFollow (n.mapAttributes s.arrange) = m.mayFollow n := by
    cases m <;> cases n <;> rfl
  induction ns with
  | nil => trivial
  | cons n ns ih =>
    refine ⟨isLegible_mapAttributes h.1, ?_, ih h.2.2⟩
    have hnext := h.2.1
    cases ns with
    | nil => rfl
    | cons m ns => simpa [hfollow] using hnext

/-- The nodes of a document are legible. -/
theorem allLegible_of_parse (h : parse s input = .ok ns) : Node.AllLegible ns := by
  obtain ⟨ms, hms, rfl⟩ := parse_eq_ok_iff.1 h
  have hlegible := (SourceNode.renderAll_of_readAll (Lexeme.stands_ofText input) hms).2.1
  have hmap := allLegible_map (s := s) hlegible
  rwa [List.map_map] at hmap

/-- The attributes of a document are in order. -/
theorem map_mapAttributes_of_parse (h : parse s input = .ok ns) :
    ns.map (Node.mapAttributes s.arrange) = ns := by
  obtain ⟨ms, -, rfl⟩ := parse_eq_ok_iff.1 h
  rw [List.map_map]
  apply List.map_congr_left
  intro n _
  cases hn : n.node with
  | openingTag tag =>
    simp only [Function.comp_apply, hn, Node.mapAttributes, OpeningTag.mapAttributes]
    rw [OrderSettings.arrange, OrderSettings.arrange, Arrangement.attributes_attributes]
  | _ => simp [hn, Node.mapAttributes]

/-- **Reading loses nothing, and the order matters for the order of attributes only.** Either the
reading fails with one error whatever the order, or there are nodes that are written as the input is
and come out of every reading with the attributes of their tags in order. -/
theorem lossless (input : Text) :
    (∃ e, ∀ s, parse s input = .error e) ∨
      ∃ ns : List SourceNode,
        (∀ n ∈ ns, n.LeadFits ∧ ∀ tag, n.node = .openingTag tag → tag.isLegible = true) ∧
          ns.flatMap SourceNode.render = input ∧
            ∀ s, parse s input = .ok (ns.map fun n => n.node.mapAttributes s.arrange) := by
  cases h : SourceNode.complete? (read id input) with
  | none =>
    left
    obtain ⟨e, he⟩ := SourceNode.complete?_eq_none_iff.1 h
    refine ⟨e.locate input, ?_⟩
    intro s
    rw [parse, read_eq, he]
  | some ns =>
    right
    have hs := Lexeme.stands_ofText input
    obtain ⟨hjoin, hlegible, hleads, -⟩ := SourceNode.renderAll_of_readAll hs h
    rw [Lexeme.joined_ofText] at hjoin
    refine ⟨ns, fun n hn => ⟨hleads n hn, fun tag htag => ?_⟩, hjoin.symm, fun s =>
      parse_eq_ok_iff.2 ⟨ns, h, rfl⟩⟩
    have hnode := hlegible.isLegible (List.mem_map_of_mem hn)
    rwa [htag] at hnode

end MarkupOrder.Document
