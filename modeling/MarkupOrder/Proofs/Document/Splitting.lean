import MarkupOrder.Proofs.Document.Concatenation

/-!
# Documents in pieces

A document can be cut between any two of its nodes.

* `SourceNode.read_render`: a node is read from its own text in the same way before anything else.
* `SourceNode.readAll_split`, `Document.exists_parse_of_append`: what stands before and behind a cut
  is read as it is in the whole.
* `Document.parse_append_cons_iff`: a node that is neither an opening tag nor a text stands between
  two documents.
-/

namespace MarkupOrder

open Lexeme

namespace SourceNode

variable {ls rest : List Lexeme} {l : Lexeme} {n : SourceNode} {rs qs : List SourceNode} {t : Text}

theorem render_of_lead_eq_nil (h : n.lead = []) : n.render = n.node.render := by
  rw [render, h]
  split
  · rename_i tag htag
    rw [htag]
    rfl
  · rfl

/-- What is read where a node is written does not depend on the text behind it. -/
theorem exists_read_append (hn : n.node.IsLegible) (hlead : n.LeadFits) :
    ∃ m? : Option SourceNode, ∀ t,
      (∀ content, n.node = .text content → (ofText t).head?.all endsText = true) →
        ∃ l rest, ofText (n.render ++ t) = l :: rest ∧
          (read id l rest).toOption = m?.map fun m => (m, ofText t) := by
  by_cases hnil : n.lead = []
  · refine ⟨n.node.reread.map fun m => ⟨[], m.mapAttributes id⟩, fun t ht => ?_⟩
    rw [render_of_lead_eq_nil hnil, Option.map_map]
    exact read_append id hn ht
  · obtain ⟨lead, node⟩ := n
    cases node with
    | openingTag tag =>
      refine ⟨tag.reread.map fun tag => ⟨lead, .openingTag (tag.mapAttributes id)⟩, fun t _ => ?_⟩
      obtain ⟨rest, hopen, hread⟩ :=
        read_append_openingTag id hlead.1 hn (fun h => absurd h hnil) t
      refine ⟨_, rest, ?_, by rw [hread, Option.map_map]; rfl⟩
      rw [← hopen, render, List.append_assoc, List.cons_append]
    | _ => exact absurd (hlead.2 nofun) hnil

/-- **A node is read from its own text in the same way before anything else.** -/
theorem read_render (hs : Stands (l :: ls) []) (h : read id l ls = .ok (n, rest))
    (ht : ∀ content, n.node = .text content → (ofText t).head?.all endsText = true) :
    ∃ l' ls', ofText (n.render ++ t) = l' :: ls' ∧ read id l' ls' = .ok (n, ofText t) := by
  obtain ⟨htake, hn, hlead⟩ := takes_read hs h
  obtain ⟨m?, hm⟩ := exists_read_append hn hlead
  have hrest : ofText (joined rest) = rest := htake.stands.ofText_joined
  have hends (content : Text) (hcontent : n.node = .text content) :
      (ofText (joined rest)).head?.all endsText = true := by
    rw [hrest]
    rcases node_of_read hs h with hfollow | ⟨-, hends⟩
    · have hfollow := hfollow content
      rw [hcontent] at hfollow
      cases hfollow
    · exact hends content hcontent
  -- In front of what is behind it here, the node itself is read.
  have hsome : m? = some n := by
    obtain ⟨l', ls', hofText, hread⟩ := hm _ hends
    rw [← htake.joined_eq, hs.ofText_joined] at hofText
    cases hofText
    rw [h, hrest] at hread
    cases m? with
    | none => cases hread
    | some m =>
      cases hread
      rfl
  obtain ⟨l', ls', hofText, hread⟩ := hm t ht
  refine ⟨l', ls', hofText, ?_⟩
  rw [hsome] at hread
  cases hread' : read id l' ls' with
  | error f =>
    rw [hread'] at hread
    cases hread
  | ok result =>
    rw [hread'] at hread
    cases hread
    rfl

theorem endsText_of_read {content : Text} (h : read id l ls = .ok (n, rest))
    (hn : (Node.text content).mayFollow n.node = true) : endsText l = true := by
  rw [read_eq] at h
  split at h
  case h_1 hk => simp [endsText, hk]
  case h_2 hk =>
    obtain ⟨mid, -, h⟩ := Failure.bind_eq_ok_iff.1 h
    cases h
    cases hn
  case h_3 hk => simp [endsText, hk]
  case h_4 =>
    cases h
    cases hn

/-- The first of the nodes that are read. -/
theorem exists_read_of_complete? {arrange : List Attribute → List Attribute}
    (h : complete? (readAll arrange ls) = some (n :: rs)) :
    ∃ l tail rest, ls = l :: tail ∧ read arrange l tail = .ok (n, rest) ∧
      complete? (readAll arrange rest) = some rs := by
  cases ls with
  | nil =>
    rw [readAll] at h
    cases h
  | cons l tail =>
    rw [complete?_readAll_cons] at h
    cases hread : read arrange l tail with
    | error f =>
      rw [hread] at h
      cases h
    | ok result =>
      rw [hread] at h
      obtain ⟨ns, hns, hcons⟩ := Option.map_eq_some_iff.1 h
      cases hcons
      exact ⟨l, tail, result.2, rfl, hread, hns⟩

/-- **Nodes are read from their own text as they are read in a document.** -/
theorem readAll_split (hs : Stands ls []) (h : complete? (readAll id ls) = some (rs ++ qs)) :
    complete? (readAll id (ofText (rs.flatMap render))) = some rs ∧
      complete? (readAll id (ofText (qs.flatMap render))) = some qs := by
  induction rs generalizing ls with
  | nil =>
    have hjoin := (renderAll_of_readAll hs h).1
    rw [List.nil_append] at h hjoin
    rw [← hjoin, hs.ofText_joined, List.flatMap_nil, ofText_nil, readAll]
    exact ⟨rfl, h⟩
  | cons n rs ih =>
    have hfollow := (renderAll_of_readAll hs h).2.1.2.1
    obtain ⟨l, tail, rest, rfl, hread, hrest⟩ := exists_read_of_complete? h
    obtain ⟨hbefore, hbehind⟩ := ih (takes_read hs hread).1.stands hrest
    refine ⟨?_, hbehind⟩
    have hends (content : Text) (hcontent : n.node = .text content) :
        (ofText (rs.flatMap render)).head?.all endsText = true := by
      cases rs with
      | nil => rw [List.flatMap_nil, ofText_nil]; rfl
      | cons m rs =>
        obtain ⟨l', tail', rest', hl', hread', -⟩ := exists_read_of_complete? hbefore
        have hm : (Node.text content).mayFollow m.node = true := hcontent ▸ hfollow
        rw [hl', List.head?_cons, Option.all_some]
        exact endsText_of_read hread' hm
    obtain ⟨l', ls', hofText, hread'⟩ := read_render hs hread hends
    rw [List.flatMap_cons, hofText, complete?_readAll_cons, hread']
    change Option.map (n :: ·) (complete? (readAll id (ofText (rs.flatMap render)))) = _
    rw [hbefore]
    rfl

end SourceNode

namespace Document

variable {s : OrderSettings} {a b input : Text} {ms ns : List Node}

/-- **A document can be cut between any two of its nodes.** -/
theorem exists_parse_of_append (h : parse s input = .ok (ns ++ ms)) :
    ∃ a b, input = a ++ b ∧ parse s a = .ok ns ∧ parse s b = .ok ms := by
  obtain ⟨sources, hread, hnodes⟩ := parse_eq_ok_iff.1 h
  obtain ⟨rs, qs, rfl, hrs, hqs⟩ := List.append_eq_map_iff.1 hnodes
  have hs := stands_ofText input
  have hjoin := (SourceNode.renderAll_of_readAll hs hread).1
  obtain ⟨ha, hb⟩ := SourceNode.readAll_split hs hread
  rw [joined_ofText, List.flatMap_append] at hjoin
  exact ⟨_, _, hjoin, parse_eq_ok_iff.2 ⟨rs, ha, hrs.symm⟩, parse_eq_ok_iff.2 ⟨qs, hb, hqs.symm⟩⟩

/-- A node that is no opening tag is the one node of its text. -/
theorem parse_eq_singleton_iff {n : Node} (hn : ∀ tag, n ≠ .openingTag tag) :
    parse s input = .ok [n] ↔ input = n.render ∧ n.IsLegible := by
  have hmap (f : List Attribute → List Attribute) : n.mapAttributes f = n := by
    cases n with
    | openingTag tag => exact absurd rfl (hn tag)
    | _ => rfl
  constructor
  · intro h
    have hlegible := (allLegible_of_parse h).1
    obtain ⟨rs, hread, hnodes⟩ := parse_eq_ok_iff.1 h
    obtain ⟨r, rfl, hr⟩ := List.map_eq_singleton_iff.1 hnodes.symm
    obtain ⟨hjoin, -, hleads, -⟩ := SourceNode.renderAll_of_readAll (stands_ofText input) hread
    have hnode : r.node = n := by
      cases hnode : r.node with
      | openingTag tag =>
        rw [hnode] at hr
        exact absurd hr.symm (hn _)
      | _ => rwa [hnode] at hr
    have hlead : r.lead = [] := (hleads r List.mem_cons_self).2 (hnode ▸ hn)
    rw [joined_ofText, List.flatMap_singleton, SourceNode.render_of_lead_eq_nil hlead, hnode] at hjoin
    exact ⟨hjoin, hlegible⟩
  · rintro ⟨rfl, hlegible⟩
    have hone : Node.AllLegible [n] := ⟨hlegible, rfl, trivial⟩
    have hread := SourceNode.readAll_renderAll id hone
    have hreread : n.reread = some n := by
      cases n with
      | openingTag tag => exact absurd rfl (hn tag)
      | _ => rfl
    refine parse_eq_ok_iff.2 ⟨[⟨[], n⟩], ?_, by rw [List.map_singleton, hmap]⟩
    rw [Node.renderAll_cons, Node.renderAll_nil, List.append_nil, List.mapM_cons, hreread] at hread
    rw [read, hread]
    simp [hmap]

/-- **A node that is neither an opening tag nor a text stands between two documents.** What is before
it and what is behind it are read as if they stood alone. -/
theorem parse_append_cons_iff {n : Node} (htag : ∀ tag, n ≠ .openingTag tag)
    (htext : ∀ content, n ≠ .text content) :
    parse s input = .ok (ns ++ n :: ms) ↔
      ∃ a b, input = a ++ (n.render ++ b) ∧ parse s a = .ok ns ∧ parse s b = .ok ms ∧
        n.IsLegible ∧ ns.getLast?.all (·.mayFollow n) = true := by
  constructor
  · intro h
    have hchain := (List.isChain_append.1 (allLegible_of_parse h).isChain).2.2
    obtain ⟨a, c, rfl, ha, hc⟩ := exists_parse_of_append h
    have hc : parse s c = .ok ([n] ++ ms) := hc
    obtain ⟨u, b, rfl, hu, hb⟩ := exists_parse_of_append hc
    obtain ⟨rfl, hn⟩ := (parse_eq_singleton_iff htag).1 hu
    refine ⟨a, b, rfl, ha, hb, hn, (Option.all_eq_true _ _).2 fun m hm => ?_⟩
    exact hchain m hm n rfl
  · rintro ⟨a, b, rfl, ha, hb, hn, hfollow⟩
    have hu : parse s n.render = .ok [n] := (parse_eq_singleton_iff htag).2 ⟨rfl, hn⟩
    have hub : parse s (n.render ++ b) = .ok (n :: ms) := by
      refine parse_append_of_seam hu hb (.inl fun content h => ?_)
      exact htext content (Option.some.inj h)
    refine parse_append_of_seam ha hub ?_
    by_cases hlast : ∃ content, ns.getLast? = some (.text content)
    · obtain ⟨content, hlast⟩ := hlast
      rw [hlast] at hfollow
      exact .inr (SourceNode.head?_endsText hn hfollow b)
    · exact .inl fun content h => hlast ⟨content, h⟩

end Document

end MarkupOrder
