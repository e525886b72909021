import MarkupOrder.Proofs.Document.RoundTrip

/-!
# Reordering twice

The white space of a tag stays where it is, so arranging can bring attributes next to each other
that were not.

* `Node.renderAll_of_reread`, `Node.allLegible_of_reread`: a document that is read where legible
  nodes are written is written the same, and it is legible again.
* `Node.reread_congr`: legible documents that are written the same are read the same.
* `Document.reorder_reorder_iff`: when reordering twice is reordering once, and when the second
  reading succeeds at all.
-/

namespace MarkupOrder

namespace Node

variable {ns ms rs : List Node} {m n : Node}

/-! ## Documents that are read again -/

/-- A node is read as itself, unless it is a tag. -/
theorem cases_of_reread (h : n.reread = some m) : m = n ∨ ∃ tag, n = openingTag tag ∧
    (tag.isClosingForm = true ∧ m = closingTag [] ∨
      ∃ tag', tag.reread = some tag' ∧ m = openingTag tag') := by
  cases n with
  | openingTag tag =>
    refine .inr ⟨tag, rfl, ?_⟩
    rw [reread] at h
    split at h
    · rename_i hclosing
      exact .inl ⟨hclosing, (Option.some.inj h).symm⟩
    · obtain ⟨tag', htag, rfl⟩ := Option.map_eq_some_iff.1 h
      exact .inr ⟨tag', htag, rfl⟩
  | _ => exact .inl (Option.some.inj h).symm

theorem render_of_reread (h : n.reread = some m) : m.render = n.render := by
  rcases cases_of_reread h with rfl | ⟨tag, rfl, ⟨hclosing, rfl⟩ | ⟨tag', htag, rfl⟩⟩
  · rfl
  · exact (OpeningTag.render_of_isClosingForm hclosing).symm
  · exact congrArg ('<' :: ·) (OpeningTag.renderBody_of_reread htag)

theorem isLegible_of_reread (hn : n.IsLegible) (h : n.reread = some m) : m.IsLegible := by
  rcases cases_of_reread h with rfl | ⟨tag, rfl, ⟨-, rfl⟩ | ⟨tag', htag, rfl⟩⟩
  · exact hn
  · exact SourceNode.isLegible_closingTag_nil
  · exact OpeningTag.isLegible_of_reread hn htag

theorem mayFollow_of_reread {m' n' : Node} (hm : m.reread = some m') (hn : n.reread = some n') :
    m'.mayFollow n' = m.mayFollow n := by
  rcases cases_of_reread hm with rfl | ⟨tag, rfl, ⟨-, rfl⟩ | ⟨tag', -, rfl⟩⟩
  · rcases cases_of_reread hn with rfl | ⟨tag, rfl, ⟨-, rfl⟩ | ⟨tag', -, rfl⟩⟩
    all_goals cases m' <;> rfl
  all_goals rw [mayFollow_of_ne (by simp), mayFollow_of_ne (by simp)]

theorem renderAll_of_reread (h : ns.map reread = rs.map some) : renderAll rs = renderAll ns := by
  induction ns generalizing rs with
  | nil =>
    cases List.map_eq_nil_iff.1 h.symm
    rfl
  | cons n ns ih =>
    obtain ⟨r, rs, rfl, hr, hrs⟩ := List.map_eq_cons_iff.1 h.symm
    rw [renderAll_cons, renderAll_cons, render_of_reread hr.symm, ih hrs.symm]

theorem allLegible_of_reread (hns : AllLegible ns) (h : ns.map reread = rs.map some) :
    AllLegible rs := by
  induction ns generalizing rs with
  | nil =>
    cases List.map_eq_nil_iff.1 h.symm
    trivial
  | cons n ns ih =>
    obtain ⟨r, rs, rfl, hr, hrs⟩ := List.map_eq_cons_iff.1 h.symm
    refine ⟨isLegible_of_reread hns.1 hr.symm, ?_, ih hns.2.2 hrs.symm⟩
    have hnext := hns.2.1
    cases ns with
    | nil =>
      cases List.map_eq_nil_iff.1 hrs
      rfl
    | cons m ns =>
      obtain ⟨r', rs, rfl, hr', -⟩ := List.map_eq_cons_iff.1 hrs
      rw [List.head?_cons, Option.all_some] at hnext ⊢
      rwa [mayFollow_of_reread hr.symm hr'.symm]

/-- Legible documents that are written the same are read the same. -/
theorem reread_congr (hms : AllLegible ms) (hns : AllLegible ns)
    (h : renderAll ms = renderAll ns) : ms.mapM reread = ns.mapM reread := by
  have hread := SourceNode.readAll_renderAll id hms
  rw [h, SourceNode.readAll_renderAll id hns] at hread
  refine (Option.map_injective ?_ hread).symm
  intro rs rs' hrs
  simpa [mapAttributes_id, Function.comp_def] using congrArg (List.map SourceNode.node) hrs

/-- A legible node that is read as it was before its attributes were arranged has none that change
their places. -/
theorem mapAttributes_eq_of_reread {f : List Attribute → List Attribute}
    (hf : ∀ as, (f as).length = as.length) (hn : (n.mapAttributes f).IsLegible)
    (h : (n.mapAttributes f).reread = some n) : n.mapAttributes f = n := by
  cases n with
  | openingTag tag =>
    rcases cases_of_reread h with htag | ⟨tag', hmap, ⟨-, htag⟩ | ⟨tag'', htag, hn'⟩⟩
    · exact htag.symm
    · cases htag
    · cases hmap
      cases hn'
      exact congrArg openingTag (OpeningTag.eq_of_reread hn htag rfl (hf _).symm rfl).symm
  | _ => rfl

/-- Where all is read that is written, it is written again as it was only if all attributes are in
order. -/
theorem renderAll_map_eq_iff {f : List Attribute → List Attribute}
    (hf : ∀ as, (f as).length = as.length) (hns : AllLegible ns)
    (hmap : AllLegible (rs.map (mapAttributes f))) (h : ns.map reread = rs.map some) :
    renderAll (rs.map (mapAttributes f)) = renderAll ns ↔ ∀ r ∈ rs, r.mapAttributes f = r := by
  constructor
  · intro hrender r hr
    have hread := reread_congr hmap hns hrender
    rw [mapM_eq_some_iff.2 h, mapM_eq_some_iff, List.map_map, List.map_inj_left] at hread
    exact mapAttributes_eq_of_reread hf (hmap.isLegible (List.mem_map_of_mem hr)) (hread r hr)
  · intro hrs
    rw [List.map_congr_left hrs, List.map_id', renderAll_of_reread h]

end Node

/-- There are values of a partial function with a property if and only if there is one each. -/
theorem exists_map_some_iff {α β : Type} {f : α → Option β} {p : β → Prop} {as : List α} :
    (∃ bs : List β, as.map f = bs.map some ∧ ∀ b ∈ bs, p b) ↔
      ∀ a ∈ as, ∃ b, f a = some b ∧ p b := by
  induction as with
  | nil => simp
  | cons a as ih =>
    rw [List.forall_mem_cons, ← ih]
    constructor
    · rintro ⟨bs, hbs, hp⟩
      obtain ⟨b, bs, rfl, hb, hbs⟩ := List.map_eq_cons_iff.1 hbs.symm
      obtain ⟨hpb, hp⟩ := List.forall_mem_cons.1 hp
      exact ⟨⟨b, hb.symm, hpb⟩, bs, hbs.symm, hp⟩
    · rintro ⟨⟨b, hb, hpb⟩, bs, hbs, hp⟩
      refine ⟨b :: bs, ?_, List.forall_mem_cons.2 ⟨hpb, hp⟩⟩
      rw [List.map_cons, List.map_cons, hb, hbs]

namespace Document

variable {s : OrderSettings} {input out : Text} {ns : List Node}

theorem reorder_eq_ok_iff : reorder s input = .ok out ↔
    ∃ ns, parse s input = .ok ns ∧ out = Node.renderAll ns := by
  rw [reorder]
  cases parse s input <;> simp [Except.map, eq_comm]

/-- What reordering makes of a document that has been written. -/
theorem reorder_renderAll_iff (hns : Node.AllLegible ns) :
    reorder s (Node.renderAll ns) = .ok out ↔ ∃ rs : List Node, ns.map Node.reread = rs.map some ∧
      out = Node.renderAll (rs.map (Node.mapAttributes s.arrange)) := by
  simp only [reorder_eq_ok_iff, parse_renderAll_iff hns]
  constructor
  · rintro ⟨_, ⟨rs, hrs, rfl⟩, rfl⟩
    exact ⟨rs, hrs, rfl⟩
  · rintro ⟨rs, hrs, rfl⟩
    exact ⟨_, ⟨rs, hrs, rfl⟩, rfl⟩

/-- **Reordering twice.** Where a document has been reordered, its nodes are written. Reordering
again fails unless every node can be read where it is written, and it gives the same text only if
the attributes of every node that is then read are in order. -/
theorem reorder_reorder_iff (h : parse s input = .ok ns) :
    reorder s input = .ok (Node.renderAll ns) ∧
      ((∃ out, reorder s (Node.renderAll ns) = .ok out) ↔ ∀ n ∈ ns, ∃ m, n.reread = some m) ∧
      (reorder s (Node.renderAll ns) = .ok (Node.renderAll ns) ↔
        ∀ n ∈ ns, ∃ m, n.reread = some m ∧ m.mapAttributes s.arrange = m) := by
  have hns := allLegible_of_parse h
  refine ⟨reorder_eq_ok_iff.2 ⟨ns, h, rfl⟩, ?_, ?_⟩
  · have hall : (∃ rs : List Node, ns.map Node.reread = rs.map some ∧ ∀ r ∈ rs, True) ↔
        ∀ n ∈ ns, ∃ m, n.reread = some m ∧ True := exists_map_some_iff
    simp only [and_true, implies_true] at hall
    rw [← hall]
    simp only [reorder_renderAll_iff hns]
    constructor
    · rintro ⟨_, rs, hrs, -⟩
      exact ⟨rs, hrs⟩
    · rintro ⟨rs, hrs⟩
      exact ⟨_, rs, hrs, rfl⟩
  · rw [reorder_renderAll_iff hns, ← exists_map_some_iff]
    apply exists_congr
    intro rs
    apply and_congr_right
    intro hrs
    have hmap := allLegible_map (s := s) (Node.allLegible_of_reread hns hrs)
    rw [eq_comm]
    exact Node.renderAll_map_eq_iff (Arrangement.length_attributes s.rank) hns hmap hrs

/-- Where white space stands before the attributes of a tag, reordering twice is reordering once. -/
theorem reorder_reorder_of_blank :
    parse ⟨[]⟩ "<a z=1 y=2>".toList =
        .ok [.openingTag ⟨['a'], [⟨['y'], .plain, some ['2']⟩, ⟨['z'], .plain, some ['1']⟩],
          [[' '], [' ']], [], false⟩] ∧
      reorder ⟨[]⟩ "<a y=2 z=1>".toList = .ok "<a y=2 z=1>".toList := by
  have h : parse ⟨[]⟩ "<a z=1 y=2>".toList =
      .ok [.openingTag ⟨['a'], [⟨['y'], .plain, some ['2']⟩, ⟨['z'], .plain, some ['1']⟩],
        [[' '], [' ']], [], false⟩] := by cbv
  exact ⟨h, (reorder_reorder_iff h).2.2.2 (List.forall_mem_singleton.2 ⟨_, by cbv, by cbv⟩)⟩

theorem reorder_rejects_reordered :
    reorder ⟨[]⟩ "<a z=\x221\x22y=2>".toList = .ok "<a y=2z=\x221\x22>".toList ∧
      ∀ out, reorder ⟨[]⟩ "<a y=2z=\x221\x22>".toList ≠ .ok out := by
  refine ⟨by cbv, ?_⟩
  have : (reorder ⟨[]⟩ "<a y=2z=\x221\x22>".toList).toOption = none := by cbv
  intro out h
  rw [h] at this
  cases this

end Document

end MarkupOrder
