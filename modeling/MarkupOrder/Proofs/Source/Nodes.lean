import MarkupOrder.Proofs.Source.Tags

/-!
# Reading nodes back

* `Node.IsLegible`: the contents of a node have the form that they are read in.
* `Node.mayFollow`: a text goes on over another text and over a declaration.
* `SourceNode.read_append`: the node that is read where a legible node is written.
* `SourceNode.readAll_renderAll`: the document that is read where legible nodes are written.
-/

namespace MarkupOrder

open Unicode Text Lexeme

/-! ## Legible nodes -/

namespace Node

theorem mapAttributes_id (n : Node) : n.mapAttributes id = n := by
  cases n <;> rfl

/-- Whether the contents of a node have the form that they are read in. -/
def IsLegible : Node → Prop
  | text content => ∃ l ls, ofText content = l :: ls ∧
      l.kind ∉ [Kind.tagOpen, .bangTagStart, .commentStart] ∧
        ∀ k ∈ ls, SourceNode.endsText k = false
  | openingTag tag => tag.isLegible = true
  | closingTag name => name.isWords isTagMark = true ∧ Stands (ofText name) ['>']
  | comment content => Stands (ofText content) ['-', '-', '>'] ∧
      ∀ l ∈ ofText content, l.kind ≠ .commentEnd
  | bangTag content => ¬ ['-', '-'] <+: content ∧ Stands (ofText content) ['>'] ∧
      ∀ l ∈ ofText content, l.kind ≠ .tagClose

/-- Whether a node can stand behind another one without becoming a part of it. -/
def mayFollow : Node → Node → Bool
  | text _, text _ | text _, bangTag _ => false
  | _, _ => true

theorem mayFollow_of_ne {n : Node} (hn : ∀ content, n ≠ text content) (m : Node) :
    n.mayFollow m = true := by
  cases n with
  | text content => exact absurd rfl (hn content)
  | _ => rfl

/-- Whether the nodes of a document are legible, each behind the one before it. -/
def AllLegible : List Node → Prop
  | [] => True
  | n :: ns => n.IsLegible ∧ ns.head?.all (mayFollow n) = true ∧ AllLegible ns

theorem AllLegible.isLegible {ns : List Node} (h : AllLegible ns) {n : Node} (hn : n ∈ ns) :
    n.IsLegible := by
  induction ns with
  | nil => cases hn
  | cons m ns ih =>
    rcases List.mem_cons.1 hn with rfl | hn
    · exact h.1
    · exact ih h.2.2 hn

end Node

namespace OpeningTag

variable {tag : OpeningTag}

/-- The tag `</>` is written like a closing tag without a name. -/
theorem render_of_isClosingForm (h : tag.isClosingForm = true) :
    tag.render = (Node.closingTag []).render := by
  obtain ⟨name, as, ws, trailing, slash⟩ := tag
  simp only [isClosingForm, Bool.and_eq_true, List.isEmpty_iff] at h
  obtain ⟨⟨⟨rfl, rfl⟩, rfl⟩, rfl⟩ := h
  simp [render, renderBody, renderSlots, Node.render]

/-- The letters and digits of names are no white space, and no marks of other nodes. -/
theorem classes_of_isAlphanumeric {c : Char} (h : isAlphanumeric c = true) :
    isWhitespace c = false ∧ c ≠ '!' ∧ c ≠ '/' := by
  refine ⟨isWhitespace_of_isAlphanumeric h, ?_, ?_⟩ <;>
    · rintro rfl
      revert h
      decide

/-- How a written tag goes on behind `<`. -/
theorem exists_renderBody_eq (ht : tag.isLegible = true) (hclosing : tag.isClosingForm = false) :
    ∃ c u, tag.renderBody = c :: u ∧ isWhitespace c = false ∧ c ≠ '!' ∧ c ≠ '/' := by
  obtain ⟨name, as, ws, trailing, slash⟩ := tag
  obtain ⟨hlen, hname, hslots, -, htight⟩ := isLegible_iff.1 ht
  cases name with
  | cons c name =>
    refine ⟨c, _, rfl, ?_⟩
    rcases forall_of_isWords hname c List.mem_cons_self with hc | hc
    · exact classes_of_isAlphanumeric hc
    · obtain rfl : c = '-' := by simpa [isTagMark] using hc
      decide
  | nil =>
    have htight := htight rfl
    rcases ws with _ | ⟨w, ws⟩ <;> rcases as with _ | ⟨a, as⟩
    · obtain rfl : trailing = [] := by simpa using htight
      cases slash with
      | true => cases hclosing
      | false => exact ⟨'>', [], rfl, by decide⟩
    · cases hlen
    · cases hlen
    · obtain rfl : w = [] := by simpa using htight
      have ha : a.isLegible = true := (hslots ([], a) (by simp [slots])).2
      obtain ⟨c, u, hrender, hc⟩ := Attribute.exists_render_eq ha
      have hbody : ∃ v, renderBody ⟨[], a :: as, [] :: ws, trailing, slash⟩ = c :: v :=
        ⟨_, by rw [renderBody_eq, slots, List.zip_cons_cons, written_cons, hrender]; rfl⟩
      obtain ⟨v, hbody⟩ := hbody
      refine ⟨c, v, hbody, ?_⟩
      rcases hc with ⟨-, hc⟩ | ⟨-, rfl⟩ | ⟨-, -, hc⟩
      · exact classes_of_isAlphanumeric (isAlphanumeric_of_isAlphabetic hc)
      · decide
      · simp only [List.mem_cons, List.not_mem_nil, or_false] at hc
        rcases hc with rfl | rfl | rfl | rfl <;> decide

/-- The body of a written tag does not begin with white space. -/
theorem exists_renderBody_eq_cons (ht : tag.isLegible = true) :
    ∃ c u, tag.renderBody = c :: u ∧ isWhitespace c = false := by
  cases hclosing : tag.isClosingForm with
  | true =>
    have hrender : '<' :: tag.renderBody = ['<', '/', '>'] := render_of_isClosingForm hclosing
    exact ⟨'/', ['>'], (List.cons.inj hrender).2, by decide⟩
  | false =>
    obtain ⟨c, u, hbody, hw, -⟩ := exists_renderBody_eq ht hclosing
    exact ⟨c, u, hbody, hw⟩

end OpeningTag

theorem Failure.toOption_bind {α β : Type} (x : Except Failure α) (f : α → Except Failure β) :
    (x >>= f).toOption = x.toOption.bind fun a => (f a).toOption := by
  cases x <;> rfl

namespace SourceNode

variable (arrange : List Attribute → List Attribute)

theorem readOpeningTag_eq (ls : List Lexeme) : readOpeningTag arrange ls =
    OpeningTag.readNamed (blank ls).2 >>= fun result =>
      Expectation.tagEnd.meet result.2 >>= fun rest =>
        pure (⟨(blank ls).1, .openingTag (result.1.mapAttributes arrange)⟩, rest) := rfl

/-- White space in front of a tag's body is kept beside the tag. -/
theorem readOpeningTag_append {lead : Text} {tag : OpeningTag}
    (hlead : lead.all isWhitespace = true) (ht : tag.isLegible = true) (t : Text) :
    (readOpeningTag arrange (ofText (lead ++ (tag.renderBody ++ t)))).toOption =
      tag.reread.map fun tag => (⟨lead, .openingTag (tag.mapAttributes arrange)⟩, ofText t) := by
  have hblank : blank (ofText (lead ++ (tag.renderBody ++ t))) =
      (lead, ofText (tag.renderBody ++ t)) := by
    obtain ⟨c, u, hbody, hw⟩ := OpeningTag.exists_renderBody_eq_cons ht
    exact blank_append hlead (by simp [hbody, hw])
  obtain ⟨-, hname, hslots, htrailing, -⟩ := OpeningTag.isLegible_iff.1 ht
  have hread := OpeningTag.readNamed_joinName hname hslots htrailing tag.selfClosing t
  have hclose : ofText ('>' :: t) = ⟨.tagClose, ['>']⟩ :: ofText t :=
    ofText_mark rfl (by simp) (by simp)
  have happend : tag.renderBody ++ t = tag.name ++ (OpeningTag.written tag.slots ++
      (tag.trailingWhitespace ++ (OpeningTag.endMark tag.selfClosing ++ t))) := by
    simp [OpeningTag.renderBody_eq]
  rw [← happend] at hread
  rw [readOpeningTag_eq, hblank, Failure.toOption_bind, hread, hclose]
  change _ = tag.reread.map _
  cases h : tag.reread <;> rw [OpeningTag.reread] at h <;> rw [h] <;> rfl

theorem readClosingTag_append {name : Text} (hname : name.isWords isTagMark = true)
    (hs : Stands (ofText name) ['>']) (t : Text) :
    readClosingTag (ofText (name ++ '>' :: t)) = .ok (⟨[], .closingTag name⟩, ofText t) := by
  have hclose : ofText ('>' :: t) = ⟨.tagClose, ['>']⟩ :: ofText t :=
    ofText_mark rfl (by simp) (by simp)
  have hread := tagName_append (t := '>' :: t) hname (hs.append (by simp) (by simp) t)
    (by rw [hclose]; rfl)
  rw [readClosingTag, hread, hclose]
  rfl

theorem readUntil_append {e : Expectation} (node : Text → Node) {content mark t : Text}
    (hs : Stands (ofText content) (mark ++ t)) (hcontent : ∀ l ∈ ofText content, l.kind ≠ e.kind)
    (hmark : ofText (mark ++ t) = ⟨e.kind, mark⟩ :: ofText t) :
    readUntil e node (ofText (content ++ (mark ++ t))) = .ok (⟨[], node content⟩, ofText t) := by
  have hup : upTo (fun l => l.kind == e.kind) (ofText (content ++ (mark ++ t))) =
      (content, ⟨e.kind, mark⟩ :: ofText t) := by
    rw [ofText_append hs, hmark, upTo_append _ (by simp), joined_ofText]
    exact fun l hl => beq_eq_false_iff_ne.2 (hcontent l hl)
  rw [readUntil, hup]
  simp [Expectation.meet]

theorem head?_isFresh {t : Text} (h : (ofText t).head?.all endsText = true) :
    t.head?.all isFresh = true := by
  cases t with
  | nil => rfl
  | cons c t =>
    have hc : c = '<' := by
      simp only [ofText_cons, List.head?_cons, Option.all_some, endsText, Bool.or_eq_true,
        beq_iff_eq] at h
      rcases h with hk | hk
      all_goals
        have := head?_of_text? (c := c) (t := t) (by rw [hk]; rfl)
        exact (Option.some.inj this).symm
    subst hc
    rfl

theorem read_text {l : Lexeme} (hl : l.kind ∉ [Kind.tagOpen, .bangTagStart, .commentStart])
    (rest : List Lexeme) : read arrange l rest =
      .ok (⟨[], .text (l.text ++ (upTo endsText rest).1)⟩, (upTo endsText rest).2) := by
  rw [read_eq]
  split
  case h_4 => rfl
  all_goals
    rename_i hk
    rw [hk] at hl
    exact absurd hl (by simp)

theorem read_tagOpen {l : Lexeme} (hl : l.kind ≠ .slash) (v : Text) (rest : List Lexeme) :
    read arrange ⟨.tagOpen, v⟩ (l :: rest) = readOpeningTag arrange (l :: rest) := by
  obtain ⟨k, u⟩ := l
  cases k with
  | slash => exact absurd rfl hl
  | _ => rfl

/-! ## Documents -/

variable {n : Node} {t : Text}

theorem isLegible_closingTag_nil : (Node.closingTag []).IsLegible :=
  ⟨rfl, by rw [ofText_nil]; trivial⟩

theorem read_append_closingTag {name : Text} (hn : (Node.closingTag name).IsLegible) (t : Text) :
    ∃ rest, ofText ((Node.closingTag name).render ++ t) = ⟨.tagOpen, ['<']⟩ :: rest ∧
      read arrange ⟨.tagOpen, ['<']⟩ rest = .ok (⟨[], .closingTag name⟩, ofText t) := by
  have hopen : ofText ('<' :: '/' :: (name ++ '>' :: t)) =
      ⟨.tagOpen, ['<']⟩ :: ⟨.slash, ['/']⟩ :: ofText (name ++ '>' :: t) := by
    rw [ofText_mark rfl (by simp) (by simp), ofText_mark rfl (by simp) (by simp)]
  refine ⟨_, by simpa [Node.render] using hopen, ?_⟩
  exact readClosingTag_append hn.1 hn.2 t

theorem read_append_openingTag {lead : Text} {tag : OpeningTag}
    (hlead : lead.all isWhitespace = true) (ht : tag.isLegible = true)
    (hclosing : lead = [] → tag.isClosingForm = false) (t : Text) :
    ∃ rest, ofText ('<' :: (lead ++ (tag.renderBody ++ t))) = ⟨.tagOpen, ['<']⟩ :: rest ∧
      (read arrange ⟨.tagOpen, ['<']⟩ rest).toOption =
        tag.reread.map fun tag => (⟨lead, .openingTag (tag.mapAttributes arrange)⟩, ofText t) := by
  have hread := readOpeningTag_append arrange hlead ht t
  obtain ⟨c, u, hbody, hbang, hslash⟩ :
      ∃ c u, lead ++ (tag.renderBody ++ t) = c :: u ∧ c ≠ '!' ∧ c ≠ '/' := by
    cases lead with
    | nil =>
      obtain ⟨c, u, hbody, -, hmarks⟩ := OpeningTag.exists_renderBody_eq ht (hclosing rfl)
      exact ⟨c, u ++ t, by rw [hbody]; rfl, hmarks⟩
    | cons c lead =>
      have hc : isWhitespace c = true := (Bool.and_eq_true_iff.1 hlead).1
      refine ⟨c, _, rfl, ?_, ?_⟩ <;>
        · rintro rfl
          revert hc
          decide
  have hopen : ofText ('<' :: c :: u) = ⟨.tagOpen, ['<']⟩ :: ofText (c :: u) :=
    ofText_mark rfl (by simpa using hbang.symm) (by simp)
  have hk : (first c u).kind ≠ .slash := by
    intro hk
    have hhead := head?_of_text? (c := c) (t := u) (by rw [hk]; rfl)
    exact hslash (Option.some.inj hhead).symm
  rw [hbody] at hread ⊢
  refine ⟨_, hopen, ?_⟩
  rw [ofText_cons] at hread ⊢
  rw [read_tagOpen arrange hk, hread]

theorem read_append_text {content : Text} (hn : (Node.text content).IsLegible)
    (ht : (ofText t).head?.all endsText = true) :
    ∃ l rest, ofText ((Node.text content).render ++ t) = l :: rest ∧
      read arrange l rest = .ok (⟨[], .text content⟩, ofText t) := by
  obtain ⟨l, ls, hcontent, hl, hls⟩ := hn
  have hs : Stands (ofText content) t := (stands_ofText content).before (head?_isFresh ht)
  have hjoin := joined_ofText content
  rw [hcontent, joined_cons] at hjoin
  refine ⟨l, ls ++ ofText t, by rw [Node.render, ofText_append hs, hcontent]; rfl, ?_⟩
  rw [read_text arrange hl, upTo_append hls ht, hjoin]

theorem read_append_comment {content : Text} (hn : (Node.comment content).IsLegible) (t : Text) :
    ∃ rest, ofText ((Node.comment content).render ++ t) =
        ⟨.commentStart, ['<', '!', '-', '-']⟩ :: rest ∧
      read arrange ⟨.commentStart, ['<', '!', '-', '-']⟩ rest =
        .ok (⟨[], .comment content⟩, ofText t) := by
  obtain ⟨hs, hcontent⟩ := hn
  have hopen := ofText_commentStart (content ++ (['-', '-', '>'] ++ t))
  have hread := readUntil_append (e := .commentEnd) Node.comment
    (hs.append (by simp) (by simp) t) hcontent (ofText_commentEnd t)
  exact ⟨_, by simpa [Node.render] using hopen, hread⟩

theorem read_append_bangTag {content : Text} (hn : (Node.bangTag content).IsLegible) (t : Text) :
    ∃ rest, ofText ((Node.bangTag content).render ++ t) = ⟨.bangTagStart, ['<', '!']⟩ :: rest ∧
      read arrange ⟨.bangTagStart, ['<', '!']⟩ rest = .ok (⟨[], .bangTag content⟩, ofText t) := by
  obtain ⟨hhyphens, hs, hcontent⟩ := hn
  have hclose : ofText ('>' :: t) = ⟨.tagClose, ['>']⟩ :: ofText t :=
    ofText_mark rfl (by simp) (by simp)
  have hopen : ofText ('<' :: '!' :: (content ++ (['>'] ++ t))) =
      ⟨.bangTagStart, ['<', '!']⟩ :: ofText (content ++ (['>'] ++ t)) := by
    apply ofText_bangTagStart
    rcases content with _ | ⟨c, _ | ⟨d, content⟩⟩
    · simp
    · simp
    · simpa using hhyphens
  have hread := readUntil_append (e := .bangTagEnd) Node.bangTag
    (hs.append (by simp) (by simp) t) hcontent hclose
  exact ⟨_, by simpa [Node.render] using hopen, hread⟩

/-- **The node that is read where a legible node is written.** A text goes on up to the next tag or
comment. -/
theorem read_append (hn : n.IsLegible)
    (ht : ∀ content, n = .text content → (ofText t).head?.all endsText = true) :
    ∃ l rest, ofText (n.render ++ t) = l :: rest ∧ (read arrange l rest).toOption =
      n.reread.map fun m => (⟨[], m.mapAttributes arrange⟩, ofText t) := by
  cases n with
  | text content =>
    obtain ⟨l, rest, hopen, hread⟩ := read_append_text arrange hn (ht content rfl)
    exact ⟨l, rest, hopen, congrArg Except.toOption hread⟩
  | openingTag tag =>
    cases hclosing : tag.isClosingForm with
    | true =>
      obtain ⟨rest, hopen, hread⟩ := read_append_closingTag arrange isLegible_closingTag_nil t
      rw [← OpeningTag.render_of_isClosingForm hclosing] at hopen
      refine ⟨_, rest, hopen, ?_⟩
      rw [hread, Node.reread, if_pos hclosing]
      rfl
    | false =>
      obtain ⟨rest, hopen, hread⟩ :=
        read_append_openingTag arrange List.all_nil hn (fun _ => hclosing) t
      refine ⟨_, rest, hopen, ?_⟩
      rw [hread, Node.reread, if_neg (by simp [hclosing]), Option.map_map]
      rfl
  | closingTag name =>
    obtain ⟨rest, hopen, hread⟩ := read_append_closingTag arrange hn t
    exact ⟨_, rest, hopen, congrArg Except.toOption hread⟩
  | comment content =>
    obtain ⟨rest, hopen, hread⟩ := read_append_comment arrange hn t
    exact ⟨_, rest, hopen, congrArg Except.toOption hread⟩
  | bangTag content =>
    obtain ⟨rest, hopen, hread⟩ := read_append_bangTag arrange hn t
    exact ⟨_, rest, hopen, congrArg Except.toOption hread⟩

/-- The nodes of a document that has been read to its end. -/
def complete? : List SourceNode × Option Failure → Option (List SourceNode)
  | (ns, none) => some ns
  | (_, some _) => none

theorem complete?_eq_none_iff {result : List SourceNode × Option Failure} :
    complete? result = none ↔ ∃ f, result.2 = some f := by
  obtain ⟨ns, failure?⟩ := result
  cases failure? <;> simp [complete?]

theorem complete?_readAll_cons (l : Lexeme) (rest : List Lexeme) :
    complete? (readAll arrange (l :: rest)) =
      (read arrange l rest).toOption.bind fun result =>
        (complete? (readAll arrange result.2)).map (result.1 :: ·) := by
  rw [readAll]
  cases h : read arrange l rest with
  | error f => rfl
  | ok result =>
    rw [remainder_ok]
    simp only [Except.toOption, Option.bind_some]
    cases readAll arrange result.2 with
    | mk ns failure? => cases failure? <;> rfl

/-- A written node begins with a lexeme that ends a text, unless it goes on with one. -/
theorem head?_endsText {m : Node} {content : Text} (hm : m.IsLegible)
    (hfollow : (Node.text content).mayFollow m = true) (t : Text) :
    (ofText (m.render ++ t)).head?.all endsText = true := by
  cases m with
  | text | bangTag => cases hfollow
  | openingTag tag =>
    cases hclosing : tag.isClosingForm with
    | true =>
      obtain ⟨rest, hopen, -⟩ := read_append_closingTag id isLegible_closingTag_nil t
      rw [← OpeningTag.render_of_isClosingForm hclosing] at hopen
      rw [Node.render, hopen]
      rfl
    | false =>
      obtain ⟨rest, hopen, -⟩ :=
        read_append_openingTag id List.all_nil hm (fun _ => hclosing) t
      have hopen : ofText ((Node.openingTag tag).render ++ t) = ⟨.tagOpen, ['<']⟩ :: rest := hopen
      rw [hopen]
      rfl
  | closingTag name =>
    obtain ⟨rest, hopen, -⟩ := read_append_closingTag id hm t
    rw [hopen]
    rfl
  | comment content =>
    obtain ⟨rest, hopen, -⟩ := read_append_comment id hm t
    rw [hopen]
    rfl

/-- **The document that is read where legible nodes are written.** -/
theorem readAll_renderAll {ns : List Node} (hns : Node.AllLegible ns) :
    complete? (readAll arrange (ofText (Node.renderAll ns))) =
      (ns.mapM Node.reread).map fun ms => ms.map fun m => ⟨[], m.mapAttributes arrange⟩ := by
  induction ns with
  | nil =>
    rw [Node.renderAll_nil, ofText_nil, readAll]
    rfl
  | cons n ns ih =>
    obtain ⟨hn, hfollow, hns⟩ := hns
    have hnext : ∀ content, n = .text content →
        (ofText (Node.renderAll ns)).head?.all endsText = true := by
      rintro content rfl
      cases ns with
      | nil => rw [Node.renderAll_nil, ofText_nil]; rfl
      | cons m ns => exact head?_endsText hns.1 (by simpa using hfollow) _
    obtain ⟨l, rest, hopen, hread⟩ := read_append arrange hn hnext
    rw [Node.renderAll_cons, hopen, complete?_readAll_cons, hread, List.mapM_cons, Option.bind_map]
    cases n.reread with
    | none => rfl
    | some m =>
      simp only [Option.bind_some, Function.comp_apply, ih hns]
      cases ns.mapM Node.reread <;> rfl

end SourceNode

end MarkupOrder
