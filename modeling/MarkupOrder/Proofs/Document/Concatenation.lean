import MarkupOrder.Proofs.Document.Idempotence
import MarkupOrder.Proofs.Document.SyntaxErrors

/-!
# Documents one behind the other

Two documents can be read one by one unless a text is cut in two, or a declaration is cut off from
the text before it.

* `SourceNode.readAll_append`: the nodes of two lists of lexemes.
* `Lexeme.Stands.behindClose`, `Document.ofText_append_of_parse`: the lexemes of two texts.
* `Document.parse_append`: the nodes of two documents, or the error in the second one, moved behind
  the first one.
-/

namespace MarkupOrder

/-! ## Lexemes one behind the other -/

namespace SourceNode

open Lexeme

variable {arrange : List Attribute → List Attribute} {ls ms rest : List Lexeme} {n : SourceNode}

/-- A node is the same before more lexemes, unless it is a text that would go on with them. -/
theorem read_append_of_seam {l : Lexeme} (hread : read arrange l ls = .ok (n, rest))
    (hseam : rest = [] → (∀ content, n.node ≠ .text content) ∨ ms.head?.all endsText = true) :
    read arrange l (ls ++ ms) = .ok (n, rest ++ ms) := by
  have hstays := ((isLocal_read arrange l).isLocalAt ls).stays
  rw [hread] at hstays
  by_cases hrest : rest = []
  · subst hrest
    rw [read_eq] at hread ⊢
    split at hread
    · exact isClosed_readTag arrange hread ms
    · exact isClosed_readUntil _ _ hread ms
    · exact isClosed_readUntil _ _ hread ms
    · simp only [Except.ok.injEq, Prod.mk.injEq] at hread
      obtain ⟨rfl, hup⟩ := hread
      have hends := (hseam rfl).resolve_left fun hne => hne _ rfl
      have hls (k : Lexeme) (hk : k ∈ ls) : endsText k = false := by
        have hdrop := List.dropWhile_eq_nil_iff.1 hup k hk
        simpa using hdrop
      have hup' : upTo endsText (ls ++ []) = (joined ls, []) := upTo_append hls rfl
      rw [List.append_nil] at hup'
      rw [upTo_append hls hends, hup']
      rfl
  · exact hstays hrest ms

/-- **The nodes of lexemes before lexemes that do not go on with the last one.** -/
theorem readAll_append {ns : List SourceNode} (h : readAll arrange ls = (ns, none))
    (hseam : (∀ n ∈ ns.getLast?, ∀ content, n.node ≠ .text content) ∨
      ms.head?.all endsText = true) :
    readAll arrange (ls ++ ms) = (ns ++ (readAll arrange ms).1, (readAll arrange ms).2) := by
  fun_induction readAll arrange ls generalizing ns with
  | case1 =>
    cases h
    rfl
  | case2 => cases h
  | case3 l ls result n behind hread ns' failure? hall =>
    rename_i ih
    cases h
    rw [hread, remainder_ok] at hall ih
    have hmore : read arrange l (ls ++ ms) = .ok (n, behind ++ ms) := by
      refine read_append_of_seam hread fun hnil => hseam.imp_left fun hlast => hlast n ?_
      rw [hnil, readAll] at hall
      cases hall
      rfl
    have hlast : (∀ m ∈ ns'.getLast?, ∀ content, m.node ≠ .text content) ∨
        ms.head?.all endsText = true := by
      refine hseam.imp_left fun hlast m hm => hlast m ?_
      cases ns' with
      | nil => cases hm
      | cons m' ns' => exact hm
    rw [List.cons_append, readAll, hmore]
    simp only [remainder_ok, ih hall hlast, List.cons_append]

end SourceNode

/-! ## Lexemes of two texts -/

namespace Lexeme

open Unicode

theorem drawsIn_of_getLast? {l : Lexeme} (h : l.IsWhole) (hlast : l.text.getLast? = some '>')
    (t : Text) : l.drawsIn t = false := by
  have hmem := List.mem_of_getLast? hlast
  have hclose : isWhitespace '>' = false ∧ isAlphabetic '>' = false ∧
      isAlphanumeric '>' = false := by
    decide
  unfold drawsIn
  split
  case h_1 hk => simp [List.all_eq_true.1 (h.blank hk) '>' hmem] at hclose
  case h_2 hk =>
    obtain ⟨c, r, ht, hc, hr⟩ := h.word hk
    rw [ht] at hmem
    rcases List.mem_cons.1 hmem with rfl | hmem
    · simp [hc] at hclose
    · simp [hr '>' hmem] at hclose
  case h_6 => rfl
  all_goals
    rename_i hk
    rw [h.text_eq (by rw [hk]; rfl)] at hlast
    simp at hlast

/-- Behind `>`, any text may follow. -/
theorem Stands.behindClose {ls : List Lexeme} (h : Stands ls [])
    (hlast : (joined ls).getLast? = some '>') (t : Text) : Stands ls t := by
  rcases List.eq_nil_or_concat ls with rfl | ⟨init, l, rfl⟩
  · trivial
  · rw [List.concat_eq_append] at h hlast ⊢
    have hw : l.IsWhole := h.isWhole (by simp)
    rw [joined_append, joined_cons, joined_nil, List.append_nil,
      List.getLast?_append_of_ne_nil _ hw.ne_nil] at hlast
    rw [stands_iff_not_joins h, List.map_append, List.map_singleton, joins_concat_iff l.text]
    rintro (hdraws | ⟨hk, -⟩)
    · rw [drawsIn_of_getLast? hw hlast t] at hdraws
      cases hdraws
    · rw [hw.text_eq (t := ['-']) (by rw [hk]; rfl)] at hlast
      simp at hlast

end Lexeme

/-! ## Documents -/

/-- A text that ends with `>` ends with it whatever is in front. -/
theorem Text.getLast?_append_close {u : Text} (h : u.getLast? = some '>') (t : Text) :
    (t ++ u).getLast? = some '>' := by
  rw [List.getLast?_append_of_ne_nil _ (by rintro rfl; cases h), h]

/-- A node that is no text ends with `>`. -/
theorem SourceNode.getLast?_render {n : SourceNode} (hn : ∀ content, n.node ≠ .text content) :
    n.render.getLast? = some '>' := by
  obtain ⟨lead, node⟩ := n
  cases node with
  | text content => exact absurd rfl (hn content)
  | openingTag tag =>
    refine Text.getLast?_append_close ?_ ('<' :: lead)
    rw [OpeningTag.renderBody]
    split <;> exact Text.getLast?_append_close rfl _
  | closingTag | comment | bangTag => exact Text.getLast?_append_close rfl _

/-- The error in a text when another one is put in front. -/
def SyntaxError.movedBy (t : Text) (e : SyntaxError) : SyntaxError :=
  ⟨e.expectation, ⟨e.found.toLexeme, e.found.position.movedBy t⟩⟩

namespace Document

open Lexeme

variable {s : OrderSettings} {a b : Text} {ms ns : List Node}

/-- A document that does not end with a text is cut in the same way before any text. -/
theorem stands_of_parse (ha : parse s a = .ok ns)
    (hlast : ∀ content, ns.getLast? ≠ some (.text content)) (t : Text) : Stands (ofText a) t := by
  obtain ⟨rs, hread, rfl⟩ := parse_eq_ok_iff.1 ha
  have ha := (SourceNode.renderAll_of_readAll (stands_ofText a) hread).1
  rw [joined_ofText] at ha
  rcases List.eq_nil_or_concat rs with rfl | ⟨init, r, rfl⟩
  · rw [ha, List.flatMap_nil, ofText_nil]
    trivial
  · rw [List.concat_eq_append] at ha hlast
    have hr : ∀ content, r.node ≠ .text content := by
      intro content hr
      apply hlast content
      rw [List.map_append, List.map_singleton, List.getLast?_concat, hr]
      rfl
    refine (stands_ofText a).behindClose ?_ t
    rw [joined_ofText, ha, List.flatMap_append, List.flatMap_singleton]
    exact Text.getLast?_append_close (SourceNode.getLast?_render hr) _

/-- The error in the second of two texts is the one in the text, moved. -/
theorem locate_append {f : Failure} (hf : f.FoundIn (ofText b))
    (hab : ofText (a ++ b) = ofText a ++ ofText b) :
    f.locate (a ++ b) = (f.locate b).movedBy a := by
  obtain ⟨ks, hks⟩ := hf.suffix
  have happend : ofText (a ++ b) = (ofText a ++ ks) ++ f.rest := by
    rw [hab, ← hks, List.append_assoc]
  rw [Failure.locate_of_append happend, Failure.locate_of_append hks.symm, SyntaxError.movedBy,
    joined_append, joined_ofText, Position.movedBy_after]

/-- What the reading of two texts in a row consists of. -/
theorem read_append (ha : parse s a = .ok ns)
    (hseam : (∀ content, ns.getLast? ≠ some (.text content)) ∨
      (ofText b).head?.all SourceNode.endsText = true) :
    ofText (a ++ b) = ofText a ++ ofText b ∧ ∃ rs : List SourceNode, ns = rs.map (·.node) ∧
      read s.arrange (a ++ b) = (rs ++ (read s.arrange b).1, (read s.arrange b).2) := by
  have hstands : Stands (ofText a) b := by
    rcases hseam with hlast | hhead
    · exact stands_of_parse ha hlast b
    · exact (stands_ofText a).before (SourceNode.head?_isFresh hhead)
  have hab := ofText_append hstands
  refine ⟨hab, ?_⟩
  rw [parse] at ha
  split at ha
  · cases ha
  · rename_i rs hread
    cases ha
    refine ⟨rs, rfl, ?_⟩
    rw [read, hab]
    refine SourceNode.readAll_append hread (hseam.imp_left fun hlast r hr content hcontent => ?_)
    apply hlast content
    rw [List.getLast?_map, hr, Option.map_some, hcontent]

/-- The nodes of two texts in a row. -/
theorem parse_append_of_seam (ha : parse s a = .ok ns) (hb : parse s b = .ok ms)
    (hseam : (∀ content, ns.getLast? ≠ some (.text content)) ∨
      (ofText b).head?.all SourceNode.endsText = true) : parse s (a ++ b) = .ok (ns ++ ms) := by
  obtain ⟨-, rs, hrs, hread⟩ := read_append ha hseam
  rw [parse] at hb ⊢
  rw [hread]
  split at hb
  · cases hb
  · rename_i hms
    cases hb
    rw [hms, hrs, ← List.map_append]

/-- **Documents can be read piece by piece.** Unless a document ends with a text, and something
follows that goes on with it, what follows is read as if it stood alone: it adds its nodes, or it
has its error, with the token moved behind the document. -/
theorem parse_append (ha : parse s a = .ok ns)
    (hseam : ns = [] ∨ (∀ content, ns.getLast? ≠ some (.text content)) ∨ b = [] ∨
      ∃ t ∈ (Token.ofText b).head?, t.kind = .tagOpen ∨ t.kind = .commentStart) :
    (∀ ms, parse s b = .ok ms → parse s (a ++ b) = .ok (ns ++ ms)) ∧
      (∀ e, parse s b = .error e → parse s (a ++ b) = .error (e.movedBy a)) ∧
        ∀ out out', reorder s a = .ok out → reorder s b = .ok out' →
          reorder s (a ++ b) = .ok (out ++ out') := by
  have hseam : (∀ content, ns.getLast? ≠ some (.text content)) ∨
      (ofText b).head?.all SourceNode.endsText = true := by
    rcases hseam with rfl | hlast | rfl | ⟨t, ht, hkind⟩
    · exact .inl nofun
    · exact .inl hlast
    · rw [ofText_nil]
      exact .inr rfl
    · right
      rw [Token.ofText] at ht
      cases hb : ofText b with
      | nil => rfl
      | cons l ls =>
        rw [hb] at ht
        cases ht
        simpa [SourceNode.endsText] using hkind
  obtain ⟨hab, rs, -, hread⟩ := read_append ha hseam
  have hnodes (ms : List Node) (hb : parse s b = .ok ms) : parse s (a ++ b) = .ok (ns ++ ms) :=
    parse_append_of_seam ha hb hseam
  refine ⟨hnodes, fun e hb => ?_, fun out out' hout hout' => ?_⟩
  · obtain ⟨f, hf, rfl⟩ := parse_eq_error_iff.1 hb
    have hfound := SourceNode.foundIn_of_readAll (fun l hl => ne_nil_of_mem_ofText hl) hf
    exact parse_eq_error_iff.2 ⟨f, by rw [hread, hf], locate_append hfound hab⟩
  · obtain ⟨ns', ha', rfl⟩ := reorder_eq_ok_iff.1 hout
    obtain ⟨ms, hb, rfl⟩ := reorder_eq_ok_iff.1 hout'
    rw [ha] at ha'
    cases ha'
    exact reorder_eq_ok_iff.2 ⟨_, hnodes ms hb, (Node.renderAll_append ns ms).symm⟩

/-- The end of a comment that ends a tag is no seam: behind it, the error in `<d` is the same. -/
theorem parse_append_commentEnd :
    let tag : OpeningTag := ⟨['a'], [⟨['b'], .plain, some "c--".toList⟩], [['\n']], [], false⟩
    parse ⟨[]⟩ "<a\nb=c-->".toList = .ok [.openingTag tag] ∧
      parse ⟨[]⟩ "<d".toList = .error ⟨.tagEnd, .endAt ⟨1, 3⟩⟩ ∧
        parse ⟨[]⟩ ("<a\nb=c-->".toList ++ "<d".toList) = .error ⟨.tagEnd, .endAt ⟨2, 9⟩⟩ := by
  intro tag
  have ha : parse ⟨[]⟩ "<a\nb=c-->".toList = .ok [.openingTag tag] := by cbv
  have hb : parse ⟨[]⟩ "<d".toList = .error ⟨.tagEnd, .endAt ⟨1, 3⟩⟩ := by cbv
  have hlast (content : Text) : [Node.openingTag tag].getLast? ≠ some (.text content) := by
    intro h
    cases h
  have hmoved : SyntaxError.movedBy "<a\nb=c-->".toList ⟨.tagEnd, .endAt ⟨1, 3⟩⟩ =
      ⟨.tagEnd, .endAt ⟨2, 9⟩⟩ := by
    cbv
  have hab := (parse_append ha (.inr (.inl hlast))).2.1 _ hb
  rw [hmoved] at hab
  exact ⟨ha, hb, hab⟩

end Document

end MarkupOrder
