import MarkupOrder.Proofs.Document.Splitting
import MarkupOrder.Proofs.Token.EndMarks

/-!
# Comments and declarations in documents

* `Node.isLegible_comment_iff`, `Node.isLegible_bangTag_iff`: the contents of comments and
  declarations in terms of characters.
* `Document.parse_append_comment_iff`: a comment goes up to the first `-->` that is not behind `<!`
  or `<!-`.
* `Document.parse_append_bangTag_iff`: a declaration goes up to the first `>` that is not the end of
  a `-->`.
-/

namespace MarkupOrder

open Text Lexeme

namespace Text.EndsAtFirst

variable {takes : Text → Prop} {mark content before behind : Text}

theorem takes_of_append (h : content.EndsAtFirst takes mark) (hmark : mark ≠ [])
    (hcontent : content = before ++ mark ++ behind) : takes before := by
  by_contra hfree
  have hbehind := (h before (behind ++ mark) (by rw [hcontent]; simp)).2 hfree
  exact hmark (List.append_eq_nil_iff.1 hbehind).2

/-- In a comment, `-->` stands behind `<!` or `<!-` only. -/
theorem commentEnd_infix_iff (h : content.EndsAtFirst TakesHyphens "-->".toList) :
    "-->".toList <:+: content ↔ "<!-->".toList <:+: content ∨ "<!--->".toList <:+: content := by
  constructor
  · rintro ⟨before, behind, hcontent⟩
    rcases h.takes_of_append (by simp) hcontent.symm with ⟨u, rfl⟩ | ⟨u, rfl⟩
    · exact .inl ⟨u, behind, by rw [← hcontent]; simp⟩
    · exact .inr ⟨u, behind, by rw [← hcontent]; simp⟩
  · rintro (hwithin | hwithin)
    · exact (show "-->".toList <:+: "<!-->".toList by decide).trans hwithin
    · exact (show "-->".toList <:+: "<!--->".toList by decide).trans hwithin

/-- In a declaration, `>` stands at the end of `-->` only. -/
theorem close_mem_iff (h : content.EndsAtFirst TakesClose ['>']) :
    '>' ∈ content ↔ "-->".toList <:+: content := by
  constructor
  · intro hmem
    obtain ⟨before, behind, hcontent⟩ := List.append_of_mem hmem
    rw [List.append_cons] at hcontent
    obtain ⟨u, rfl, -⟩ := h.takes_of_append (by simp) hcontent
    exact ⟨u, behind, by rw [hcontent]; simp⟩
  · exact fun hwithin => hwithin.subset (by decide)

end Text.EndsAtFirst

namespace Node

variable {content : Text}

theorem isLegible_comment_iff :
    (comment content).IsLegible ↔ content.EndsAtFirst TakesHyphens "-->".toList :=
  (endsAtFirst_iff rfl ofText_commentEnd fun before t => stands_hyphens_iff before ('>' :: t)).symm

theorem isLegible_bangTag_iff : (bangTag content).IsLegible ↔
    ¬ "--".toList <+: content ∧ content.EndsAtFirst TakesClose ['>'] := by
  have hmark (t : Text) : ofText (['>'] ++ t) = ⟨.tagClose, ['>']⟩ :: ofText t :=
    ofText_mark rfl (by simp) (by simp)
  exact and_congr_right fun _ => (endsAtFirst_iff rfl hmark stands_close_iff).symm

end Node

namespace Document

variable (s : OrderSettings) (input content : Text) (ns ms : List Node)

/-- **Where comments end.** A comment stands between two documents, and its content goes up to the
first `-->` that is not directly behind `<!` or `<!-`. So there is a `-->` in the content where
there is a `<!-->` or a `<!--->` in it. -/
theorem parse_append_comment_iff :
    (parse s input = .ok (ns ++ .comment content :: ms) ↔
      ∃ a b, input = a ++ ("<!--".toList ++ content ++ "-->".toList ++ b) ∧
        parse s a = .ok ns ∧ parse s b = .ok ms ∧
          content.EndsAtFirst TakesHyphens "-->".toList) ∧
    (parse s input = .ok (ns ++ .comment content :: ms) →
      ("-->".toList <:+: content ↔
        "<!-->".toList <:+: content ∨ "<!--->".toList <:+: content)) := by
  have hfollow : ns.getLast?.all (·.mayFollow (.comment content)) = true := by
    rw [Option.all_eq_true]
    intro m _
    cases m <;> rfl
  have hiff : parse s input = .ok (ns ++ .comment content :: ms) ↔ _ :=
    parse_append_cons_iff nofun nofun
  simp only [hfollow, and_true, Node.isLegible_comment_iff] at hiff
  refine ⟨hiff, fun h => ?_⟩
  obtain ⟨a, b, -, -, -, hcontent⟩ := hiff.1 h
  exact hcontent.commentEnd_infix_iff

/-- The first `-->` does not end the comment, and the tag behind it is not read. -/
theorem parse_comment_beyond_end :
    parse ⟨[]⟩ "<!--<!--><b>-->".toList = .ok [.comment "<!--><b>".toList] ∧
      "-->".toList <:+: "<!--><b>".toList := by
  refine ⟨?_, by decide⟩
  cbv

/-- **Where declarations end.** A declaration stands between two documents, the first of which does
not end with a text. Its content does not begin with `--`, and goes up to the first `>` that is not
the end of a `-->`. So there is a `>` in the content where there is a `-->` in it. -/
theorem parse_append_bangTag_iff :
    (parse s input = .ok (ns ++ .bangTag content :: ms) ↔
      ∃ a b, input = a ++ ("<!".toList ++ content ++ ['>'] ++ b) ∧
        parse s a = .ok ns ∧ parse s b = .ok ms ∧ ¬ "--".toList <+: content ∧
          content.EndsAtFirst TakesClose ['>'] ∧ ∀ t, ns.getLast? ≠ some (.text t)) ∧
    (parse s input = .ok (ns ++ .bangTag content :: ms) →
      ('>' ∈ content ↔ "-->".toList <:+: content)) := by
  have hfollow : ns.getLast?.all (·.mayFollow (.bangTag content)) = true ↔
      ∀ t, ns.getLast? ≠ some (.text t) := by
    cases hlast : ns.getLast? with
    | none => simp
    | some m => cases m <;> simp [Node.mayFollow]
  have hiff : parse s input = .ok (ns ++ .bangTag content :: ms) ↔ _ :=
    parse_append_cons_iff nofun nofun
  simp only [hfollow, Node.isLegible_bangTag_iff, and_assoc] at hiff
  refine ⟨hiff, fun h => ?_⟩
  obtain ⟨a, b, -, -, -, -, hcontent, -⟩ := hiff.1 h
  exact hcontent.close_mem_iff

/-- The first `>` does not end the declaration, and the tag behind it is not read. -/
theorem parse_bangTag_beyond_close :
    parse ⟨[]⟩ "<!a--><b>".toList = .ok [.bangTag "a--><b".toList] ∧ '>' ∈ "a--><b".toList := by
  refine ⟨?_, by decide⟩
  cbv

end Document

end MarkupOrder
