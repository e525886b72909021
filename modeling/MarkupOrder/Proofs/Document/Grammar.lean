import MarkupOrder.Proofs.Document.SyntaxErrors
import MarkupOrder.Proofs.Grammar.Nodes

/-!
# The documents that can be read

* `Document.exists_parse_iff`: they are the ones that have the form of documents.
* `Document.derives_of_loose_blank`: white space behind `<` is never left to the first attribute.
-/

namespace MarkupOrder.Document

open Form

/-- **The documents that can be read are those of the grammar**, whatever the order. -/
theorem exists_parse_iff (s : OrderSettings) (input : Text) :
    (∃ ns, parse s input = .ok ns) ↔ (document allBlank).Derives (Lexeme.ofText input) [] := by
  rw [SourceNode.derives_document_iff s.arrange fun l hl => Lexeme.ne_nil_of_mem_ofText hl, parse,
    read]
  cases SourceNode.readAll s.arrange (Lexeme.ofText input) with
  | mk ns failure? => cases failure? <;> simp

/-- If white space behind `<` could be left to an attribute, then `< a:b>` would be a tag without a
name. -/
theorem derives_of_loose_blank :
    (document blank).Derives (Lexeme.ofText "< a:b>".toList) [] ∧
      ∀ ns, parse ⟨[]⟩ "< a:b>".toList ≠ .ok ns := by
  constructor
  · have hlexemes : Lexeme.ofText "< a:b>".toList = [⟨.tagOpen, ['<']⟩, ⟨.whitespace, [' ']⟩,
        ⟨.identifier, ['a']⟩, ⟨.colon, [':']⟩, ⟨.identifier, ['b']⟩, ⟨.tagClose, ['>']⟩] := by cbv
    rw [hlexemes]
    have hattribute : anyAttribute.Derives [⟨.identifier, ['a']⟩, ⟨.colon, [':']⟩,
        ⟨.identifier, ['b']⟩, ⟨.tagClose, ['>']⟩] [⟨.tagClose, ['>']⟩] :=
      .seq (.left (.seq (.one rfl) (derives_run_iff.2 rfl))) (.right .empty)
    have htag : tagRest.Derives [⟨.whitespace, [' ']⟩, ⟨.identifier, ['a']⟩, ⟨.colon, [':']⟩,
        ⟨.identifier, ['b']⟩, ⟨.tagClose, ['>']⟩] [] :=
      .seq (.more (.seq (.left (.one rfl)) hattribute) .stop)
        (.seq (.right .empty) (.left (.seq (.right .empty) (.one rfl))))
    exact .more (.right (.left (.seq (.one rfl) (.seq (.before rfl)
      (.seq (.right .empty) (.seq (derives_run_iff.2 rfl) htag)))))) .stop
  · have hfails : (parse ⟨[]⟩ "< a:b>".toList).toOption = none := by cbv
    intro ns h
    rw [h] at hfails
    cases hfails

end MarkupOrder.Document
