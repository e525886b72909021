import MarkupOrder.Proofs.Document.Lossless
import MarkupOrder.Proofs.Source.Failures
import MarkupOrder.Proofs.Token.Positions
import Mathlib

/-!
# Syntax errors

A document is not read where a token is found that cannot go on with what stands before it.

* `Document.parse_eq_error_iff`: an error is the failure of the reading, in terms of the text.
* `Document.exact_of_parse`: the token of an error is one of the text and not what was expected, and
  the error is the same whatever tokens follow it.
-/

namespace MarkupOrder

namespace Failure

open Lexeme

variable {f : Failure} {input : Text}

/-- The position of a failure is behind the lexemes before it. -/
theorem locate_of_append {ks : List Lexeme} (h : ofText input = ks ++ f.rest) :
    f.locate input = ⟨f.expectation, ⟨f.found, Position.start.after (joined ks)⟩⟩ := by
  have hinput : joined ks ++ joined f.rest = input := by
    rw [← joined_append, ← h, joined_ofText]
  have hbefore : input.take (input.length - (joined f.rest).length) = joined ks := by
    rw [← hinput, List.length_append, Nat.add_sub_cancel, List.take_left]
  rw [locate, hbefore]

theorem found_mem {ks : List Lexeme} (h : ofText input = ks ++ f.rest) :
    (f.locate input).found ∈ Token.ofText input := by
  obtain ⟨before, -, hbefore⟩ := Token.locate_append .start ks f.rest
  rw [locate_of_append h, Token.ofText, h, hbefore]
  refine List.mem_append_right before ?_
  unfold found
  cases f.rest with
  | nil => exact List.mem_singleton_self _
  | cons l rest => exact List.mem_cons_self

end Failure

namespace Expectation

variable {e : Expectation}

theorem words_mem_openings_iff : e.words ∈ openings.map words ↔ e ∈ openings := by
  cases e <;> simp [words, openings]

theorem words_mem_runsOn_iff :
    e.words ∈ ["comment end '-->'", "string end", "bang tag closing '>'"] ↔ e.runsOn = true := by
  cases e <;> simp [words, runsOn]

end Expectation

namespace Document

open Lexeme

variable {s : OrderSettings} {input : Text} {e : SyntaxError}

theorem parse_eq_error_iff : parse s input = .error e ↔
    ∃ f, (read s.arrange input).2 = some f ∧ f.locate input = e := by
  rw [parse]
  cases read s.arrange input with
  | mk ns failure? => cases failure? <;> simp

/-- A text that goes on differently behind the lexeme that was found has the same error. -/
theorem parse_congr_tail {f : Failure} {input' : Text} {pre post post' : List Lexeme} {l : Lexeme}
    (hread : (read s.arrange input).2 = some f) (hrest : f.rest = l :: post)
    (h : ofText input = pre ++ l :: post) (h' : ofText input' = pre ++ l :: post') :
    parse s input' = .error (f.locate input) := by
  obtain ⟨e, rest⟩ := f
  obtain rfl : rest = l :: post := hrest
  have htexts (k : Lexeme) (hk : k ∈ pre ++ ([l] ++ post)) : k.text ≠ [] :=
    ne_nil_of_mem_ofText (h ▸ hk)
  rw [read, h] at hread
  have hread' := SourceNode.readAll_congr_tail (List.cons_ne_nil l []) htexts hread post'
  refine parse_eq_error_iff.2 ⟨⟨e, l :: post'⟩, ?_, ?_⟩
  · rw [read, h']
    exact hread'
  · rw [Failure.locate_of_append (f := ⟨e, l :: post'⟩) h',
      Failure.locate_of_append (f := ⟨e, l :: post⟩) h]
    rfl

/-- **Errors are exact and local.** Where a document cannot be read, a token of it is found that is
not of the expected kind. What a part begins with is never missing, and what ends a comment, a
quoted value or a declaration only at the end of the text. Any text whose tokens are the same up to
the one that was found has the same error. -/
theorem exact_of_parse (h : parse s input = .error e) :
    e.found ∈ Token.ofText input ∧ e.found.kind ≠ e.expectation.kind ∧
      e.expectation.words ∉ ["tag opening '<'", "closing tag '/'", "string start ('\x22' or ''')",
        "comment start '<!--'", "bang tag '<!'"] ∧
      (e.expectation.words ∈ ["comment end '-->'", "string end", "bang tag closing '>'"] →
        e.found.isEnd = true) ∧
      ∀ input' before behind behind', Token.ofText input = before ++ e.found :: behind →
        Token.ofText input' = before ++ e.found :: behind' → parse s input' = .error e := by
  obtain ⟨f, hread, rfl⟩ := parse_eq_error_iff.1 h
  have htexts (l : Lexeme) (hl : l ∈ ofText input) : l.text ≠ [] := ne_nil_of_mem_ofText hl
  have hfound := SourceNode.foundIn_of_readAll htexts hread
  obtain ⟨ks, hks⟩ := hfound.suffix
  have hlocate := Failure.locate_of_append hks.symm
  refine ⟨Failure.found_mem hks.symm, hfound.kind_ne, ?_, ?_, ?_⟩
  · exact fun hwords => hfound.notMem_openings (Expectation.words_mem_openings_iff.1 hwords)
  · intro hwords
    have hnil := hfound.rest_eq_nil (Expectation.words_mem_runsOn_iff.1 hwords)
    rw [hlocate, Failure.found, hnil]
    rfl
  · intro input' before behind behind' hinput hinput'
    obtain ⟨hposition, hls⟩ := Token.exists_of_locate_eq hinput
    obtain ⟨-, hls'⟩ := Token.exists_of_locate_eq hinput'
    have hend (text : Text) (hmem : (f.locate input).found.toLexeme ∈ ofText text) :
        (f.locate input).found.kind ≠ .endOfStream :=
      ((stands_ofText text).isWhole hmem).kind_ne
    rcases hls with ⟨post, hls⟩ | ⟨hls, hkind⟩
    · rcases hls' with ⟨post', hls'⟩ | ⟨-, hkind⟩
      · -- the token found is the one that the failure is at, since no other has its position
        obtain rfl : before.map (·.toLexeme) = ks := by
          refine Token.eq_of_after_eq (p := .start) htexts ⟨_, hls.symm⟩ ⟨_, hks⟩ ?_
          rw [← hposition, hlocate]
        have hrest : f.rest = (f.locate input).found.toLexeme :: post := by
          rw [hls] at hks
          exact List.append_cancel_left hks
        have hfound : (f.locate input).found.toLexeme = f.found := by
          rw [hlocate]
        rw [hfound] at hls hls' hrest
        exact parse_congr_tail hread hrest hls hls'
      · exact absurd hkind (hend input (hls ▸ by simp))
    · rcases hls' with ⟨post', hls'⟩ | ⟨hls', -⟩
      · exact absurd hkind (hend input' (hls' ▸ by simp))
      · rw [← joined_ofText input', hls', ← hls, joined_ofText]
        exact h

/-- The text `<a =<!--` goes on differently than `<a =b>` behind the `=` that both fail at. -/
theorem exact_of_parse_equals :
    let e : SyntaxError := ⟨.attributeName, ⟨⟨.equals, ['=']⟩, ⟨1, 4⟩⟩⟩
    parse ⟨[]⟩ "<a =b>".toList = .error e ∧ parse ⟨[]⟩ "<a =<!--".toList = .error e := by
  intro e
  have h : parse ⟨[]⟩ "<a =b>".toList = .error e := by cbv
  let before : List Token :=
    [⟨⟨.tagOpen, ['<']⟩, ⟨1, 1⟩⟩, ⟨⟨.identifier, ['a']⟩, ⟨1, 2⟩⟩, ⟨⟨.whitespace, [' ']⟩, ⟨1, 3⟩⟩]
  have hb : Token.ofText "<a =b>".toList = before ++ e.found ::
      [⟨⟨.identifier, ['b']⟩, ⟨1, 5⟩⟩, ⟨⟨.tagClose, ['>']⟩, ⟨1, 6⟩⟩, .endAt ⟨1, 7⟩] := by cbv
  have hcomment : Token.ofText "<a =<!--".toList = before ++ e.found ::
      [⟨⟨.commentStart, ['<', '!', '-', '-']⟩, ⟨1, 5⟩⟩, .endAt ⟨1, 9⟩] := by cbv
  exact ⟨h, (exact_of_parse h).2.2.2.2 _ _ _ _ hb hcomment⟩

end Document

end MarkupOrder
