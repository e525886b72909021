import Mathlib.Data.List.Nodup
import MarkupOrder.Command.Run
import MarkupOrder.Proofs.Text.Lines
import MarkupOrder.Proofs.Text.Quoted
import MarkupOrder.Proofs.Token.Seams

/-!
# Token listings

* `Kind.eq_of_name_eq`, `Position.eq_of_render_append_eq`: the parts of a token's form tell the parts
  of the token.
* `Token.eq_of_render_eq`: the form of a token tells the token.
* `Token.filter_render`: the white space in it is the space and nothing else.
* `Token.listing_determines_text`: a listing has a line for every token, and tells the text.
-/

namespace MarkupOrder

open Unicode Text

/-! ## Kinds and positions -/

namespace Kind

variable {k l : Kind}

theorem mem_all (k : Kind) : k ∈ all := by cases k <;> decide

theorem eq_of_name_eq (h : k.name.toList = l.name.toList) : k = l := by
  have hnodup : (all.map fun k => k.name.toList).Nodup := by decide
  exact List.inj_on_of_nodup_map hnodup (mem_all k) (mem_all l) h

theorem filter_name (k : Kind) : k.name.toList.filter isWhitespace = [] := by
  cases k <;> decide

theorem space_notMem_name (k : Kind) : ' ' ∉ k.name.toList := fun hmem =>
  List.filter_eq_nil_iff.1 k.filter_name _ hmem (by decide)

end Kind

namespace Position

variable {p q : Position} {x y : Text}

/-- No mark other than a digit is in a number. -/
theorem notMem_decimal {c : Char} (h : c.isDigit = false) (n : Nat) : c ∉ decimal n := by
  intro hmem
  rw [isDigit_of_mem_decimal hmem] at h
  cases h

/-- A position tells its line and its column before a bracket, which is in no number. -/
theorem eq_of_render_append_eq (h : p.render ++ ']' :: x = q.render ++ ']' :: y) :
    p = q ∧ x = y := by
  simp only [render, List.append_assoc, List.cons_append] at h
  have hcolon (n : Nat) : ':' ∉ decimal n := notMem_decimal (by decide) n
  have hbracket (n : Nat) : ']' ∉ decimal n := notMem_decimal (by decide) n
  obtain ⟨hline, hbehind⟩ := append_cons_inj (hcolon _) (hcolon _) h
  obtain ⟨hcolumn, hxy⟩ := append_cons_inj (hbracket _) (hbracket _) hbehind
  obtain ⟨line, column⟩ := p
  obtain ⟨line', column'⟩ := q
  obtain rfl : line = line' := decimal_injective hline
  obtain rfl : column = column' := decimal_injective hcolumn
  exact ⟨rfl, hxy⟩

theorem filter_render (p : Position) : p.render.filter isWhitespace = [] := by
  have hdecimal (n : Nat) : (decimal n).filter isWhitespace = [] := by
    refine List.filter_eq_nil_iff.2 fun c hc => ?_
    have hmark : isNameMark c = true := by simp [isNameMark, isDigit_of_mem_decimal hc]
    simp [(classes_of_isNameMark hmark).1]
  have hcolon : isWhitespace ':' = false := by decide
  simp [render, hdecimal, hcolon]

end Position

/-! ## Tokens -/

namespace Token

/-- **The form of a token tells the token**, its kind, its text, its line and its column. -/
theorem eq_of_render_eq {t u : Token} (h : t.render = u.render) : t = u := by
  obtain ⟨⟨k, text⟩, p⟩ := t
  obtain ⟨⟨k', text'⟩, p'⟩ := u
  simp only [render, List.cons_append, List.append_assoc, List.nil_append, List.cons.injEq,
    true_and] at h
  obtain ⟨hposition, hbehind⟩ := Position.eq_of_render_append_eq h
  obtain ⟨hname, hquote⟩ := append_cons_inj (Kind.space_notMem_name k) (Kind.space_notMem_name k')
    (List.cons.inj hbehind).2
  rw [hposition, Kind.eq_of_name_eq hname, (Quoted.quote_append_inj hquote).1]

/-- The white space in the form of a token is the space behind the kind and the spaces of the text,
whatever else there is in the text. -/
theorem filter_render (t : Token) :
    t.render.filter isWhitespace = List.replicate (1 + t.text.count ' ') ' ' := by
  have hmarks : isWhitespace '[' = false ∧ isWhitespace ']' = false ∧ isWhitespace '(' = false ∧
      isWhitespace ')' = false ∧ isWhitespace ' ' = true := by decide
  simp [render, hmarks, Position.filter_render, Kind.filter_name, Quoted.filter_quote,
    Nat.add_comm 1, List.replicate_succ]

theorem lineFeed_notMem_render (t : Token) : '\n' ∉ t.render := by
  intro hmem
  have hfilter : '\n' ∈ t.render.filter isWhitespace := List.mem_filter.2 ⟨hmem, by decide⟩
  rw [filter_render] at hfilter
  exact absurd (List.eq_of_mem_replicate hfilter) (by decide)

theorem listing_eq (input : Text) :
    Command.Session.tokenListing input = ofLines ((ofText input).map render) := by
  rw [Command.Session.tokenListing, ofLines, List.flatMap_map]

/-- Different texts have different tokens, since the tokens hold the text. -/
theorem ofText_injective : Function.Injective ofText := by
  intro input input' h
  have hlexemes : Lexeme.ofText input = Lexeme.ofText input' := by
    rw [← map_toLexeme_dropLast, h, map_toLexeme_dropLast]
  rw [← Lexeme.joined_ofText input, hlexemes, Lexeme.joined_ofText]

theorem listing_injective : Function.Injective Command.Session.tokenListing := by
  intro input input' h
  have hlines (input : Text) : ∀ l ∈ (ofText input).map render, '\n' ∉ l :=
    List.forall_mem_map.2 fun t _ => lineFeed_notMem_render t
  rw [listing_eq, listing_eq] at h
  have htokens := eq_of_ofLines_eq (hlines input) (hlines input') h
  exact ofText_injective ((List.map_inj_right fun _ _ => eq_of_render_eq).1 htokens)

/-- **The listing of its tokens determines a text.** A token is told by its form, and a text by its
listing. There is a line for every token, the one that shows it, whatever the text holds: of white
space, the form of a token has nothing but the space behind the kind and the spaces of its text. -/
theorem listing_determines_text :
    Function.Injective render ∧ Function.Injective Command.Session.tokenListing ∧
      (∀ input, (Command.Session.tokenListing input).splitOn '\n' =
          (ofText input).map render ++ [[]] ∧
        (Command.Session.tokenListing input).count '\n' = (ofText input).length) ∧
      ∀ t : Token, t.render.filter isWhitespace = List.replicate (1 + t.text.count ' ') ' ' := by
  refine ⟨fun _ _ => eq_of_render_eq, listing_injective, fun input => ?_, filter_render⟩
  have hsplit : (Command.Session.tokenListing input).splitOn '\n' =
      (ofText input).map render ++ [[]] := by
    rw [listing_eq]
    exact splitOn_ofLines (List.forall_mem_map.2 fun t _ => lineFeed_notMem_render t)
  refine ⟨hsplit, ?_⟩
  have hlength := congrArg List.length hsplit
  rw [length_splitOn, List.length_append, List.length_map] at hlength
  exact Nat.succ.inj hlength

end Token

end MarkupOrder
