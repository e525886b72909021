import MarkupOrder.Proofs.Text.Places
import MarkupOrder.Proofs.Token.Whole
import MarkupOrder.Token.Token

/-!
# Positions of tokens

* `Position.precedes_after`: a text that is not empty ends behind the place where it starts.
* `Token.exists_of_locate_eq`: the place of a token among the tokens of a text, and
  `Token.pairwise_locate`: the places are in order.
* `Cursor.take_tokens`: reading tokens one at a time.
* `Token.ofText_lossless`: the tokens of a text hold its characters, each at its place.
-/

namespace MarkupOrder

namespace Position

variable {p q : Position} {t : Text}

theorem precedes_iff :
    p.precedes q = true ↔ p.line < q.line ∨ p.line = q.line ∧ p.column < q.column := by
  simp [precedes]

/-- A text that is not empty ends behind the place where it starts. -/
theorem precedes_after (ht : t ≠ []) : p.precedes (p.after t) = true := by
  have hlength := List.length_pos_of_ne_nil ht
  rw [precedes_iff, after_eq]
  by_cases hline : t.count '\n' = 0
  · rw [if_pos hline]
    exact .inr ⟨by simp [hline], by simpa using hlength⟩
  · exact .inl (Nat.lt_add_of_pos_right (Nat.pos_of_ne_zero hline))

end Position

namespace Lexeme

theorem IsWhole.kind_ne {l : Lexeme} (h : l.IsWhole) : l.kind ≠ .endOfStream := by
  intro hk
  obtain ⟨c, r, -, hl⟩ := isWhole_iff.1 h
  rw [hk] at hl
  generalize r.length = n at hl
  cases hl with
  | punctuation hp => cases Kind.text?_of_punctuation hp

theorem ne_nil_of_mem_ofText {input : Text} {l : Lexeme} (h : l ∈ ofText input) : l.text ≠ [] :=
  ((stands_ofText input).isWhole h).ne_nil

theorem eq_nil_of_joined_eq_nil {ls : List Lexeme} (hls : ∀ l ∈ ls, l.text ≠ [])
    (h : joined ls = []) : ls = [] := by
  cases ls with
  | nil => rfl
  | cons l ls => exact absurd (List.append_eq_nil_iff.1 h).1 (hls l List.mem_cons_self)

end Lexeme

/-! ## Lexemes at their places -/

namespace Token

open Lexeme

variable {p : Position} {t : Token} {ls : List Lexeme} {before behind : List Token}

theorem locate_append (p : Position) (ks ls : List Lexeme) :
    ∃ before, before.map (·.toLexeme) = ks ∧
      locate p (ks ++ ls) = before ++ locate (p.after (joined ks)) ls := by
  induction ks generalizing p with
  | nil => exact ⟨[], rfl, rfl⟩
  | cons k ks ih =>
    obtain ⟨before, rfl, h⟩ := ih (p.after k.text)
    refine ⟨⟨k, p⟩ :: before, rfl, ?_⟩
    rw [List.cons_append, locate, h, joined_cons, Position.after_append]
    rfl

/-- Lexemes before different places have different positions behind them. -/
theorem eq_of_after_eq {ks js : List Lexeme} (hls : ∀ l ∈ ls, l.text ≠ []) (hks : ks <+: ls)
    (hjs : js <+: ls) (h : p.after (joined ks) = p.after (joined js)) : ks = js := by
  have hlonger {is more : List Lexeme} (hmore : is ++ more <+: ls)
      (h : p.after (joined (is ++ more)) = p.after (joined is)) : is ++ more = is := by
    rw [joined_append, Position.after_append] at h
    have hnil := eq_nil_of_joined_eq_nil
      (fun l hl => hls l (hmore.subset (List.mem_append_right is hl)))
      (Position.eq_nil_of_after_eq h)
    rw [hnil, List.append_nil]
  rcases List.prefix_or_prefix_of_prefix hks hjs with ⟨more, rfl⟩ | ⟨more, rfl⟩
  · exact (hlonger hjs h.symm).symm
  · exact hlonger hks h

/-- A token stands behind the characters of the tokens before it, and it is a lexeme or the end. -/
theorem exists_of_locate_eq (h : locate p ls = before ++ t :: behind) :
    t.position = p.after (joined (before.map (·.toLexeme))) ∧
      ((∃ post, ls = before.map (·.toLexeme) ++ t.toLexeme :: post) ∨
        ls = before.map (·.toLexeme) ∧ t.kind = .endOfStream) := by
  induction before generalizing p ls with
  | nil =>
    cases ls with
    | nil =>
      obtain ⟨rfl, -⟩ := List.cons.inj h
      exact ⟨rfl, .inr ⟨rfl, rfl⟩⟩
    | cons l ls =>
      obtain ⟨rfl, -⟩ := List.cons.inj h
      exact ⟨rfl, .inl ⟨ls, rfl⟩⟩
  | cons b before ih =>
    cases ls with
    | nil => simp [locate] at h
    | cons l ls =>
      obtain ⟨rfl, htail⟩ := List.cons.inj h
      obtain ⟨hposition, hls⟩ := ih htail
      refine ⟨by rw [hposition, ← Position.after_append]; rfl, ?_⟩
      simpa using hls

/-- The places of lexemes are in order, since each of them goes on for a character at least. -/
theorem pairwise_locate (hls : ∀ l ∈ ls, l.text ≠ []) :
    (locate p ls).Pairwise fun j k => j.position.precedes k.position = true := by
  induction ls generalizing p with
  | nil => exact List.pairwise_singleton _ _
  | cons l ls ih =>
    rw [locate, List.pairwise_cons]
    refine ⟨?_, ih fun k hk => hls k (List.mem_cons_of_mem l hk)⟩
    intro k hk
    obtain ⟨before, behind, hsplit⟩ := List.append_of_mem hk
    rw [(exists_of_locate_eq hsplit).1, ← Position.after_append]
    exact Position.precedes_after (List.append_ne_nil_of_left_ne_nil (hls l List.mem_cons_self) _)

theorem joined_map_toLexeme (ts : List Token) :
    joined (ts.map (·.toLexeme)) = ts.flatMap (·.text) :=
  List.flatMap_map ..

end Token

/-! ## Tokens one at a time -/

namespace Cursor

open Lexeme

/-- As many tokens as there are, read one at a time, are all tokens. -/
theorem take_tokens (cursor : Cursor) : (cursor.take cursor.tokens.length).1 = cursor.tokens := by
  obtain ⟨rest, p⟩ := cursor
  induction rest using ofText.induct generalizing p with
  | case1 => rw [tokens, ofText_nil]; rfl
  | case2 c rest ih =>
    have hnext : next ⟨c :: rest, p⟩ =
        (⟨first c rest, p⟩, ⟨behind c rest, p.after (first c rest).text⟩) := rfl
    have htokens : tokens ⟨c :: rest, p⟩ =
        ⟨first c rest, p⟩ :: tokens ⟨behind c rest, p.after (first c rest).text⟩ := by
      rw [tokens, ofText_cons]
      rfl
    rw [htokens, List.length_cons, take, hnext]
    exact congrArg _ (ih _)

end Cursor

namespace Token

open Lexeme

/-- **The tokens of a text lose nothing and tell their places.** There is one token at the end that
ends the stream and has no characters; every other one has some, and together they are the text.
The line of a token counts the line feeds before it and its column the characters behind the last
of these, so that the positions go up. Reading tokens one at a time gives the same ones. -/
theorem ofText_lossless (input : Text) :
    (∃ ts last, ofText input = ts ++ [last] ∧ last.kind = .endOfStream ∧ last.text = [] ∧
      ∀ t ∈ ts, t.kind ≠ .endOfStream ∧ t.text ≠ []) ∧
    (ofText input).flatMap (·.text) = input ∧
    (∀ before t behind, ofText input = before ++ t :: behind →
      let read := before.flatMap (·.text)
      t.position.line = 1 + read.count '\n' ∧ t.position.column = 1 + (Text.lastLine read).length) ∧
    ((ofText input).Pairwise fun t u => t.position.line < u.position.line ∨
      t.position.line = u.position.line ∧ t.position.column < u.position.column) ∧
    ((Cursor.ofText input).take (ofText input).length).1 = ofText input := by
  obtain ⟨ts, hts, hlocate⟩ := locate_append .start (Lexeme.ofText input) []
  rw [List.append_nil, joined_ofText, locate] at hlocate
  have hconcat : ofText input = ts ++ [endAt (Position.start.after input)] := hlocate
  refine ⟨⟨ts, _, hconcat, rfl, rfl, ?_⟩, ?_, ?_, ?_, Cursor.take_tokens (.ofText input)⟩
  · intro t ht
    have hmem : t.toLexeme ∈ Lexeme.ofText input := hts ▸ List.mem_map_of_mem ht
    exact ⟨((stands_ofText input).isWhole hmem).kind_ne, ne_nil_of_mem_ofText hmem⟩
  · rw [hconcat, List.flatMap_append, ← joined_map_toLexeme, hts, joined_ofText]
    exact List.append_nil input
  · intro before t behind h read
    have hposition : t.position = Position.start.after read := by
      rw [(exists_of_locate_eq h).1, joined_map_toLexeme]
    rw [hposition, Position.after_eq, Position.start]
    refine ⟨rfl, ?_⟩
    by_cases hline : read.count '\n' = 0
    · rw [if_pos hline, Text.lastLine_eq_self hline]
    · rw [if_neg hline]
      exact Nat.add_comm ..
  · refine (pairwise_locate fun l hl => ne_nil_of_mem_ofText hl).imp ?_
    exact fun h => Position.precedes_iff.1 h

end Token

end MarkupOrder
