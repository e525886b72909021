import MarkupOrder.Proofs.Token.Words

/-!
# Where comments and declarations end

The end of a comment or a declaration is a lexeme. The same characters do not end it where they are
part of another lexeme.

* `Text.TakesHyphens`, `Text.TakesClose`: what is in front takes `--`, or `>`, into its own lexemes.
* `Text.EndsAtFirst`: a content up to the first mark that is not taken so.
* `Lexeme.endsAtFirst_iff`: this is what the reading up to a mark finds.
-/

namespace MarkupOrder

namespace Text

/-- A text that ends with `<!` or `<!-`, behind which hyphens make the start of a comment. -/
def TakesHyphens (t : Text) : Prop := ['<', '!'] <:+ t ∨ ['<', '!', '-'] <:+ t

/-- A text that ends with two hyphens which it does not take, behind which `>` makes the end of a
comment. -/
def TakesClose (t : Text) : Prop := ∃ u, t = u ++ ['-', '-'] ∧ ¬ u.TakesHyphens

/-- The mark behind the content is the first one that is not taken by what is in front of it. -/
def EndsAtFirst (content : Text) (takes : Text → Prop) (mark : Text) : Prop :=
  ∀ before behind, content ++ mark = before ++ (mark ++ behind) → (behind = [] ↔ ¬ takes before)

end Text

namespace Lexeme

open Text

variable {t u : Text}

/-- The lexemes of a text end with those of `<` and what follows it. -/
theorem suffix_ofText_of_suffix (h : '<' :: u <:+ t) : ofText ('<' :: u) <:+ ofText t := by
  obtain ⟨v, rfl⟩ := h
  exact ⟨ofText v, (ofText_append ((stands_ofText v).before rfl)).symm⟩

theorem joined_suffix_of_suffix {ls : List Lexeme} (h : ls <:+ ofText t) : joined ls <:+ t := by
  obtain ⟨ks, hks⟩ := h
  exact ⟨joined ks, by rw [← joined_append, hks, joined_ofText]⟩

/-- The last lexemes of a text that ends with `<` and what follows it. -/
theorem suffix_kinds_iff (htext : ∀ l ∈ ofText ('<' :: u), l.kind.text?.isSome = true) :
    (ofText ('<' :: u)).map (·.kind) <:+ (ofText t).map (·.kind) ↔ '<' :: u <:+ t := by
  constructor
  · intro h
    have hsuffix := suffix_of_kinds (fun l => (stands_ofText t).isWhole)
      (fun l => (stands_ofText ('<' :: u)).isWhole) htext h
    rw [← joined_ofText ('<' :: u)]
    exact joined_suffix_of_suffix hsuffix
  · exact fun h => (suffix_ofText_of_suffix h).map _

theorem ofText_bang : ofText ['<', '!'] = [⟨.bangTagStart, ['<', '!']⟩] := by
  rw [ofText_bangTagStart (by simp), ofText_nil]

theorem ofText_bangHyphen : ofText ['<', '!', '-'] = [⟨.bangTagStart, ['<', '!']⟩, hyphen] := by
  rw [ofText_bangTagStart (by simp), ofText_mark rfl (by simp) (by simp), ofText_nil]
  rfl

theorem stands_hyphens_iff (u t : Text) :
    Stands (ofText u) ('-' :: '-' :: t) ↔ ¬ u.TakesHyphens := by
  have hbang := suffix_kinds_iff (t := u) (u := ['!']) (by rw [ofText_bang]; decide)
  have hhyphen := suffix_kinds_iff (t := u) (u := ['!', '-']) (by rw [ofText_bangHyphen]; decide)
  rw [ofText_bang] at hbang
  rw [ofText_bangHyphen] at hhyphen
  rw [stands_iff_not_joins (stands_ofText u), TakesHyphens, ← hbang, ← hhyphen]
  refine not_congr ⟨Joins.bangTagStart_suffix, ?_⟩
  rintro (hk | hk)
  · exact .hyphens hk (by simp)
  · exact .hyphen hk (by simp)

theorem ofText_hyphens : ofText ['-', '-'] = [hyphen, hyphen] := by
  rw [ofText_mark rfl (by simp) (by simp), ofText_mark rfl (by simp) (by simp), ofText_nil]
  rfl

theorem stands_close_iff (u t : Text) : Stands (ofText u) ('>' :: t) ↔ ¬ u.TakesClose := by
  have hs := stands_ofText u
  rw [stands_iff_not_joins hs]
  refine not_congr ⟨fun h => ?_, ?_⟩
  · have hhyphens : [hyphen, hyphen] <:+ ofText u :=
      suffix_of_kinds (fun l => hs.isWhole) (by simp [isWhole_hyphen]) (by decide) h.minus_suffix
    obtain ⟨ks, hks⟩ := hhyphens
    rw [← hks, stands_append] at hs
    refine ⟨joined ks, by rw [← joined_ofText u, ← hks, joined_append]; rfl, ?_⟩
    rw [← stands_hyphens_iff _ [], hs.1.alone.ofText_joined]
    exact hs.1
  · rintro ⟨v, rfl, hv⟩
    refine .close ?_ (by simp)
    rw [ofText_append ((stands_hyphens_iff v []).2 hv), ofText_hyphens, List.map_append]
    exact List.suffix_append _ _

/-- A lexeme of a text, with what is in front of it and what is behind it. -/
theorem exists_of_mem_ofText {l : Lexeme} (h : Stands (ofText u) t) (hl : l ∈ ofText u) :
    ∃ before behind, u = before ++ (l.text ++ behind) ∧
      Stands (ofText before) (l.text ++ (behind ++ t)) := by
  obtain ⟨ks, ls, hsplit⟩ := List.append_of_mem hl
  rw [hsplit, stands_append, joined_cons, List.append_assoc] at h
  refine ⟨joined ks, joined ls, ?_, ?_⟩
  · rw [← joined_ofText u, hsplit, joined_append, joined_cons]
  · rw [h.1.alone.ofText_joined]
    exact h.1

/-- **Where a reading up to a mark ends.** No lexeme of the content is such a mark, and all stay as
they are before it, if and only if the content ends at the first mark that is not taken. -/
theorem endsAtFirst_iff {takes : Text → Prop} {k : Kind} {mark content : Text}
    (htext : k.text? = some mark) (hmark : ∀ t, ofText (mark ++ t) = ⟨k, mark⟩ :: ofText t)
    (htakes : ∀ before t, Stands (ofText before) (mark ++ t) ↔ ¬ takes before) :
    content.EndsAtFirst takes mark ↔
      Stands (ofText content) mark ∧ ∀ l ∈ ofText content, l.kind ≠ k := by
  have hlast : ofText mark = [⟨k, mark⟩] := by simpa using hmark []
  have hne : mark ≠ [] := by
    rintro rfl
    simp at hlast
  constructor
  · intro h
    have hend : Stands (ofText content) mark := by
      have hend := (htakes content []).2 ((h content [] (by simp)).1 rfl)
      rwa [List.append_nil] at hend
    refine ⟨hend, fun l hl hk => hne ?_⟩
    obtain ⟨before, behind, rfl, hbefore⟩ := exists_of_mem_ofText hend hl
    rw [(hend.isWhole hl).text_eq (hk ▸ htext)] at h hbefore
    have hbehind := (h before (behind ++ mark) (by simp)).2 ((htakes _ _).1 hbefore)
    exact (List.append_eq_nil_iff.1 hbehind).2
  · rintro ⟨hend, hcontent⟩ before behind hsplit
    constructor
    · rintro rfl
      rw [List.append_nil, List.append_left_inj] at hsplit
      rw [← htakes before [], List.append_nil, ← hsplit]
      exact hend
    · intro hfree
      have hstands := (htakes before behind).2 hfree
      have hlexemes := congrArg ofText hsplit
      rw [ofText_append hend, ofText_append hstands, hlast, hmark] at hlexemes
      -- Behind a mark there is another one, so the first one is in the content.
      rcases List.eq_nil_or_concat (ofText behind) with hnil | ⟨init, l, hl⟩
      · rw [← joined_ofText behind, hnil, joined_nil]
      · rw [hl, List.concat_eq_append, ← List.cons_append, ← List.append_assoc] at hlexemes
        have hinit := (List.append_inj' hlexemes rfl).1
        exact absurd rfl (hcontent ⟨k, mark⟩ (by simp [hinit]))

end Lexeme

end MarkupOrder
