import MarkupOrder.Proofs.Markup.Joining
import MarkupOrder.Proofs.Source.Pieces

/-!
# Reading attributes back

* `Attribute.EndsBefore`: the attribute does not go on with the text behind it.
* `Attribute.read_append`: a legible attribute is read back before a text that it does not go on
  with.
* `Attribute.endsBefore_blank`, `Attribute.endsBefore_of_apart`, `Attribute.endsBefore_slash`,
  `Attribute.endsBefore_close`: the texts that stand behind an attribute in a tag.
-/

namespace MarkupOrder

open Unicode Text Lexeme

namespace Lexeme

theorem head?_of_text? {c : Char} {t u : Text} (h : (first c t).kind.text? = some u) :
    u.head? = some c := by
  rw [← (isWhole_first c t).text_eq h]
  rfl

/-- The marks that end a name whatever stands before them. -/
theorem follows_mark {u t : Text} {c : Char} (hc : c ∈ [')', ']', '=', '[', '(', '#', '*', '/']) :
    Stands (ofText u) (c :: t) ∧ (ofText (c :: t)).head?.all (fun l => !l.isNamePart) = true := by
  have hfresh : isFresh c = true := by
    have hmarks : ([')', ']', '=', '[', '(', '#', '*', '/'].all isFresh) = true := by decide
    exact List.all_eq_true.1 hmarks c hc
  have hpart : isNamePart (first c t) = false := by
    simp only [List.mem_cons, List.not_mem_nil, or_false] at hc
    rcases hc with rfl | rfl | rfl | rfl | rfl | rfl | rfl | rfl <;> rfl
  exact ⟨(stands_ofText u).before (by simp [hfresh]), by simp [ofText_cons, hpart]⟩

/-- White space ends a name. -/
theorem follows_blank {u w t : Text} (hu : u.isWords isNameMark = true) (hne : w ≠ [])
    (hw : w.all isWhitespace = true) : Stands (ofText u) (w ++ t) ∧
      (ofText (w ++ t)).head?.all (fun l => !l.isNamePart) = true := by
  obtain ⟨c, w, rfl⟩ := List.exists_cons_of_ne_nil hne
  have hc : isWhitespace c = true := by
    rw [List.all_cons, Bool.and_eq_true] at hw
    exact hw.1
  constructor
  · refine (stands_ofText u).beforeBlank ?_ (by simp [hc])
    intro l hl hk
    have := isNamePart_of_isWords hu l hl
    simp [isNamePart, hk] at this
  · have hfirst := leads_iff.1 (Leads.whitespace hc : Leads (w ++ t) c .whitespace _)
    simp [ofText_cons, first, hfirst, isNamePart]

/-- Names stand before `>` unless two hyphens are the last of them. -/
theorem stands_close {u t : Text} (hu : u.endsInHyphens = false) :
    Stands (ofText u) ('>' :: t) := by
  refine (stands_ofText u).beforeClose ?_ t
  intro hs
  obtain ⟨ks, hks⟩ := hs
  have hjoin : joined ks ++ ['-', '-'] = u := by
    rw [← joined_ofText u, ← hks, joined_append]
    rfl
  have : u.endsInHyphens = true := List.isSuffixOf_iff_suffix.2 ⟨joined ks, hjoin⟩
  rw [hu] at this
  cases this

/-- Names stand before the end of a comment. -/
theorem stands_commentEnd {u : Text} (hu : u.isWords isNameMark = true) (t : Text) :
    Stands (ofText u) ('-' :: '-' :: '>' :: t) := by
  refine (stands_ofText u).beforeCommentEnd ?_ t
  intro l hl hk
  have := isNamePart_of_isWords hu l hl
  simp [isNamePart, hk] at this

end Lexeme

namespace Attribute

/-- Whether an attribute does not go on with the text behind it. -/
def EndsBefore (a : Attribute) (t : Text) : Prop :=
  match a.ending with
  | .closed => a.value? = none → t.head? ≠ some '='
  | .name => t.head? ≠ some '=' ∧ Stands (ofText a.name) t ∧
      (ofText t).head?.all (fun l => !l.isNamePart) = true
  | .bare => t.head?.any isBareMark = false

variable {a : Attribute} {t : Text}

/-! ## Values -/

theorem readAssignment?_of_ne (h : t.head? ≠ some '=') :
    readAssignment? (ofText t) = .ok (none, ofText t) := by
  cases t with
  | nil => rw [ofText_nil]; rfl
  | cons c t =>
    rw [ofText_cons, readAssignment?.eq_def]
    split
    · rename_i hl
      have hk := congrArg Lexeme.kind (List.cons.inj hl).1
      have := head?_of_text? (c := c) (t := t) (u := ['=']) (by rw [hk]; rfl)
      exact absurd this.symm h
    · rfl

theorem readValue_append {v : Text}
    (hv : v.inQuotes = true ∨ v.isBare = true ∧ t.head?.any isBareMark = false) :
    readValue (ofText (v ++ t)) = .ok (v, ofText t) := by
  rcases hv with hv | ⟨hv, ht⟩
  · obtain ⟨q, content, hq, hmem, rfl⟩ := inQuotes_iff.1 hv
    obtain ⟨k, hk, hquote, hmark⟩ := ofText_quote hq
    rw [List.cons_append, List.append_assoc, List.singleton_append, hmark, readValue,
      if_pos hquote, readQuoted_append hk hq hquote hmem (hmark t)]
  · rw [← readUnquoted_append hv ht]
    cases v with
    | nil => cases hv
    | cons c v =>
      have hc : isBareMark c = true := by
        simp only [isBare, List.all_cons, Bool.and_eq_true] at hv
        exact hv.2.1
      have hquote : (first c (v ++ t)).kind.isQuote = false := by
        cases hk : (first c (v ++ t)).kind with
        | singleQuote | doubleQuote =>
          have := head?_of_text? (c := c) (t := v ++ t) (by rw [hk]; rfl)
          cases this
          revert hc
          decide
        | _ => rfl
      rw [List.cons_append, ofText_cons, readValue, hquote]
      rfl

theorem readAssignment?_append (ha : a.isLegible = true)
    (hnone : a.value? = none → t.head? ≠ some '=')
    (hbare : a.ending = .bare → t.head?.any isBareMark = false) :
    readAssignment? (ofText (a.assignment ++ t)) = .ok (a.value?, ofText t) := by
  cases hv : a.value? with
  | none => simpa [assignment, hv] using readAssignment?_of_ne (hnone hv)
  | some v =>
    have hform : v.inQuotes = true ∨ v.isBare = true ∧ t.head?.any isBareMark = false :=
      ((isLegible_iff.1 ha).2.2 v hv).imp_right fun h =>
        ⟨h, hbare (ending_eq_bare_iff.2 ⟨v, hv, h⟩)⟩
    have hmark : ofText ('=' :: (v ++ t)) = ⟨.equals, ['=']⟩ :: ofText (v ++ t) :=
      ofText_mark rfl (by simp) (by simp)
    rw [assignment, hv, List.cons_append, hmark, readAssignment?, readValue_append hform]
    rfl

/-! ## Names -/

/-- A square bracket that no round one follows is a wrapper by itself. -/
theorem read?_bracket {u : Text} (hu : u.head? ≠ some '(') :
    Wrapper.read? (ofText ('[' :: u)) = some (.bracket, [], ofText u) := by
  rw [ofText_mark rfl (by simp) (by simp), Wrapper.read?.eq_def]
  cases u with
  | nil => rw [ofText_nil]
  | cons d u =>
    have hk : (first d u).kind ≠ .leftParen := by
      intro hk
      have hd := head?_of_text? (c := d) (t := u) (by rw [hk]; rfl)
      exact hu hd.symm
    rw [ofText_cons]
    generalize first d u = l at hk
    obtain ⟨k, v⟩ := l
    cases k with
    | leftParen => exact absurd rfl hk
    | _ => rfl

/-- The first word of a plain name is read before the rest of it. -/
theorem read?_plain {u : Text} (hu : u.isWords isNameMark = true) (hbegins : u.beginsWord = true)
    (hs : Stands (ofText u) t) (ht : (ofText t).head?.all (fun l => !l.isNamePart) = true) :
    ∃ start ls rest, Wrapper.read? (ofText (u ++ t)) = some (.plain, start, ls) ∧
      upTo (fun l => !l.isNamePart) ls = (rest, ofText t) ∧ start ++ rest = u := by
  cases u with
  | nil => cases hbegins
  | cons c r =>
    have hc : isAlphabetic c = true := hbegins
    have hfirst := ofText_cons_of_leads (Leads.identifier hc : Leads r c .identifier _)
    have hjoin := joined_ofText (c :: r)
    have hparts := isNamePart_of_isWords hu
    rw [hfirst] at hjoin hparts
    generalize ofText (r.drop (Text.run isAlphanumeric r)) = ls at hfirst hjoin hparts
    refine ⟨_, ls ++ ofText t, joined ls, ?_, upTo_append (fun l hl => ?_) ht, hjoin⟩
    · rw [ofText_append hs, hfirst]
      rfl
    · rw [hparts l (List.mem_cons_of_mem _ hl)]
      rfl

/-- The name in its wrapper is read in two parts, since a plain name begins with a word. -/
theorem read?_append (ha : a.isLegible = true) (hs : Stands (ofText a.name) t)
    (ht : (ofText t).head?.all (fun l => !l.isNamePart) = true)
    (hbracket : a.wrapper = .bracket → t.head? ≠ some '(') :
    ∃ start ls rest, Wrapper.read? (ofText (a.wrapper.opening ++ a.name ++ t)) =
        some (a.wrapper, start, ls) ∧
      upTo (fun l => !l.isNamePart) ls = (rest, ofText t) ∧ start ++ rest = a.name := by
  obtain ⟨hname, hword, -⟩ := isLegible_iff.1 ha
  have hup := upTo_name hname hs ht
  cases hw : a.wrapper with
  | plain => exact read?_plain hname (hword hw) hs ht
  | paren | hash | atSign | star =>
    refine ⟨[], ofText (a.name ++ t), a.name, ?_, hup, rfl⟩
    rw [Wrapper.opening, List.cons_append, List.cons_append, ofText_mark rfl (by simp) (by simp)]
    rfl
  | twoWay =>
    refine ⟨[], ofText (a.name ++ t), a.name, ?_, hup, rfl⟩
    simp only [Wrapper.opening, List.cons_append, List.nil_append]
    rw [ofText_mark rfl (by simp) (by simp), ofText_mark rfl (by simp) (by simp)]
    rfl
  | bracket =>
    have hparen : (a.name ++ t).head? ≠ some '(' := by
      cases hn : a.name with
      | nil => exact hbracket hw
      | cons c r =>
        have hc := forall_of_isWords hname c (by simp [hn])
        rw [List.cons_append, List.head?_cons, ne_eq, Option.some.injEq]
        rintro rfl
        revert hc
        decide
    exact ⟨[], ofText (a.name ++ t), a.name, read?_bracket hparen, hup, rfl⟩

/-- A wrapper is closed where its closing part is written. -/
theorem close_append (w : Wrapper) (t : Text) :
    w.close (ofText (w.closing ++ t)) = .ok (ofText t) := by
  cases w with
  | plain | hash | atSign | star => rfl
  | paren | bracket =>
    rw [Wrapper.closing, List.singleton_append, ofText_mark rfl (by simp) (by simp)]
    rfl
  | twoWay =>
    rw [Wrapper.closing, List.cons_append, List.singleton_append,
      ofText_mark rfl (by simp) (by simp), ofText_mark rfl (by simp) (by simp)]
    rfl

theorem head_mem_of_closing {c : Char} {u : Text} (h : a.wrapper.closing ++ a.assignment = c :: u) :
    c ∈ [')', ']', '=', '[', '(', '#', '*', '/'] := by
  rw [assignment] at h
  cases hw : a.wrapper <;> cases hv : a.value? <;> rw [hw, hv] at h <;> cases h <;> decide

/-! ## Attributes -/

namespace EndsBefore

variable (ht : a.EndsBefore t)

include ht

theorem head?_ne (hv : a.value? = none) : t.head? ≠ some '=' := by
  unfold EndsBefore at ht
  split at ht
  · exact ht hv
  · exact ht.1
  · rename_i hend
    obtain ⟨v, hv', -⟩ := ending_eq_bare_iff.1 hend
    simp [hv] at hv'

theorem head?_isBareMark (hend : a.ending = .bare) : t.head?.any isBareMark = false := by
  rwa [EndsBefore, hend] at ht

/-- What is written behind the name ends it. -/
theorem stands_name : Stands (ofText a.name) (a.wrapper.closing ++ (a.assignment ++ t)) ∧
    (ofText (a.wrapper.closing ++ (a.assignment ++ t))).head?.all (fun l => !l.isNamePart) =
      true := by
  cases hc : a.wrapper.closing ++ a.assignment with
  | nil =>
    rw [List.append_eq_nil_iff] at hc
    have hvalue : a.value? = none := by
      cases hv : a.value? with
      | none => rfl
      | some v => simp [assignment, hv] at hc
    rw [EndsBefore, ending_eq_name_iff.2 ⟨hvalue, hc.1⟩] at ht
    simpa [hc] using ht.2
  | cons c u =>
    rw [← List.append_assoc, hc]
    exact follows_mark (head_mem_of_closing hc)

end EndsBefore

/-- **A legible attribute is read back before a text that it does not go on with.** -/
theorem read_append (ha : a.isLegible = true) (ht : a.EndsBefore t) :
    read (ofText (a.render ++ t)) = .ok (a, ofText t) := by
  have hstands := ht.stands_name
  have hbracket : a.wrapper = .bracket →
      (a.wrapper.closing ++ (a.assignment ++ t)).head? ≠ some '(' := by
    intro h
    simp [h, Wrapper.closing]
  obtain ⟨start, ls, rest, hread, hup, hname⟩ := read?_append ha hstands.1 hstands.2 hbracket
  have happend : a.render ++ t =
      a.wrapper.opening ++ a.name ++ (a.wrapper.closing ++ (a.assignment ++ t)) := by
    simp [render]
  rw [happend, read, hread]
  simp only [hup, hname]
  rw [close_append]
  simp only [bind, Except.bind]
  rw [readAssignment?_append ha ht.head?_ne ht.head?_isBareMark]
  rfl

/-! ## What stands behind an attribute -/

/-- How a written attribute begins. -/
theorem exists_render_eq (ha : a.isLegible = true) : ∃ c u, a.render = c :: u ∧
    (a.wrapper = .plain ∧ isAlphabetic c = true ∨ a.wrapper = .atSign ∧ c = '@' ∨
      a.wrapper ≠ .plain ∧ a.wrapper ≠ .atSign ∧ c ∈ ['[', '(', '#', '*']) := by
  obtain ⟨-, hword, -⟩ := isLegible_iff.1 ha
  cases hw : a.wrapper with
  | plain =>
    have hbegins := hword hw
    cases hn : a.name with
    | nil => simp [hn, beginsWord] at hbegins
    | cons c u =>
      refine ⟨c, u ++ a.assignment, by rw [render_of_plain hw, hn]; rfl, .inl ⟨rfl, ?_⟩⟩
      simpa [hn, beginsWord] using hbegins
  | atSign => exact ⟨_, _, by rw [render, hw]; rfl, .inr (.inl ⟨rfl, rfl⟩)⟩
  | _ =>
    exact ⟨_, _, by rw [render, hw]; rfl, .inr (.inr ⟨by simp, by simp, by decide⟩)⟩

/-- An attribute ends before white space. -/
theorem endsBefore_blank (ha : a.isLegible = true) {w : Text} (hne : w ≠ [])
    (hw : w.all isWhitespace = true) : a.EndsBefore (w ++ t) := by
  have hfollows := follows_blank (t := t) (isLegible_iff.1 ha).1 hne hw
  obtain ⟨c, w, rfl⟩ := List.exists_cons_of_ne_nil hne
  have hc : isWhitespace c = true := by
    rw [List.all_cons, Bool.and_eq_true] at hw
    exact hw.1
  have heq : c ≠ '=' := by
    rintro rfl
    revert hc
    decide
  unfold EndsBefore
  split
  · simp [heq]
  · exact ⟨by simp [heq], hfollows⟩
  · simp [isBareMark, hc]

/-- An attribute ends before another one that it stays apart from. -/
theorem endsBefore_of_apart {b : Attribute} (hb : b.isLegible = true) (h : a.meet b = .apart) :
    a.EndsBefore (b.render ++ t) := by
  obtain ⟨c, u, hrender, hc⟩ := exists_render_eq hb
  rw [hrender, List.cons_append]
  rw [meet] at h
  rw [EndsBefore]
  cases hend : a.ending with
  | closed =>
    have heq : c ≠ '=' := by
      rintro rfl
      rcases hc with ⟨-, hc⟩ | ⟨-, hc⟩ | ⟨-, -, hc⟩ <;> revert hc <;> decide
    exact fun _ => by simp [heq]
  | name =>
    simp only [hend] at h
    split at h
    · cases h
    · rename_i hw
      rw [not_or] at hw
      rcases hc with ⟨hp, -⟩ | ⟨hp, -⟩ | ⟨-, -, hc⟩
      · exact absurd hp hw.1
      · exact absurd hp hw.2
      · have hmark : c ≠ '=' ∧ c ∈ [')', ']', '=', '[', '(', '#', '*', '/'] := by
          simp only [List.mem_cons, List.not_mem_nil, or_false] at hc
          rcases hc with rfl | rfl | rfl | rfl <;> decide
        exact ⟨by simp [hmark.1], follows_mark hmark.2⟩
  | bare =>
    simp only [hend] at h
    split at h <;> cases h

/-- An attribute without a bare value ends before the slash of its tag. -/
theorem endsBefore_slash (h : a.ending ≠ .bare) : a.EndsBefore ('/' :: t) := by
  unfold EndsBefore
  split
  · simp
  · exact ⟨by simp, follows_mark (by simp)⟩
  · exact absurd ‹_› h

/-- An attribute ends before the end of its tag unless the end of a comment is there. -/
theorem endsBefore_close (h : a.ending = .name → a.name.endsInHyphens = false) :
    a.EndsBefore ('>' :: t) := by
  unfold EndsBefore
  split
  · simp
  · rename_i hend
    refine ⟨by simp, stands_close (h hend), ?_⟩
    rw [ofText_mark rfl (by simp) (by simp)]
    rfl
  · simp [isBareMark]

end Attribute

end MarkupOrder
