import MarkupOrder.Proofs.Grammar.Markup

/-!
# Documents of the grammar

* `OpeningTag.derives_of_readToEnd`, `OpeningTag.exists_readToEnd_of_derives`: a tag that is read to
  its end has the form of one, and the other way round.
* `SourceNode.derives_item_iff`, `SourceNode.derives_document_iff`: nodes and documents are read if
  and only if they have the form of such.
-/

namespace MarkupOrder

/-! ## Tags -/

namespace OpeningTag

open Form

variable {ls mid rest : List Lexeme} {tag result : OpeningTag}

/-- What an attribute or the end of a tag begins with. -/
def opensPart (l : Lexeme) : Bool :=
  match l.kind with
  | .identifier | .leftParen | .leftBracket | .hash | .atSign | .star | .slash | .tagClose => true
  | _ => false

theorem head?_of_anyWrapped (h : anyWrapped.Derives ls rest) :
    ∃ l tail, ls = l :: tail ∧ opensPart l = true ∧ l.kind ≠ .slash ∧ l.kind ≠ .tagClose := by
  obtain ⟨w, start, mid, hread, -⟩ :=
    Attribute.exists_readWrapped_iff.1 (Attribute.derives_anyWrapped_iff.1 h)
  rcases ls with _ | ⟨⟨k, t⟩, ls⟩
  · cases hread
  · refine ⟨_, ls, rfl, ?_⟩
    cases k with
    | identifier | leftParen | leftBracket | hash | atSign | star => simp [opensPart]
    | _ => cases hread

theorem head?_of_tagEnd (h : tagEnd.Derives ls rest) : ls.head?.any opensPart = true := by
  rcases derives_alt_iff.1 h with h | h
  · obtain ⟨mid, hslash, hclose⟩ := derives_seq_iff.1 h
    cases ls with
    | nil =>
      rcases derives_optional_iff.1 hslash with h | rfl
      · simp at h
      · simp at hclose
    | cons l ls =>
      rcases derives_optional_iff.1 hslash with h | rfl
      · simp [opensPart, (derives_kind_cons_iff.1 h).1]
      · simp [opensPart, (derives_kind_cons_iff.1 hclose).1]
  · obtain ⟨mid, hname, -⟩ := derives_seq_iff.1 h
    obtain ⟨l, tail, rfl, hl, -⟩ := head?_of_anyWrapped hname
    exact hl

/-- White space is passed as a whole before a part of a tag. -/
theorem eq_of_opensPart (hblank : blank.Derives ls mid) (hmid : mid.head?.any opensPart = true) :
    mid = (Lexeme.blank ls).2 := by
  refine eq_of_derives_blank hblank ?_
  rcases mid with _ | ⟨⟨k, t⟩, mid⟩
  · rfl
  · cases k <;> first | rfl | cases hmid

/-- Neither `=` nor the end of a comment goes on with a tag. -/
theorem mayFollow_of_derives (h : tagRest.Derives ls rest) :
    ls.head?.all Attribute.mayFollow = true := by
  have hblank {mid : List Lexeme} (hblank : blank.Derives ls mid)
      (hmid : mid.head?.any opensPart = true) : ls.head?.all Attribute.mayFollow = true := by
    rcases derives_optional_iff.1 hblank with h | rfl
    · cases ls with
      | nil => rfl
      | cons l ls => simp [Attribute.mayFollow, (derives_kind_cons_iff.1 h).1]
    · rcases mid with _ | ⟨⟨k, t⟩, mid⟩
      · rfl
      · cases k <;> first | rfl | cases hmid
  obtain ⟨mid, hmany, hend⟩ := derives_seq_iff.1 h
  rcases derives_many_iff.1 hmany with rfl | ⟨mid', hslot, -⟩
  · obtain ⟨behind, hb, hend⟩ := derives_seq_iff.1 hend
    exact hblank hb (head?_of_tagEnd hend)
  · obtain ⟨behind, hb, hattr⟩ := derives_seq_iff.1 hslot
    obtain ⟨_, hname, -⟩ := derives_seq_iff.1 hattr
    obtain ⟨l, tail, rfl, hl, -⟩ := head?_of_anyWrapped hname
    exact hblank hb hl

/-- A tag that is read to its end has the form of one. -/
theorem derives_of_readToEnd (h : tag.readToEnd ls = .ok (result, rest)) :
    tagRest.Derives ls rest := by
  refine readToEnd_induction (P := (tagRest.Derives · rest)) h ?slash ?close ?slot
  case slash =>
    intro ls l behind hb hslash hmeet
    have hl : (kind .slash).Derives (l :: behind) behind := derives_kind_cons_iff.2 ⟨hslash, rfl⟩
    have hend : tagEnd.Derives (l :: behind) rest :=
      .left (.seq (.left hl) (derives_kind_iff.2 hmeet))
    exact .seq .stop (.seq (hb ▸ derives_blank ls) hend)
  case close =>
    intro ls l hb hclose
    have hend : tagEnd.Derives (l :: rest) rest :=
      .left (.seq (.right .empty) (derives_kind_cons_iff.2 ⟨hclose, rfl⟩))
    exact .seq .stop (.seq (hb ▸ derives_blank ls) hend)
  case slot =>
    intro ls mid a tag hread hmore hrest
    have hblank := derives_blank ls
    rcases Attribute.derives_or_of_read hread with hattr | ⟨tail, rfl, hlast⟩
    · obtain ⟨mid', hmany, hend⟩ := derives_seq_iff.1 hrest
      exact .seq (.more (.seq hblank hattr) hmany) hend
    · rw [readToEnd_tagClose] at hmore
      cases hmore
      exact .seq .stop (.seq hblank (.right hlast))

/-- What has the form of the end of a tag is read as such. -/
theorem exists_readToEnd_of_tagEnd (hblank : blank.Derives ls mid) (hend : tagEnd.Derives mid rest)
    (tag : OpeningTag) : ∃ result, tag.readToEnd ls = .ok (result, rest) := by
  have hb := eq_of_opensPart hblank (head?_of_tagEnd hend)
  rw [readToEnd_eq, ← hb]
  rcases derives_alt_iff.1 hend with hend | hlast
  · obtain ⟨m, hslash, hclose⟩ := derives_seq_iff.1 hend
    rcases derives_optional_iff.1 hslash with hslash | rfl
    · cases mid with
      | nil => simp at hslash
      | cons l mid =>
        obtain ⟨hk, rfl⟩ := derives_kind_cons_iff.1 hslash
        have hmeet := (derives_kind_iff (e := .tagEnd)).1 hclose
        simp only [hk, if_true, hmeet]
        exact ⟨_, rfl⟩
    · cases m with
      | nil => simp at hclose
      | cons l m =>
        obtain ⟨hk, rfl⟩ := derives_kind_cons_iff.1 hclose
        simp [hk]
  · obtain ⟨_, hname, -⟩ := derives_seq_iff.1 hlast
    obtain ⟨l, tail, rfl, -, hslash, hclose⟩ := head?_of_anyWrapped hname
    obtain ⟨a, hread⟩ := Attribute.exists_read_of_lastAttribute hlast
    simp only [if_neg hslash, if_neg hclose, hread]
    exact ⟨_, readToEnd_tagClose _ _ _⟩

/-- What has the form of a tag is read to its end. -/
theorem exists_readToEnd_of_derives (hls : ∀ l ∈ ls, l.text ≠ []) (h : tagRest.Derives ls rest)
    (tag : OpeningTag) : ∃ result, tag.readToEnd ls = .ok (result, rest) := by
  induction hn : ls.length using Nat.strong_induction_on generalizing tag ls with
  | _ n ih =>
    subst hn
    obtain ⟨mid, hmany, hend⟩ := derives_seq_iff.1 h
    rcases derives_many_iff.1 hmany with rfl | ⟨mid', hslot, hmore⟩
    · obtain ⟨behind, hblank, hend⟩ := derives_seq_iff.1 hend
      exact exists_readToEnd_of_tagEnd hblank hend tag
    · obtain ⟨behind, hblank, hattr⟩ := derives_seq_iff.1 hslot
      obtain ⟨_, hname, -⟩ := derives_seq_iff.1 hattr
      obtain ⟨l, tail, rfl, hl, hslash, hclose⟩ := head?_of_anyWrapped hname
      have hrest : tagRest.Derives mid' rest := .seq hmore hend
      have hbehind (l' : Lexeme) (hl' : l' ∈ l :: tail) : l'.text ≠ [] :=
        hls l' (hblank.suffix.subset hl')
      obtain ⟨a, hread⟩ :=
        Attribute.exists_read_of_derives hbehind hattr (mayFollow_of_derives hrest)
      have hlt : mid'.length < ls.length :=
        Nat.lt_of_lt_of_le (Attribute.length_of_read hread) hblank.suffix.length_le
      obtain ⟨result, hresult⟩ := ih _ hlt (fun l' hl' => hbehind l' (hattr.suffix.subset hl'))
        hrest (tag.push (Lexeme.blank ls).1 a) rfl
      rw [readToEnd_eq, ← eq_of_opensPart hblank hl]
      simp only [if_neg hslash, if_neg hclose, hread]
      exact ⟨result, hresult⟩

end OpeningTag

/-! ## Nodes and documents -/

namespace SourceNode

open Form

variable (arrange : List Attribute → List Attribute) {l : Lexeme} {ls rest : List Lexeme}

theorem derives_upTo_iff_readUntil {e : Expectation} (node : Text → Node) :
    (upTo e.kind).Derives ls rest ↔ ∃ n, readUntil e node ls = .ok (n, rest) := by
  rw [derives_upTo_iff, readUntil_eq, Reading.exists_marked_iff]
  simp only [Except.ok.injEq, exists_eq_left']

theorem derives_closing_iff :
    (seq tagName (kind .tagClose)).Derives ls rest ↔ ∃ n, readClosingTag ls = .ok (n, rest) := by
  rw [derives_seq_iff, readClosingTag_eq, Reading.exists_marked_iff]
  simp only [tagName, derives_run_iff, ← Lexeme.tagName_eq, Except.ok.injEq, exists_eq_left,
    exists_eq_left']
  exact derives_kind_iff (e := .closingTagEnd)

theorem derives_opening_iff (hls : ∀ l ∈ ls, l.text ≠ []) :
    (seq allBlank (seq tagName tagRest)).Derives ls rest ↔
      ∃ n, readOpeningTag arrange ls = .ok (n, rest) := by
  have hname := (Lexeme.suffix_tagName (Lexeme.blank ls).2).trans (Lexeme.suffix_blank ls)
  have htag : (seq allBlank (seq tagName tagRest)).Derives ls rest ↔
      tagRest.Derives (Lexeme.tagName (Lexeme.blank ls).2).2 rest := by
    simp only [derives_seq_iff, derives_allBlank_iff, tagName, derives_run_iff, exists_eq_left,
      ← Lexeme.tagName_eq]
  rw [htag, readOpeningTag_eq_readToEnd]
  constructor
  · intro h
    obtain ⟨result, hread⟩ := OpeningTag.exists_readToEnd_of_derives
      (fun l hl => hls l (hname.subset hl)) h (.named (Lexeme.tagName (Lexeme.blank ls).2).1)
    rw [hread]
    exact ⟨_, rfl⟩
  · rintro ⟨n, h⟩
    obtain ⟨⟨result, behind⟩, hread, h⟩ := Failure.bind_eq_ok_iff.1 h
    cases h
    exact OpeningTag.derives_of_readToEnd hread

/-- Behind `<`, a slash decides which tag it is. -/
theorem derives_tag_iff (hls : ∀ l ∈ ls, l.text ≠ []) :
    (seq (kind .slash) (seq tagName (kind .tagClose))).Derives ls rest ∨
        (seq (before fun l => l.kind != .slash) (seq allBlank (seq tagName tagRest))).Derives ls
          rest ↔
      ∃ n, readTag arrange ls = .ok (n, rest) := by
  rw [derives_before_seq_iff, derives_opening_iff arrange hls]
  rcases ls with _ | ⟨⟨k, t⟩, ls⟩
  · simp [readTag]
  · rw [derives_kind_seq_cons_iff, derives_closing_iff]
    by_cases hk : k = .slash
    · subst hk
      simp [readTag]
    · simp [readTag_of_ne (l := ⟨k, t⟩) hk, hk]

theorem derives_text_iff : text.Derives (l :: ls) rest ↔
    l.kind ∉ [Kind.tagOpen, .bangTagStart, .commentStart] ∧ rest = (Lexeme.upTo endsText ls).2 := by
  have hstop : (fun l : Lexeme => !(l.kind != .tagOpen && l.kind != .commentStart)) = endsText := by
    funext l
    simp [endsText, bne]
  rw [text, derives_seq_iff]
  simp only [derives_one_iff, derives_run_iff, hstop]
  constructor
  · rintro ⟨mid, ⟨_, h, hk⟩, rfl⟩
    cases h
    exact ⟨by simpa [and_assoc] using hk, rfl⟩
  · rintro ⟨hk, rfl⟩
    exact ⟨ls, ⟨l, rfl, by simpa [and_assoc] using hk⟩, rfl⟩

/-- **A node is read if and only if it has the form of one.** -/
theorem derives_item_iff (hls : ∀ l ∈ ls, l.text ≠ []) : (item allBlank).Derives (l :: ls) rest ↔
    ∃ n, read arrange l ls = .ok (n, rest) := by
  simp only [item, derives_anyOf_iff, List.mem_cons, List.not_mem_nil, or_false, exists_eq_or_imp,
    exists_eq_left, closingTag, openingTag, comment, bangTag, derives_kind_seq_cons_iff]
  rw [← or_assoc, ← and_or_left, derives_tag_iff arrange hls, derives_text_iff, read_eq]
  split
  case h_1 hk =>
    simp only [hk, true_and, reduceCtorEq, false_and, false_or, List.mem_cons, true_or,
      not_true_eq_false, or_false]
    rfl
  case h_2 hk =>
    simpa [hk, Expectation.kind] using derives_upTo_iff_readUntil (e := .bangTagEnd) .bangTag
  case h_3 hk =>
    simpa [hk, Expectation.kind] using derives_upTo_iff_readUntil (e := .commentEnd) .comment
  case h_4 hopen hbang hcomment =>
    simp [show l.kind ≠ .tagOpen from hopen, show l.kind ≠ .bangTagStart from hbang,
      show l.kind ≠ .commentStart from hcomment, eq_comm]

/-- **A document is read to its end if and only if it has the form of one.** -/
theorem derives_document_iff (hls : ∀ l ∈ ls, l.text ≠ []) :
    (document allBlank).Derives ls [] ↔ (readAll arrange ls).2 = none := by
  fun_induction readAll arrange ls with
  | case1 => exact iff_of_true .stop rfl
  | case2 l rest result f =>
    rename_i hread
    rw [document, derives_many_iff]
    simp only [reduceCtorEq, false_or, iff_false, not_exists, not_and]
    intro mid hitem _
    have htail (k : Lexeme) (hk : k ∈ rest) := hls k (List.mem_cons_of_mem l hk)
    obtain ⟨n, hok⟩ := (derives_item_iff arrange htail).1 hitem
    rw [show read arrange l rest = .error f from hread] at hok
    cases hok
  | case3 l rest result n behind hread ns failure? hall =>
    rename_i ih
    have htail (k : Lexeme) (hk : k ∈ rest) := hls k (List.mem_cons_of_mem l hk)
    rw [hread, remainder_ok] at hall ih
    rw [hall] at ih
    have ih := ih fun k hk => htail k ((suffix_of_read hread).subset hk)
    rw [← ih, document, derives_many_iff]
    simp only [reduceCtorEq, false_or]
    constructor
    · rintro ⟨mid, hitem, hmore⟩
      obtain ⟨n', hok⟩ := (derives_item_iff arrange htail).1 hitem
      rw [show read arrange l rest = .ok (n, behind) from hread] at hok
      cases hok
      exact hmore
    · exact fun hmore => ⟨behind, (derives_item_iff arrange htail).2 ⟨n, hread⟩, hmore⟩

end SourceNode

end MarkupOrder
