import MarkupOrder.Proofs.Source.Nodes

/-!
# What is read is what was written

* `Lexeme.Takes`: a reading takes a text off the lexemes in front.
* `Attribute.takes_of_read`, `OpeningTag.takes_readAttributes`, `SourceNode.takes_read`: a
  reading that succeeds takes what its result is written as, and its result is legible.
* `SourceNode.renderAll_of_readAll`: a document that is read to its end is written like its nodes.
* `SourceNode.readAll_arrange`: the arrangement changes nothing else.
-/

namespace MarkupOrder

open Unicode Text

namespace Lexeme

/-! ## Taking lexemes off -/

/-- The text is taken off the lexemes, and what is left is still cut as it would be by itself. -/
structure Takes (ls : List Lexeme) (t : Text) (rest : List Lexeme) : Prop where
  joined_eq : joined ls = t ++ joined rest
  stands : Stands rest []

variable {ls mid rest ks : List Lexeme} {t u : Text}

theorem Takes.trans (h : Takes ls t mid) (h' : Takes mid u rest) : Takes ls (t ++ u) rest :=
  ⟨by rw [h.joined_eq, h'.joined_eq, List.append_assoc], h'.stands⟩

theorem Takes.nil (h : Stands ls []) : Takes ls [] ls := ⟨rfl, h⟩

theorem takes_append (h : Stands (ks ++ rest) []) : Takes (ks ++ rest) (joined ks) rest :=
  ⟨joined_append ks rest, (stands_append.1 h).2⟩

theorem takes_cons {l : Lexeme} (h : Stands (l :: rest) []) : Takes (l :: rest) l.text rest :=
  ⟨rfl, h.2.2⟩

theorem takes_mark {l : Lexeme} (h : Stands (l :: rest) []) (ht : l.kind.text? = some t) :
    Takes (l :: rest) t rest :=
  h.1.text_eq ht ▸ takes_cons h

theorem takes_meet {e : Expectation} (hs : Stands ls []) (h : e.meet ls = .ok rest)
    (ht : e.kind.text? = some t) : Takes ls t rest := by
  cases ls with
  | nil => cases h
  | cons l ls =>
    rw [Expectation.meet] at h
    split at h
    · rename_i hk
      cases h
      exact takes_mark hs (hk ▸ ht)
    · cases h

theorem head?_upTo (stop : Lexeme → Bool) (ls : List Lexeme) :
    (upTo stop ls).2.head?.all stop = true := by
  have hhead := List.head?_dropWhile_not (fun l => !stop l) ls
  rw [upTo]
  cases h : ls.dropWhile fun l => !stop l with
  | nil => rfl
  | cons l rest => simpa [h] using hhead

/-- What goes up to a stop is taken off. -/
theorem takes_upTo (hs : Stands ls []) (stop : Lexeme → Bool) :
    Takes ls (upTo stop ls).1 (upTo stop ls).2 ∧
      Stands (ofText (upTo stop ls).1) (joined (upTo stop ls).2) ∧
        ∀ l ∈ ofText (upTo stop ls).1, stop l = false := by
  obtain ⟨ks, hks⟩ : ∃ ks, ks = ls.takeWhile fun l => !stop l := ⟨_, rfl⟩
  have hls : ls = ks ++ (upTo stop ls).2 := by
    rw [hks, upTo, List.takeWhile_append_dropWhile]
  have hjoin : (upTo stop ls).1 = joined ks := by rw [hks, upTo]
  have happend := hs
  rw [hls, stands_append, List.append_nil] at happend
  rw [hjoin, happend.1.alone.ofText_joined]
  refine ⟨⟨by rw [← joined_append, ← hls], happend.2⟩, happend.1, ?_⟩
  intro l hl
  rw [hks] at hl
  simpa using List.mem_takeWhile_imp hl

/-- White space is taken off as a whole. -/
theorem takes_blank (h : Stands ls []) : Takes ls (blank ls).1 (blank ls).2 ∧
    (blank ls).1.all isWhitespace = true ∧
      (joined (blank ls).2).head?.any isWhitespace = false := by
  cases ls with
  | nil => exact ⟨Takes.nil h, rfl, rfl⟩
  | cons l ls =>
    by_cases hk : l.kind = .whitespace
    · obtain ⟨k, w⟩ := l
      cases hk
      have hblank : blank (⟨.whitespace, w⟩ :: ls) = (w, ls) := rfl
      rw [hblank]
      refine ⟨takes_cons h, h.1.blank rfl, ?_⟩
      simpa [drawsIn] using h.2.1
    · rw [blank_cons hk]
      refine ⟨Takes.nil h, rfl, ?_⟩
      obtain ⟨c, r, ht, hl⟩ := isWhole_iff.1 h.1
      rw [joined_cons, ht, List.cons_append, List.head?_cons, Option.any_some, ← Bool.not_eq_true]
      intro hc
      have hlead := (leads_iff.1 hl).symm.trans (leads_iff.1 (.whitespace hc))
      exact hk (congrArg Prod.fst hlead)

theorem takes_tagName (hs : Stands ls []) : Takes ls (tagName ls).1 (tagName ls).2 ∧
    Stands (ofText (tagName ls).1) (joined (tagName ls).2) ∧
      (tagName ls).1.isWords isTagMark = true := by
  obtain ⟨htake, hname, hparts⟩ := takes_upTo hs fun l => !l.isTagPart
  rw [tagName_eq]
  refine ⟨htake, hname, ?_⟩
  rw [← joined_ofText (upTo _ ls).1]
  refine isWords_joined fun l hl => ⟨hname.isWhole hl, ?_⟩
  exact (isTagPart_iff (hname.isWhole hl)).1 (by simpa using hparts l hl)

theorem eq_nil_of_blank {w : Text} (hw : w.all isWhitespace = true)
    (h : (w ++ t).head?.any isWhitespace = false) : w = [] := by
  cases w with
  | nil => rfl
  | cons c w =>
    have hc : isWhitespace c = false := h
    simp [hc] at hw

end Lexeme

/-! ## Attributes -/

namespace Wrapper

open Lexeme

variable {ls rest : List Lexeme} {w : Wrapper} {start : Text}

/-- The opening part of a wrapper, and the first word of a plain name. -/
theorem exists_read? (hs : Stands ls []) (h : read? ls = some (w, start, rest)) :
    ∃ ks, Takes ls w.opening (ks ++ rest) ∧ joined ks = start ∧ (∀ l ∈ ks, l.isNamePart = true) ∧
      (w = .plain → start.beginsWord = true) := by
  unfold read? at h
  split at h
  · cases h
  · rename_i l tail
    split at h
    case h_1 hk =>
      cases h
      obtain ⟨c, r, ht, hc, -⟩ := hs.1.word hk
      exact ⟨[l], Takes.nil hs, List.append_nil _, by simp [isNamePart, hk],
        fun _ => by simp [ht, beginsWord, hc]⟩
    case h_3 hk =>
      have htake := takes_mark (t := ['[']) hs (by rw [hk]; rfl)
      split at h
      · cases h
        exact ⟨[], htake.trans (takes_mark htake.stands rfl), rfl, by simp, by simp⟩
      · cases h
        exact ⟨[], htake, rfl, by simp, by simp⟩
    case h_7 => cases h
    all_goals
      rename_i hk
      cases h
      exact ⟨[], takes_mark hs (by rw [hk]; rfl), rfl, by simp, by simp⟩

theorem takes_close (hs : Stands ls []) (h : w.close ls = .ok rest) : Takes ls w.closing rest := by
  cases w with
  | plain | hash | atSign | star =>
    cases h
    exact Takes.nil hs
  | paren | bracket => exact takes_meet hs h rfl
  | twoWay =>
    obtain ⟨mid, hparen, hbracket⟩ := Failure.bind_eq_ok_iff.1 h
    have htake := takes_meet (t := [')']) hs hparen rfl
    exact htake.trans (takes_meet htake.stands hbracket rfl)

end Wrapper

namespace Attribute

open Lexeme

variable {ls rest : List Lexeme} {v : Text} {a : Attribute}

theorem takes_readUnquoted (hs : Stands ls []) (h : readUnquoted ls = .ok (v, rest)) :
    Takes ls v rest ∧ v.isBare = true := by
  obtain ⟨htake, hvalue, hparts⟩ := takes_upTo hs endsValue
  have hbare : (upTo endsValue ls).1.all isBareMark = true := by
    rw [← joined_ofText (upTo endsValue ls).1, joined, List.all_flatMap, List.all_eq_true]
    exact fun l hl => (endsValue_eq_false_iff (hvalue.isWhole hl)).1 (hparts l hl)
  unfold readUnquoted at h
  split at h
  · -- the `>` that is left is not the one that has been read
    rename_i value text tail hup
    rw [hup] at htake hbare
    cases h
    obtain rfl : text = ['-', '-', '>'] := htake.stands.1.text_eq rfl
    have hclose : IsWhole ⟨.tagClose, ['>']⟩ :=
      isWhole_singleton.2 (.punctuation rfl (by simp) (by simp))
    refine ⟨⟨?_, hclose, rfl, htake.stands.2.2⟩, ?_⟩
    · rw [htake.joined_eq, joined_cons, joined_cons]
      simp
    · have hbare : List.all value isBareMark = true := hbare
      rw [isBare, List.all_append, hbare]
      simp
      decide
  · cases h
  · rename_i _ hne hup
    rw [hup] at htake hbare
    cases h
    refine ⟨htake, ?_⟩
    cases v with
    | nil => exact (hne rfl).elim
    | cons c v => exact hbare

theorem takes_readQuoted {l : Lexeme} {tail : List Lexeme} (hs : Stands (l :: tail) [])
    (hl : l.kind.isQuote = true) (h : readQuoted l tail = .ok (v, rest)) :
    Takes (l :: tail) v rest ∧ v.inQuotes = true := by
  obtain ⟨q, hq, hk⟩ : ∃ q, isQuoteMark q = true ∧ Kind.punctuation? q = some l.kind := by
    cases hkind : l.kind with
    | singleQuote => exact ⟨'\x27', rfl, rfl⟩
    | doubleQuote => exact ⟨'\x22', rfl, rfl⟩
    | _ => rw [hkind] at hl; cases hl
  have htext := Kind.text?_of_punctuation hk
  have hopen := takes_mark hs htext
  obtain ⟨hcontent, hstands, hparts⟩ := takes_upTo hopen.stands fun k => k.kind == l.kind
  rw [readQuoted, if_pos hl] at h
  obtain ⟨mid, hmeet, h⟩ := Failure.bind_eq_ok_iff.1 h
  cases h
  have hmem : q ∉ (upTo (fun k => k.kind == l.kind) tail).1 := by
    rw [← joined_ofText (upTo _ tail).1]
    intro hmem
    obtain ⟨k, hk', hq'⟩ := List.mem_flatMap.1 hmem
    have hne := hparts k hk'
    rw [(hstands.isWhole hk').kind_of_quote hq hk hq'] at hne
    simp at hne
  have hclose := takes_meet (e := .quoteEnd l.kind) hcontent.stands hmeet htext
  change Takes (l :: tail) (l.text ++ (upTo (fun k => k.kind == l.kind) tail).1 ++ l.text) rest ∧
    inQuotes (l.text ++ (upTo (fun k => k.kind == l.kind) tail).1 ++ l.text) = true
  rw [hs.1.text_eq htext, List.append_assoc]
  exact ⟨hopen.trans (hcontent.trans hclose), inQuotes_iff.2 ⟨q, _, hq, hmem, rfl⟩⟩

theorem takes_readValue (hs : Stands ls []) (h : readValue ls = .ok (v, rest)) :
    Takes ls v rest ∧ (v.inQuotes = true ∨ v.isBare = true) := by
  unfold readValue at h
  split at h
  · have htake := takes_readUnquoted hs h
    exact ⟨htake.1, .inr htake.2⟩
  · split at h
    · rename_i hl
      have htake := takes_readQuoted hs hl h
      exact ⟨htake.1, .inl htake.2⟩
    · have htake := takes_readUnquoted hs h
      exact ⟨htake.1, .inr htake.2⟩

theorem takes_readAssignment? {value? : Option Text} (hs : Stands ls [])
    (h : readAssignment? ls = .ok (value?, rest)) :
    Takes ls (assignment ⟨[], .plain, value?⟩) rest ∧
      ∀ value, value? = some value → value.inQuotes = true ∨ value.isBare = true := by
  unfold readAssignment? at h
  split at h
  · obtain ⟨⟨v, mid⟩, hread, h⟩ := Failure.bind_eq_ok_iff.1 h
    cases h
    have hmark := takes_mark (t := ['=']) hs rfl
    obtain ⟨htake, hform⟩ := takes_readValue hmark.stands hread
    exact ⟨hmark.trans htake, fun value h => Option.some.inj h ▸ hform⟩
  · cases h
    exact ⟨Takes.nil hs, by simp⟩

/-- **An attribute takes what it is written as, and it is legible.** -/
theorem takes_of_read (hs : Stands ls []) (h : read ls = .ok (a, rest)) :
    Takes ls a.render rest ∧ a.isLegible = true := by
  unfold read at h
  split at h
  · cases h
  · rename_i w start tail hw
    obtain ⟨mid, hclose, h⟩ := Failure.bind_eq_ok_iff.1 h
    obtain ⟨⟨value?, behind⟩, hassign, h⟩ := Failure.bind_eq_ok_iff.1 h
    cases h
    obtain ⟨ks, hopen, hstart, hks, hword⟩ := Wrapper.exists_read? hs hw
    have hfirst := takes_append hopen.stands
    rw [hstart] at hfirst
    obtain ⟨hname, hstands, hparts⟩ := takes_upTo hfirst.stands fun l => !l.isNamePart
    have hclosing := Wrapper.takes_close hname.stands hclose
    obtain ⟨hvalue, hform⟩ := takes_readAssignment? hclosing.stands hassign
    have htake := ((hopen.trans (hfirst.trans hname)).trans hclosing).trans hvalue
    refine ⟨htake, isLegible_iff.2 ⟨?_, fun hp => beginsWord_append (hword hp) _, hform⟩⟩
    change Text.isWords isNameMark (start ++ (upTo (fun l => !l.isNamePart) tail).1) = true
    rw [← hstart, ← joined_ofText (upTo _ tail).1, ← joined_append]
    apply isWords_joined
    intro l hl
    rcases List.mem_append.1 hl with hl | hl
    · have hw : l.IsWhole := hopen.stands.isWhole (List.mem_append_left _ hl)
      exact ⟨hw, (isNamePart_iff hw).1 (hks l hl)⟩
    · have hw : l.IsWhole := hstands.isWhole hl
      exact ⟨hw, (isNamePart_iff hw).1 (by simpa using hparts l hl)⟩

end Attribute

/-! ## Opening tags -/

namespace OpeningTag

open Lexeme

variable {ls rest : List Lexeme} {tag result : OpeningTag}

/-- The slots of a tag take what they are written as, up to `>`. -/
theorem takes_readAttributes (hs : Stands ls []) (h : tag.readAttributes ls = .ok (result, rest)) :
    ∃ slots trailing slash, result = tag.extend slots trailing slash ∧ SlotsLegible slots ∧
      trailing.all isWhitespace = true ∧
        Takes ls (written slots ++ (trailing ++ if slash then ['/'] else [])) rest := by
  fun_induction readAttributes tag ls with
  | case1 tag ls whitespace hb =>
    obtain ⟨htake, hw, -⟩ := takes_blank hs
    cases h
    refine ⟨[], whitespace, false, (extend_nil ..).symm, by simp [SlotsLegible], hw, ?_⟩
    rw [hb] at htake
    simpa using htake
  | case2 tag ls whitespace l tail hb hk =>
    obtain ⟨htake, hw, -⟩ := takes_blank hs
    cases h
    refine ⟨[], whitespace, true, (extend_nil ..).symm, by simp [SlotsLegible], hw, ?_⟩
    rw [hb] at htake
    exact htake.trans (takes_mark htake.stands (by rw [hk]; rfl))
  | case3 tag ls whitespace l tail hb hk =>
    obtain ⟨htake, hw, -⟩ := takes_blank hs
    cases h
    refine ⟨[], whitespace, false, (extend_nil ..).symm, by simp [SlotsLegible], hw, ?_⟩
    rw [hb] at htake
    simpa using htake
  | case4 => cases h
  | case5 tag ls whitespace l tail hb read a behind hread _ _ ih =>
    obtain ⟨htake, hw, -⟩ := takes_blank hs
    rw [hb] at htake
    obtain ⟨hattr, ha⟩ := Attribute.takes_of_read htake.stands hread
    rw [hread, remainder_ok] at ih h
    obtain ⟨slots, trailing, slash, hresult, hslots, htrailing, hrest⟩ := ih hattr.stands h
    refine ⟨(whitespace, a) :: slots, trailing, slash, ?_, slotsLegible_cons.2 ⟨⟨hw, ha⟩, hslots⟩,
      htrailing, ?_⟩
    · rw [hresult, extend_push]
    · rw [written_cons, List.append_assoc]
      exact (htake.trans hattr).trans hrest

end OpeningTag

namespace SourceNode

open Lexeme

variable {ls rest : List Lexeme} {n : SourceNode}

/-- Whether the text behind `<` is white space, and only an opening tag has any. -/
def LeadFits (n : SourceNode) : Prop :=
  n.lead.all isWhitespace = true ∧ ((∀ tag, n.node ≠ .openingTag tag) → n.lead = [])

theorem takes_readOpeningTag (hs : Stands ls []) (h : readOpeningTag id ls = .ok (n, rest)) :
    ∃ lead tag, n = ⟨lead, .openingTag tag⟩ ∧ lead.all isWhitespace = true ∧
      tag.isLegible = true ∧ Takes ls (lead ++ tag.renderBody) rest := by
  rw [readOpeningTag_eq] at h
  obtain ⟨⟨tag, mid⟩, hread, h⟩ := Failure.bind_eq_ok_iff.1 h
  obtain ⟨behind, hmeet, h⟩ := Failure.bind_eq_ok_iff.1 h
  rw [Failure.pure_eq_ok_iff, Prod.mk.injEq] at h
  obtain ⟨rfl, rfl⟩ := h
  obtain ⟨hlead, hw, htight⟩ := takes_blank hs
  obtain ⟨hname, -, hwords⟩ := takes_tagName hlead.stands
  obtain ⟨slots, trailing, slash, htag, hslots, htrailing, hrest⟩ :=
    OpeningTag.takes_readAttributes hname.stands hread
  have hclose := takes_meet (t := ['>']) hrest.stands hmeet rfl
  have htake := hname.trans (hrest.trans hclose)
  rw [OpeningTag.extend_named] at htag
  have hbody : (tagName (blank ls).2).1 ++ (OpeningTag.written slots ++
      (trailing ++ if slash then ['/'] else []) ++ ['>']) = tag.renderBody := by
    rw [htag, OpeningTag.renderBody_ofSlots]
    cases slash <;> simp
  rw [hbody] at htake
  refine ⟨_, tag, rfl, hw, ?_, hlead.trans htake⟩
  rw [htake.joined_eq, ← hbody] at htight
  rw [htag, OpeningTag.isLegible_ofSlots]
  refine ⟨hwords, hslots, htrailing, ?_⟩
  intro hnil
  rw [hnil] at htight
  cases slots with
  | nil =>
    simp only [List.nil_append, List.append_assoc, OpeningTag.written_nil] at htight
    simpa using eq_nil_of_blank htrailing htight
  | cons p slots =>
    simp only [List.nil_append, List.append_assoc, OpeningTag.written_cons] at htight
    simpa using eq_nil_of_blank (OpeningTag.slotsLegible_cons.1 hslots).1.1 htight

theorem takes_readClosingTag (hs : Stands ls []) (h : readClosingTag ls = .ok (n, rest)) :
    ∃ name, n = ⟨[], .closingTag name⟩ ∧ (Node.closingTag name).IsLegible ∧
      Takes ls (name ++ ['>']) rest := by
  obtain ⟨mid, hmeet, h⟩ := Failure.bind_eq_ok_iff.1 h
  cases h
  obtain ⟨hname, hstands, hwords⟩ := takes_tagName hs
  have hclose := takes_meet (t := ['>']) hname.stands hmeet rfl
  rw [hclose.joined_eq] at hstands
  exact ⟨_, rfl, ⟨hwords, hstands.of_append⟩, hname.trans hclose⟩

theorem takes_readUntil {e : Expectation} {node : Text → Node} (mark : Text)
    (hs : Stands ls []) (hmark : e.kind.text? = some mark)
    (h : readUntil e node ls = .ok (n, rest)) :
    ∃ content, n = ⟨[], node content⟩ ∧ Stands (ofText content) mark ∧
      (∀ l ∈ ofText content, l.kind ≠ e.kind) ∧ Takes ls (content ++ mark) rest := by
  obtain ⟨mid, hmeet, h⟩ := Failure.bind_eq_ok_iff.1 h
  cases h
  obtain ⟨hcontent, hstands, hparts⟩ := takes_upTo hs fun l => l.kind == e.kind
  have hclose := takes_meet hcontent.stands hmeet hmark
  rw [hclose.joined_eq] at hstands
  refine ⟨_, rfl, hstands.of_append, fun l hl => ?_, hcontent.trans hclose⟩
  simpa using hparts l hl

/-- **A node takes what it is written as, and it is legible.** -/
theorem takes_read {l : Lexeme} (hs : Stands (l :: ls) []) (h : read id l ls = .ok (n, rest)) :
    Takes (l :: ls) n.render rest ∧ n.node.IsLegible ∧ n.LeadFits := by
  rw [read_eq] at h
  split at h
  case h_1 hk =>
    have hopen := takes_mark (t := ['<']) hs (by rw [hk]; rfl)
    split at h
    · have hslash := takes_mark (t := ['/']) hopen.stands rfl
      obtain ⟨name, rfl, hn, htake⟩ := takes_readClosingTag hslash.stands h
      exact ⟨hopen.trans (hslash.trans htake), hn, rfl, fun _ => rfl⟩
    · obtain ⟨lead, tag, rfl, hlead, ht, htake⟩ := takes_readOpeningTag hopen.stands h
      exact ⟨hopen.trans htake, ht, hlead, fun hne => absurd rfl (hne tag)⟩
  case h_2 hk =>
    have hopen := takes_mark (t := ['<', '!']) hs (by rw [hk]; rfl)
    obtain ⟨content, rfl, hcontent, hparts, htake⟩ := takes_readUntil ['>'] hopen.stands rfl h
    refine ⟨hopen.trans htake, ⟨?_, hcontent, hparts⟩, rfl, fun _ => rfl⟩
    have hhyphens := hs.2.1
    rw [drawsIn, hk, startsWith_eq_false_iff, htake.joined_eq, List.append_assoc,
      List.append_assoc] at hhyphens
    exact fun hp => hhyphens (hp.trans (List.prefix_append content _))
  case h_3 hk =>
    have hopen := takes_mark (t := ['<', '!', '-', '-']) hs (by rw [hk]; rfl)
    obtain ⟨content, rfl, hcontent, hparts, htake⟩ :=
      takes_readUntil ['-', '-', '>'] hopen.stands rfl h
    exact ⟨hopen.trans htake, ⟨hcontent, hparts⟩, rfl, fun _ => rfl⟩
  case h_4 hopen hbang hcomment =>
    cases h
    obtain ⟨htake, -, hparts⟩ := takes_upTo hs.2.2 endsText
    have hdraws := hs.2.1
    rw [htake.joined_eq, List.append_assoc] at hdraws
    have hcontent := hs.1.ofText_append (drawsIn_of_append hdraws)
    refine ⟨(takes_cons hs).trans htake, ⟨l, _, hcontent, ?_, hparts⟩, rfl, fun _ => rfl⟩
    simpa using ⟨hopen, hbang, hcomment⟩

/-- Neither a text nor a declaration begins where a text ends. -/
theorem node_of_read {l : Lexeme} (hs : Stands (l :: ls) []) (h : read id l ls = .ok (n, rest)) :
    (∀ content, (Node.text content).mayFollow n.node = true) ∨
      endsText l = false ∧ ∀ content, n.node = .text content → rest.head?.all endsText = true := by
  rw [read_eq] at h
  split at h
  case h_1 hk =>
    have hopen := takes_mark (t := ['<']) hs (by rw [hk]; rfl)
    split at h
    · have hslash := takes_mark (t := ['/']) hopen.stands rfl
      obtain ⟨name, rfl, -⟩ := takes_readClosingTag hslash.stands h
      exact .inl fun _ => rfl
    · obtain ⟨lead, tag, rfl, -⟩ := takes_readOpeningTag hopen.stands h
      exact .inl fun _ => rfl
  case h_2 hk =>
    obtain ⟨content, rfl, -⟩ := takes_readUntil ['>'] hs.2.2 rfl h
    exact .inr ⟨by simp [endsText, hk], nofun⟩
  case h_3 hk =>
    obtain ⟨content, rfl, -⟩ := takes_readUntil ['-', '-', '>'] hs.2.2 rfl h
    exact .inl fun _ => rfl
  case h_4 hopen hbang hcomment =>
    cases h
    refine .inr ⟨?_, fun _ _ => head?_upTo endsText ls⟩
    simpa [endsText] using ⟨hopen, hcomment⟩

/-- **A document that is read to its end is written like its nodes, and they are legible.** -/
theorem renderAll_of_readAll {ns : List SourceNode} (hs : Stands ls [])
    (h : complete? (readAll id ls) = some ns) : joined ls = ns.flatMap render ∧
      Node.AllLegible (ns.map (·.node)) ∧ (∀ n ∈ ns, n.LeadFits) ∧
        (ls.head?.all endsText = true → ∀ content,
          (ns.map (·.node)).head?.all (Node.text content).mayFollow = true) := by
  fun_induction readAll id ls generalizing ns with
  | case1 =>
    cases h
    simp [Node.AllLegible]
  | case2 l rest f hread => cases h
  | case3 l rest result n behind hread ns' failure? hall =>
    rename_i ih
    rw [hread, remainder_ok] at hall ih
    cases failure? with
    | some f => cases h
    | none =>
      cases h
      obtain ⟨htake, hn, hlead⟩ := takes_read hs hread
      obtain ⟨hjoin, hlegible, hleads, hhead⟩ := ih htake.stands (by rw [hall]; rfl)
      refine ⟨?_, ⟨hn, ?_, hlegible⟩, List.forall_mem_cons.2 ⟨hlead, hleads⟩, fun hl content => ?_⟩
      · rw [htake.joined_eq, hjoin]
        rfl
      · by_cases htext : ∃ content, n.node = .text content
        · obtain ⟨content, hcontent⟩ := htext
          rcases node_of_read hs hread with hfollow | ⟨-, hends⟩
          · have hfollow := hfollow content
            rw [hcontent] at hfollow
            cases hfollow
          · change Option.all n.node.mayFollow _ = true
            rw [hcontent]
            exact hhead (hends content hcontent) content
        · rw [Option.all_eq_true]
          exact fun m _ => Node.mayFollow_of_ne (not_exists.1 htext) m
      · rcases node_of_read hs hread with hfollow | ⟨hends, -⟩
        · exact hfollow content
        · have hl : endsText l = true := hl
          rw [hends] at hl
          cases hl

/-- The node with its attributes changed. -/
def mapAttributes (f : List Attribute → List Attribute) (n : SourceNode) : SourceNode :=
  { n with node := n.node.mapAttributes f }

theorem readOpeningTag_arrange (arrange : List Attribute → List Attribute) (ls : List Lexeme) :
    readOpeningTag arrange ls =
      (readOpeningTag id ls).map fun result => (mapAttributes arrange result.1, result.2) := by
  rw [readOpeningTag_eq, readOpeningTag_eq]
  cases OpeningTag.readNamed (blank ls).2 with
  | error f => rfl
  | ok result =>
    simp only [bind, Except.bind]
    cases Expectation.tagEnd.meet result.2 <;> rfl

theorem readClosingTag_arrange (arrange : List Attribute → List Attribute) (ls : List Lexeme) :
    readClosingTag ls =
      (readClosingTag ls).map fun result => (mapAttributes arrange result.1, result.2) := by
  rw [readClosingTag]
  simp only [bind, Except.bind]
  cases Expectation.closingTagEnd.meet (tagName ls).2 <;> rfl

theorem readUntil_arrange (arrange : List Attribute → List Attribute) (e : Expectation)
    {node : Text → Node} (hnode : ∀ t, (node t).mapAttributes arrange = node t) (ls : List Lexeme) :
    readUntil e node ls =
      (readUntil e node ls).map fun result => (mapAttributes arrange result.1, result.2) := by
  rw [readUntil]
  simp only [bind, Except.bind]
  cases e.meet (upTo (fun l => l.kind == e.kind) ls).2 with
  | error f => rfl
  | ok rest => simp [pure, Except.pure, Except.map, mapAttributes, hnode]

theorem read_arrange (arrange : List Attribute → List Attribute) (l : Lexeme) (ls : List Lexeme) :
    read arrange l ls =
      (read id l ls).map fun result => (mapAttributes arrange result.1, result.2) := by
  rw [read_eq, read_eq]
  split
  · split
    · exact readClosingTag_arrange arrange _
    · exact readOpeningTag_arrange arrange _
  · exact readUntil_arrange arrange _ (fun _ => rfl) _
  · exact readUntil_arrange arrange _ (fun _ => rfl) _
  · rfl

/-- **The arrangement changes the attributes of tags and nothing else.** -/
theorem readAll_arrange (arrange : List Attribute → List Attribute) (ls : List Lexeme) :
    readAll arrange ls = ((readAll id ls).1.map (mapAttributes arrange), (readAll id ls).2) := by
  fun_induction readAll id ls with
  | case1 => rw [readAll]; rfl
  | case2 l rest result f =>
    rename_i hread
    have harrange := read_arrange arrange l rest
    rw [show read id l rest = .error f from hread] at harrange
    rw [readAll, harrange]
    rfl
  | case3 l rest result n behind hread ns' failure? hall =>
    rename_i ih
    have harrange := read_arrange arrange l rest
    rw [show read id l rest = .ok (n, behind) from hread] at harrange
    rw [hread, remainder_ok] at hall ih
    rw [readAll, harrange]
    simp only [Except.map, remainder_ok, ih, hall, List.map_cons]

end SourceNode

end MarkupOrder
