import MarkupOrder.Proofs.Grammar.Form
import MarkupOrder.Proofs.Source.Failures

/-!
# The grammar of markup

* `Form.anyAttribute`, `Form.openingTag`, `Form.item`, `Form.document`: the grammar, part by part.
* `Attribute.derives_anyWrapped_iff`: the names of attributes that are read are those of the
  grammar.
* `Attribute.derives_or_of_read`, `Attribute.exists_read_of_derives`,
  `Attribute.exists_read_of_lastAttribute`: the same of attributes, but for what is behind them.
-/

namespace MarkupOrder

namespace Form

/-! ## The grammar -/

/-- White space, if there is any. -/
def blank : Form := optional (kind .whitespace)

/-- The name of an attribute, as far as it goes. -/
def name : Form := run Lexeme.isNamePart

/-- The name of a tag, as far as it goes. -/
def tagName : Form := run Lexeme.isTagPart

/-- A name in its wrapper. The name in a plain one begins with an identifier. -/
def wrapped : Wrapper → Form
  | .plain => seq (kind .identifier) name
  | .bracket => seq (kind .leftBracket) (seq name (kind .rightBracket))
  | .paren => seq (kind .leftParen) (seq name (kind .rightParen))
  | .hash => seq (kind .hash) name
  | .atSign => seq (kind .atSign) name
  | .star => seq (kind .star) name
  | .twoWay => seq (kind .leftBracket) (seq (kind .leftParen)
      (seq name (seq (kind .rightParen) (kind .rightBracket))))

/-- A name in any wrapper. -/
def anyWrapped : Form := anyOf (Wrapper.all.map wrapped)

/-- A value in quotes of the kind. -/
def quoted (quote : Kind) : Form := seq (kind quote) (upTo quote)

/-- A value without quotes, as far as it goes. -/
def unquoted : Form := seq (one fun l => !l.endsValue) (run fun l => !l.endsValue)

/-- A value. -/
def value : Form := anyOf [quoted .singleQuote, quoted .doubleQuote, unquoted]

/-- An attribute. -/
def anyAttribute : Form := seq anyWrapped (optional (seq (kind .equals) value))

/-- An attribute that goes on to the end of a comment: the hyphens belong to its value, and the `>`
ends the tag. -/
def lastAttribute : Form :=
  seq anyWrapped (seq (kind .equals) (seq (run fun l => !l.endsValue) (kind .commentEnd)))

/-- The end of an opening tag. -/
def tagEnd : Form :=
  alt (seq (optional (kind .slash)) (kind .tagClose)) lastAttribute

/-- An opening tag behind its name. -/
def tagRest : Form := seq (many (seq blank anyAttribute)) (seq blank tagEnd)

/-- An opening tag, with the given form between `<` and its name. -/
def openingTag (lead : Form) : Form :=
  seq (kind .tagOpen) (seq (before fun l => l.kind != .slash) (seq lead (seq tagName tagRest)))

/-- A closing tag. -/
def closingTag : Form := seq (kind .tagOpen) (seq (kind .slash) (seq tagName (kind .tagClose)))

/-- A comment. -/
def comment : Form := seq (kind .commentStart) (upTo .commentEnd)

/-- A declaration. -/
def bangTag : Form := seq (kind .bangTagStart) (upTo .tagClose)

/-- A text. -/
def text : Form :=
  seq (one fun l => l.kind != .tagOpen && l.kind != .bangTagStart && l.kind != .commentStart)
    (run fun l => l.kind != .tagOpen && l.kind != .commentStart)

/-- A node of a document. -/
def item (lead : Form) : Form := anyOf [closingTag, openingTag lead, comment, bangTag, text]

/-- A document. -/
def document (lead : Form) : Form := many (item lead)

/-- White space wherever there is some. -/
def allBlank : Form := alt (kind .whitespace) (before fun l => l.kind != .whitespace)

/-! ## White space -/

variable {f : Form} {ls mid rest : List Lexeme}

theorem derives_allBlank_iff : allBlank.Derives ls rest ↔ rest = (Lexeme.blank ls).2 := by
  rw [allBlank, derives_alt_iff, derives_before_iff]
  cases ls with
  | nil => simp [Lexeme.blank]
  | cons l ls =>
    rw [derives_kind_cons_iff]
    by_cases hk : l.kind = .whitespace
    · obtain ⟨k, t⟩ := l
      cases hk
      simp [Lexeme.blank]
    · simp [Lexeme.blank_cons hk, hk]

theorem derives_blank (ls : List Lexeme) : blank.Derives ls (Lexeme.blank ls).2 := by
  unfold Lexeme.blank
  split
  · exact .left (derives_kind_cons_iff.2 ⟨rfl, rfl⟩)
  · exact .right .empty

/-- White space is all there is where something else is behind it. -/
theorem eq_of_derives_blank (h : blank.Derives ls rest)
    (hrest : rest.head?.all (fun l => l.kind != .whitespace) = true) :
    rest = (Lexeme.blank ls).2 := by
  rw [blank, derives_optional_iff] at h
  rcases h with h | rfl
  · cases ls with
    | nil => simp at h
    | cons l ls =>
      obtain ⟨hk, rfl⟩ := derives_kind_cons_iff.1 h
      obtain ⟨k, t⟩ := l
      cases hk
      rfl
  · exact derives_allBlank_iff.1 (.right (.before hrest))

end Form

/-! ## Attributes -/

theorem Wrapper.read?_leftBracket {l : Lexeme} (hl : l.kind ≠ .leftParen) (t : Text)
    (ls : List Lexeme) : read? (⟨.leftBracket, t⟩ :: l :: ls) = some (.bracket, [], l :: ls) := by
  obtain ⟨k, t'⟩ := l
  cases k with
  | leftParen => exact absurd rfl hl
  | _ => rfl

namespace Form

variable {ls rest : List Lexeme}

/-- The rest of a name, and a lexeme behind it. -/
theorem derives_name_seq_iff {e : Expectation} : (seq name (kind e.kind)).Derives ls rest ↔
    e.meet (Lexeme.upTo (fun l => !l.isNamePart) ls).2 = .ok rest := by
  simp [derives_seq_iff, name, derives_run_iff, derives_kind_iff]

/-- A name in brackets does not begin with a parenthesis. -/
theorem kind_ne_of_meet_upTo {l : Lexeme} (h : Expectation.bracketEnd.meet
    (Lexeme.upTo (fun l => !l.isNamePart) (l :: ls)).2 = .ok rest) : l.kind ≠ .leftParen := by
  intro hk
  have hstop : l.isNamePart = false := by rw [Lexeme.isNamePart, hk]
  rw [Lexeme.upTo_of_stop (by rw [hstop]; rfl)] at h
  simp [Expectation.meet, Expectation.kind, hk] at h

/-- Where the name of an attribute has been opened, it has the form of one. -/
theorem derives_wrapped_of_read? {w : Wrapper} {start : Text} {mid : List Lexeme}
    (h : Wrapper.read? ls = some (w, start, mid))
    (hclose : w.close (Lexeme.upTo (fun l => !l.isNamePart) mid).2 = .ok rest) :
    (wrapped w).Derives ls rest := by
  unfold Wrapper.read? at h
  split at h
  · cases h
  · split at h
    case h_3 hk =>
      split at h <;> cases h <;> refine derives_kind_seq_cons_iff.2 ⟨hk, ?_⟩
      · obtain ⟨behind, hparen, hbracket⟩ := Failure.bind_eq_ok_iff.1 hclose
        refine derives_kind_seq_cons_iff.2 ⟨rfl, ?_⟩
        exact .seq (derives_run_iff.2 rfl)
          (.seq (derives_kind_iff.2 hparen) (derives_kind_iff.2 hbracket))
      · exact derives_name_seq_iff.2 hclose
    case h_2 hk =>
      cases h
      exact derives_kind_seq_cons_iff.2 ⟨hk, derives_name_seq_iff.2 hclose⟩
    case h_7 => cases h
    all_goals
      rename_i hk
      cases h
      cases hclose
      exact derives_kind_seq_cons_iff.2 ⟨hk, derives_run_iff.2 rfl⟩

/-- What has the form of a name in a wrapper is opened as such. -/
theorem exists_read?_of_derives {w : Wrapper} (h : (wrapped w).Derives ls rest) :
    ∃ start mid, Wrapper.read? ls = some (w, start, mid) ∧
      w.close (Lexeme.upTo (fun l => !l.isNamePart) mid).2 = .ok rest := by
  cases ls with
  | nil => cases w <;> simp [wrapped] at h
  | cons l ls =>
    cases w with
    | plain | hash | atSign | star =>
      obtain ⟨hk, hname⟩ := derives_kind_seq_cons_iff.1 h
      obtain ⟨k, t⟩ := l
      cases hk
      exact ⟨_, ls, rfl, congrArg _ (derives_run_iff.1 hname).symm⟩
    | paren =>
      obtain ⟨hk, hname⟩ := derives_kind_seq_cons_iff.1 h
      obtain ⟨k, t⟩ := l
      cases hk
      exact ⟨_, ls, rfl, derives_name_seq_iff.1 hname⟩
    | bracket =>
      obtain ⟨hk, hname⟩ := derives_kind_seq_cons_iff.1 h
      have hclose := (derives_name_seq_iff (e := .bracketEnd)).1 hname
      obtain ⟨k, t⟩ := l
      cases hk
      cases ls with
      | nil => exact ⟨[], [], rfl, hclose⟩
      | cons l ls =>
        exact ⟨[], l :: ls, Wrapper.read?_leftBracket (kind_ne_of_meet_upTo hclose) t ls, hclose⟩
    | twoWay =>
      obtain ⟨hk, hrest⟩ := derives_kind_seq_cons_iff.1 h
      obtain ⟨k, t⟩ := l
      cases hk
      cases ls with
      | nil => simp at hrest
      | cons l ls =>
        obtain ⟨hk, hname⟩ := derives_kind_seq_cons_iff.1 hrest
        obtain ⟨k, t⟩ := l
        cases hk
        obtain ⟨mid, hname, hmarks⟩ := derives_seq_iff.1 hname
        obtain ⟨behind, hparen, hbracket⟩ := derives_seq_iff.1 hmarks
        obtain rfl := derives_run_iff.1 hname
        refine ⟨[], ls, rfl, Failure.bind_eq_ok_iff.2 ⟨behind, ?_, ?_⟩⟩
        · exact derives_kind_iff.1 hparen
        · exact derives_kind_iff.1 hbracket

end Form

namespace Attribute

open Form Reading

variable {ls rest : List Lexeme} {a : Attribute}

/-- The name of an attribute in its wrapper. -/
def readWrapped : Reading Attribute := fun ls => readOpening ls >>= fun r => readName r.1 r.2

theorem read_eq_readWrapped (ls : List Lexeme) :
    read ls = readWrapped ls >>= fun r => readRest r.1 r.2 := by
  rw [read_eq, readWrapped, bind_assoc]

theorem exists_readWrapped_iff : (∃ a, readWrapped ls = .ok (a, rest)) ↔
    ∃ w start mid, Wrapper.read? ls = some (w, start, mid) ∧
      w.close (Lexeme.upTo (fun l => !l.isNamePart) mid).2 = .ok rest := by
  rw [readWrapped, readOpening]
  cases Wrapper.read? ls with
  | none => simp [bind, Except.bind]
  | some r =>
    obtain ⟨w, start, mid⟩ := r
    simp only [Option.some.injEq, Prod.mk.injEq, bind, Except.bind, readName]
    constructor
    · rintro ⟨a, h⟩
      refine ⟨w, start, mid, ⟨rfl, rfl, rfl⟩, ?_⟩
      cases hclose : w.close (Lexeme.upTo (fun l => !l.isNamePart) mid).2 with
      | error f =>
        rw [hclose] at h
        cases h
      | ok rest =>
        rw [hclose] at h
        cases h
        rfl
    · rintro ⟨_, _, _, ⟨rfl, rfl, rfl⟩, hclose⟩
      rw [hclose]
      exact ⟨_, rfl⟩

/-- A name in a wrapper is read if and only if it has the form of one. -/
theorem derives_anyWrapped_iff :
    anyWrapped.Derives ls rest ↔ ∃ a, readWrapped ls = .ok (a, rest) := by
  rw [anyWrapped, derives_anyOf_iff, exists_readWrapped_iff]
  constructor
  · rintro ⟨_, hmem, h⟩
    obtain ⟨w, -, rfl⟩ := List.mem_map.1 hmem
    exact ⟨w, exists_read?_of_derives h⟩
  · rintro ⟨w, start, mid, hread, hclose⟩
    refine ⟨_, List.mem_map_of_mem ?_, derives_wrapped_of_read? hread hclose⟩
    cases w <;> decide

/-! ## Values -/

theorem not_isQuote_of_endsValue {l : Lexeme} (h : l.endsValue = false) :
    l.kind.isQuote = false := by
  unfold Lexeme.endsValue at h
  split at h
  · cases h
  · cases h
  · cases h
  · exact h

/-- A value without quotes has at least one lexeme. -/
theorem derives_unquoted_iff : unquoted.Derives ls rest ↔
    rest = (Lexeme.upTo Lexeme.endsValue ls).2 ∧ ls.head?.any (fun l => !l.endsValue) = true := by
  simp only [unquoted, derives_seq_iff, derives_one_iff, derives_run_iff, Bool.not_not]
  constructor
  · rintro ⟨mid, ⟨l, rfl, hl⟩, rfl⟩
    have hl' : l.endsValue = false := by simpa using hl
    exact ⟨(congrArg Prod.snd (Lexeme.upTo_of_go hl' _)).symm, hl⟩
  · rintro ⟨rfl, hhead⟩
    cases ls with
    | nil => cases hhead
    | cons l ls =>
      have hl : l.endsValue = false := by simpa using hhead
      exact ⟨ls, ⟨l, rfl, hhead⟩, by rw [Lexeme.upTo_of_go hl]⟩

/-- What a value that is read consists of. It may be that it meets the end of a comment. -/
theorem derives_or_of_readValue {v : Text} (h : readValue ls = .ok (v, rest)) :
    value.Derives ls rest ∨ ∃ tail, rest = ⟨.tagClose, ['>']⟩ :: tail ∧
      (seq (run fun l => !l.endsValue) (kind .commentEnd)).Derives ls tail := by
  have hunquoted (h : readUnquoted ls = .ok (v, rest)) :
      value.Derives ls rest ∨ ∃ tail, rest = ⟨.tagClose, ['>']⟩ :: tail ∧
        (seq (run fun l => !l.endsValue) (kind .commentEnd)).Derives ls tail := by
    rw [readUnquoted_eq] at h
    unfold endValue at h
    split at h
    · rename_i hup
      cases h
      refine .inr ⟨_, rfl, .seq (derives_run_iff.2 rfl) ?_⟩
      simp only [Bool.not_not, hup]
      exact derives_kind_cons_iff.2 ⟨rfl, rfl⟩
    · split at h <;> cases h
      rename_i hne
      refine .inl (.right (.right (.left (derives_unquoted_iff.2 ⟨rfl, ?_⟩))))
      cases ls with
      | nil => exact absurd rfl hne
      | cons l ls =>
        cases hl : l.endsValue with
        | false => simp [hl]
        | true => exact absurd (congrArg Prod.fst (Lexeme.upTo_of_stop hl ls)) hne
  unfold readValue at h
  split at h
  · exact hunquoted h
  · rename_i l ls
    split at h
    · rename_i hl
      rw [readQuoted, if_pos hl] at h
      obtain ⟨mid, hmeet, h⟩ := Failure.bind_eq_ok_iff.1 h
      cases h
      have hquoted : (quoted l.kind).Derives (l :: ls) rest :=
        derives_kind_seq_cons_iff.2 ⟨rfl, (derives_upTo_iff (e := .quoteEnd l.kind)).2 hmeet⟩
      left
      cases hk : l.kind with
      | singleQuote => exact .left (hk ▸ hquoted)
      | doubleQuote => exact .right (.left (hk ▸ hquoted))
      | _ => simp [hk, Kind.isQuote] at hl
    · exact hunquoted h

theorem endValue_of_ne {value : Text} (hvalue : value ≠ [])
    (hrest : rest.head?.all (fun l => l.kind != .commentEnd) = true) :
    endValue value rest = .ok (value, rest) := by
  cases rest with
  | nil => exact if_neg hvalue
  | cons l rest => rw [endValue_cons (by simpa using hrest), if_neg hvalue]

/-- What has the form of a value is read, unless it meets the end of a comment. -/
theorem exists_readValue_of_derives (hls : ∀ l ∈ ls, l.text ≠ []) (h : value.Derives ls rest)
    (hrest : rest.head?.all (fun l => l.kind != .commentEnd) = true) :
    ∃ v, readValue ls = .ok (v, rest) := by
  have hquoted {quote : Kind} (hquote : quote.isQuote = true)
      (h : (quoted quote).Derives ls rest) : ∃ v, readValue ls = .ok (v, rest) := by
    cases ls with
    | nil => simp [quoted] at h
    | cons l ls =>
      obtain ⟨rfl, hup⟩ := derives_kind_seq_cons_iff.1 h
      have hmeet := (derives_upTo_iff (e := .quoteEnd l.kind)).1 hup
      rw [readValue, if_pos hquote, readQuoted, if_pos hquote]
      exact ⟨_, Failure.bind_eq_ok_iff.2 ⟨rest, hmeet, rfl⟩⟩
  simp only [value, derives_anyOf_iff, List.mem_cons, List.not_mem_nil, or_false,
    exists_eq_or_imp, exists_eq_left] at h
  rcases h with h | h | h
  · exact hquoted rfl h
  · exact hquoted rfl h
  · obtain ⟨rfl, hhead⟩ := derives_unquoted_iff.1 h
    cases ls with
    | nil => cases hhead
    | cons l ls =>
      have hl : l.endsValue = false := by simpa using hhead
      rw [readValue, if_neg (by rw [not_isQuote_of_endsValue hl]; decide), readUnquoted_eq]
      refine ⟨_, endValue_of_ne ?_ hrest⟩
      rw [Lexeme.upTo_of_go hl]
      exact List.append_ne_nil_of_left_ne_nil (hls l List.mem_cons_self) _

/-- A value that goes on to the end of a comment takes in the hyphens. -/
theorem exists_readValue_of_commentEnd
    (h : (seq (run fun l => !l.endsValue) (kind .commentEnd)).Derives ls rest) :
    ∃ v, readValue ls = .ok (v, ⟨.tagClose, ['>']⟩ :: rest) := by
  obtain ⟨mid, hrun, hkind⟩ := derives_seq_iff.1 h
  obtain rfl := derives_run_iff.1 hrun
  simp only [Bool.not_not] at hkind
  have hread : readUnquoted ls = .ok ((Lexeme.upTo Lexeme.endsValue ls).1 ++ ['-', '-'],
      ⟨.tagClose, ['>']⟩ :: rest) := by
    rw [readUnquoted_eq]
    rcases hup : (Lexeme.upTo Lexeme.endsValue ls).2 with _ | ⟨⟨k, t⟩, tail⟩
    · simp [hup] at hkind
    · rw [hup] at hkind
      obtain ⟨rfl, rfl⟩ := derives_kind_cons_iff.1 hkind
      rfl
  cases ls with
  | nil => exact ⟨_, hread⟩
  | cons l ls =>
    have hl : l.kind.isQuote = false := by
      cases hl : l.endsValue with
      | false => exact not_isQuote_of_endsValue hl
      | true =>
        rw [Lexeme.upTo_of_stop hl] at hkind
        rw [(derives_kind_cons_iff.1 hkind).1]
        rfl
    exact ⟨_, (if_neg (by rw [hl]; decide)).trans hread⟩

/-! ## Attributes with their values -/

theorem cases_of_readAssignment? {value? : Option Text}
    (h : readAssignment? ls = .ok (value?, rest)) : rest = ls ∨
      ∃ l tail v, ls = l :: tail ∧ l.kind = .equals ∧ readValue tail = .ok (v, rest) := by
  unfold readAssignment? at h
  split at h
  · obtain ⟨⟨v, behind⟩, hvalue, h⟩ := Failure.bind_eq_ok_iff.1 h
    cases h
    exact .inr ⟨_, _, v, rfl, rfl, hvalue⟩
  · cases h
    exact .inl rfl

/-- What an attribute that is read consists of. It may be that it goes on to the end of a comment,
and ends the tag. -/
theorem derives_or_of_read (h : read ls = .ok (a, rest)) : anyAttribute.Derives ls rest ∨
    ∃ tail, rest = ⟨.tagClose, ['>']⟩ :: tail ∧ lastAttribute.Derives ls tail := by
  rw [read_eq_readWrapped] at h
  obtain ⟨⟨b, mid⟩, hread, h⟩ := Failure.bind_eq_ok_iff.1 h
  have hname := derives_anyWrapped_iff.2 ⟨b, hread⟩
  obtain ⟨⟨value?, behind⟩, hassign, h⟩ := Failure.bind_eq_ok_iff.1 h
  cases h
  rcases cases_of_readAssignment? hassign with rfl | ⟨l, tail, v, rfl, hl, hread⟩
  · exact .inl (.seq hname (.right .empty))
  · rcases derives_or_of_readValue hread with hvalue | ⟨tail, htail, hvalue⟩
    · exact .inl (.seq hname (.left (derives_kind_seq_cons_iff.2 ⟨hl, hvalue⟩)))
    · exact .inr ⟨tail, htail, .seq hname (derives_kind_seq_cons_iff.2 ⟨hl, hvalue⟩)⟩

theorem exists_read_of_readAssignment? {mid : List Lexeme} {value? : Option Text}
    (hname : anyWrapped.Derives ls mid) (h : readAssignment? mid = .ok (value?, rest)) :
    ∃ a, read ls = .ok (a, rest) := by
  obtain ⟨a, hread⟩ := derives_anyWrapped_iff.1 hname
  refine ⟨{ a with value? }, ?_⟩
  rw [read_eq_readWrapped]
  exact Failure.bind_eq_ok_iff.2 ⟨_, hread, Failure.bind_eq_ok_iff.2 ⟨_, h, rfl⟩⟩

/-- Whether a lexeme can be behind an attribute. -/
def mayFollow (l : Lexeme) : Bool := l.kind != .equals && l.kind != .commentEnd

/-- What has the form of an attribute is read, unless it goes on with what is behind it. -/
theorem exists_read_of_derives (hls : ∀ l ∈ ls, l.text ≠ []) (h : anyAttribute.Derives ls rest)
    (hrest : rest.head?.all mayFollow = true) : ∃ a, read ls = .ok (a, rest) := by
  obtain ⟨mid, hname, hassign⟩ := derives_seq_iff.1 h
  rcases derives_optional_iff.1 hassign with hequals | rfl
  · rcases mid with _ | ⟨⟨k, t⟩, mid⟩
    · simp at hequals
    · obtain ⟨hk, hvalue⟩ := derives_kind_seq_cons_iff.1 hequals
      cases hk
      have hmid (l : Lexeme) (hl : l ∈ mid) : l.text ≠ [] :=
        hls l (hname.suffix.subset (List.mem_cons_of_mem _ hl))
      have hend : rest.head?.all (fun l => l.kind != .commentEnd) = true := by
        cases rest with
        | nil => rfl
        | cons l rest => exact (Bool.and_eq_true_iff.1 hrest).2
      obtain ⟨v, hread⟩ := exists_readValue_of_derives hmid hvalue hend
      have hassign : readAssignment? (⟨.equals, t⟩ :: mid) = .ok (some v, rest) :=
        Failure.bind_eq_ok_iff.2 ⟨_, hread, rfl⟩
      exact exists_read_of_readAssignment? hname hassign
  · have hassign : readAssignment? rest = .ok (none, rest) := by
      rcases rest with _ | ⟨⟨k, t⟩, rest⟩
      · rfl
      · cases k with
        | equals => cases hrest
        | _ => rfl
    exact exists_read_of_readAssignment? hname hassign

/-- An attribute that goes on to the end of a comment is read, and `>` is made up behind it. -/
theorem exists_read_of_lastAttribute (h : lastAttribute.Derives ls rest) :
    ∃ a, read ls = .ok (a, ⟨.tagClose, ['>']⟩ :: rest) := by
  obtain ⟨mid, hname, hassign⟩ := derives_seq_iff.1 h
  rcases mid with _ | ⟨⟨k, t⟩, mid⟩
  · simp at hassign
  · obtain ⟨hk, hvalue⟩ := derives_kind_seq_cons_iff.1 hassign
    cases hk
    obtain ⟨v, hread⟩ := exists_readValue_of_commentEnd hvalue
    have hassign : readAssignment? (⟨.equals, t⟩ :: mid) =
        .ok (some v, ⟨.tagClose, ['>']⟩ :: rest) :=
      Failure.bind_eq_ok_iff.2 ⟨_, hread, rfl⟩
    exact exists_read_of_readAssignment? hname hassign

end Attribute

end MarkupOrder
