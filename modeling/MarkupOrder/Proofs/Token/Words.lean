import MarkupOrder.Proofs.Text.Forms
import MarkupOrder.Proofs.Token.Seams
import MarkupOrder.Source.SourceNode

/-!
# The lexemes of names

* `Lexeme.ofText_cons_of_leads` and its instances `ofText_mark`, `ofText_blank`,
  `ofText_commentEnd`: the first lexeme of a text.
* `Lexeme.Spells`: a lexeme that is a word or a mark. A text of words and marks has such lexemes
  only (`spells_of_isWords`), and they give such a text (`isWords_joined`).
* `Lexeme.isNamePart_iff`, `Lexeme.isTagPart_iff`: the parts of names are of this kind.
* `Lexeme.splitTagName_eq`: the part of a text that a tag's name takes, in terms of lexemes.
-/

namespace MarkupOrder.Lexeme

open Unicode Text

/-! ## First lexemes -/

theorem ofText_cons_of_leads {c : Char} {rest : Text} {k : Kind} {n : Nat} (h : Leads rest c k n) :
    ofText (c :: rest) = ⟨k, c :: rest.take n⟩ :: ofText (rest.drop n) := by
  rw [ofText_cons, first, behind, leads_iff.1 h]

theorem ofText_mark {c : Char} {k : Kind} {t : Text} (h : Kind.punctuation? c = some k)
    (hopen : c = '<' → ¬ ['!'] <+: t) (hminus : c = '-' → ¬ ['-', '>'] <+: t) :
    ofText (c :: t) = ⟨k, [c]⟩ :: ofText t :=
  ofText_cons_of_leads (.punctuation h hopen hminus)

theorem ofText_commentStart (t : Text) :
    ofText ('<' :: '!' :: '-' :: '-' :: t) = ⟨.commentStart, ['<', '!', '-', '-']⟩ :: ofText t :=
  ofText_cons_of_leads (.commentStart (by simp))

theorem ofText_bangTagStart {t : Text} (ht : ¬ ['-', '-'] <+: t) :
    ofText ('<' :: '!' :: t) = ⟨.bangTagStart, ['<', '!']⟩ :: ofText t :=
  ofText_cons_of_leads (.bangTagStart (by simp) (by simpa using ht))

theorem ofText_commentEnd (t : Text) :
    ofText ('-' :: '-' :: '>' :: t) = ⟨.commentEnd, ['-', '-', '>']⟩ :: ofText t :=
  ofText_cons_of_leads (.commentEnd (by simp))

theorem ofText_blank {w t : Text} (hne : w ≠ []) (hw : w.all isWhitespace = true)
    (ht : t.head?.any isWhitespace = false) : ofText (w ++ t) = ⟨.whitespace, w⟩ :: ofText t := by
  obtain ⟨c, r, rfl⟩ := List.exists_cons_of_ne_nil hne
  rw [List.all_cons, Bool.and_eq_true] at hw
  have hrun : Text.run isWhitespace (r ++ t) = r.length :=
    run_append (run_of_all hw.2) ht
  rw [List.cons_append, ofText_cons_of_leads (.whitespace hw.1), hrun, List.take_left,
    List.drop_left]

/-! ## Lexemes that are words or marks -/

/-- Whether a lexeme is a word or one of the given marks. -/
def Spells (mark : Char → Bool) (l : Lexeme) : Prop :=
  l.kind = .identifier ∨ ∃ c, l.text = [c] ∧ mark c = true

variable {mark : Char → Bool} (hmark : ∀ c, mark c = true → isNameMark c = true)

include hmark in
/-- The first lexeme of a text of words and marks is a word, or one mark. -/
theorem Leads.of_isWords {c : Char} {rest : Text} {k : Kind} {n : Nat} (h : Leads rest c k n)
    (hu : isWords mark (c :: rest) = true) :
    (isAlphabetic c = true ∧ k = .identifier ∧ n = rest.run isAlphanumeric) ∨
      (isAlphabetic c = false ∧ mark c = true ∧ n = 0 ∧ rest.isWords mark = true) := by
  have hmarkOf (hc : isAlphabetic c = false) : mark c = true ∧ rest.isWords mark = true := by
    simpa [isWords, isWordsFrom, inWordBy, hc] using hu
  have hclasses (hc : isAlphabetic c = false) := classes_of_isNameMark (hmark c (hmarkOf hc).1)
  cases h with
  | whitespace h =>
    have hc : isAlphabetic c = false := by
      have := isAlphanumeric_of_isWhitespace h
      simp_all [isAlphanumeric]
    simp [(hclasses hc).1] at h
  | commentStart | bangTagStart => exact absurd rfl (hclasses (by decide)).2.2.1
  | commentEnd h =>
    obtain ⟨t, rfl⟩ := h
    have hrest := (hmarkOf (by decide)).2
    have hclose : inWordBy false '-' = false ∧ inWordBy false '>' = false := by decide
    simp only [isWords, List.cons_append, isWordsFrom, hclose, Bool.false_eq_true, if_false,
      Bool.and_eq_true] at hrest
    exact absurd rfl (classes_of_isNameMark (hmark '>' hrest.2.1)).2.2.2
  | punctuation h =>
    have hc : isAlphabetic c = false := by
      have := Kind.isAlphanumeric_of_punctuation h
      simp_all [isAlphanumeric]
    exact .inr ⟨hc, (hmarkOf hc).1, rfl, (hmarkOf hc).2⟩
  | identifier h => exact .inl ⟨h, rfl, rfl⟩
  | unknown _ _ h => exact .inr ⟨h, (hmarkOf h).1, rfl, (hmarkOf h).2⟩

include hmark in
/-- A text of words and marks has lexemes of this kind only. -/
theorem spells_of_isWords {u : Text} (hu : u.isWords mark = true) :
    ∀ l ∈ ofText u, l.Spells mark := by
  fun_induction ofText u with
  | case1 => simp
  | case2 c rest ih =>
    have hl := leads_leading c rest
    rcases hl.of_isWords hmark hu with ⟨hc, hk, hn⟩ | ⟨hc, hm, hn, hrest⟩
    · have hrest : isWordsFrom mark true rest = true := by
        simpa [isWords, isWordsFrom, inWordBy, hc] using hu
      rw [behind, hn] at ih ⊢
      exact List.forall_mem_cons.2 ⟨.inl hk, ih (isWordsFrom_run hrest)⟩
    · rw [behind, hn] at ih ⊢
      refine List.forall_mem_cons.2 ⟨.inr ⟨c, ?_, hm⟩, ih hrest⟩
      rw [first, hn, List.take_zero]

/-- Whole words and marks, one behind the other, are a text of words and marks. -/
theorem isWords_joined {ls : List Lexeme} (hls : ∀ l ∈ ls, l.IsWhole ∧ l.Spells mark) :
    (joined ls).isWords mark = true := by
  induction ls with
  | nil => rfl
  | cons l ls ih =>
    have ih := ih fun k hk => hls k (List.mem_cons_of_mem l hk)
    obtain ⟨hw, hs⟩ := hls l List.mem_cons_self
    rw [joined_cons]
    rcases hs with hk | ⟨c, ht, hm⟩
    · obtain ⟨c, r, ht, hc, hr⟩ := hw.word hk
      have hword : inWordBy false c = true := by simp [inWordBy, hc]
      rw [ht, List.cons_append, isWords, isWordsFrom, if_pos hword]
      exact isWordsFrom_append_of_all hr ih
    · rw [ht, List.singleton_append, isWords, isWordsFrom]
      split
      · exact isWordsFrom_mono ih true
      · exact Bool.and_eq_true_iff.2 ⟨hm, ih⟩

/-- Whether a lexeme can be part of a tag's name. -/
def isTagPart (l : Lexeme) : Bool := l.kind == .identifier || l.kind == .minus

theorem tagName_eq (ls : List Lexeme) : tagName ls = upTo (fun l => !l.isTagPart) ls := rfl

theorem IsWhole.kind_eq {l : Lexeme} {c : Char} (h : l.IsWhole) (ht : l.text = [c]) :
    l.kind = (leading c []).1 := by
  have : IsWhole ⟨l.kind, [c]⟩ := by rwa [← ht]
  rw [leads_iff.1 (isWhole_singleton.1 this)]

theorem isTagPart_iff {l : Lexeme} (h : l.IsWhole) :
    l.isTagPart = true ↔ l.Spells isTagMark := by
  simp only [isTagPart, Bool.or_eq_true, beq_iff_eq, Spells, isTagMark]
  refine or_congr_right ⟨fun hk => ⟨'-', h.text_eq (by rw [hk]; rfl), rfl⟩, ?_⟩
  rintro ⟨c, ht, rfl⟩
  rw [h.kind_eq ht]
  decide

theorem isNamePart_iff {l : Lexeme} (h : l.IsWhole) :
    l.isNamePart = true ↔ l.Spells isNameMark := by
  constructor
  · intro hp
    unfold isNamePart at hp
    split at hp
    case h_1 hk => exact .inl hk
    case h_6 hk =>
      obtain ⟨c, ht, -⟩ := h.unknown hk
      refine .inr ⟨c, ht, ?_⟩
      simp only [ht, List.all_cons, List.all_nil, Bool.and_true, Bool.or_eq_true] at hp
      rcases hp with hd | hu <;> simp_all [isNameMark]
    case h_7 => simp at hp
    all_goals
      rename_i hk
      exact .inr ⟨_, h.text_eq (by rw [hk]; rfl), by decide⟩
  · rintro (hk | ⟨c, ht, hm⟩)
    · simp [isNamePart, hk]
    · have hpart := forall_isNameMark (P := fun c => isNamePart ⟨(leading c []).1, [c]⟩ = true)
        (by decide +kernel) hm
      rwa [← h.kind_eq ht, ← ht] at hpart

/-- The part of a text that the name of a tag takes consists of the first lexemes of the text. -/
theorem splitTagName_eq {u : Text} (hu : u.isWords isNameMark = true) :
    splitTagName u =
      (joined ((ofText u).takeWhile isTagPart), joined ((ofText u).dropWhile isTagPart)) := by
  fun_induction ofText u with
  | case1 => rfl
  | case2 c rest ih =>
    have hl := leads_leading c rest
    rcases hl.of_isWords (fun _ => id) hu with ⟨hc, hk, hn⟩ | ⟨hc, hm, hn, hrest⟩
    · have hrest : isWordsFrom isNameMark true rest = true := by
        simpa [isWords, isWordsFrom, inWordBy, hc] using hu
      have hpart : (first c rest).isTagPart = true := by simp [isTagPart, first, hk]
      rw [behind, hn] at ih ⊢
      have hword : inWordBy false c = true := by simp [inWordBy, hc]
      rw [List.takeWhile_cons_of_pos hpart, List.dropWhile_cons_of_pos hpart, splitTagName,
        splitTagNameFrom, if_pos hword, splitTagNameFrom_run, ih (isWordsFrom_run hrest)]
      simp [first, hn]
    · have htext : (first c rest).text = [c] := by rw [first, hn, List.take_zero]
      have hword : inWordBy false c = false := by simp [inWordBy, hc]
      have hpart : (first c rest).isTagPart = isTagMark c := by
        rw [Bool.eq_iff_iff, isTagPart_iff (isWhole_first c rest)]
        refine ⟨?_, fun hm => .inr ⟨c, htext, hm⟩⟩
        rintro (hk | ⟨d, hd, hm⟩)
        · obtain ⟨d, r, hd, ha, -⟩ := (isWhole_first c rest).word hk
          simp_all
        · simp_all
      rw [behind, hn] at ih ⊢
      rw [List.drop_zero] at ih ⊢
      rw [splitTagName, splitTagNameFrom, hword]
      cases hm : isTagMark c with
      | false => simp [hpart, hm, htext, joined_ofText]
      | true =>
        have ih := ih hrest
        rw [splitTagName] at ih
        simp [hpart, hm, htext, ih]

end MarkupOrder.Lexeme
