import MarkupOrder.Proofs.Token.Words

/-!
# Reading the pieces of a tag

Each piece of a tag is read back from its text if what follows it neither goes on with it nor is
drawn into its last lexeme: names (`upTo_name`, `tagName_append`), white space (`blank_append`),
values in quotes (`Attribute.readQuoted_append`) and without them (`Attribute.readUnquoted_append`).
-/

namespace MarkupOrder

open Unicode Text

namespace Lexeme

theorem upTo_append {stop : Lexeme → Bool} {ks ls : List Lexeme} (hks : ∀ l ∈ ks, stop l = false)
    (hls : ls.head?.all stop = true) : upTo stop (ks ++ ls) = (joined ks, ls) := by
  have hgo : ∀ l ∈ ks, (!stop l) = true := by
    intro l hl
    rw [hks l hl]
    rfl
  have hstop : ls.takeWhile (fun l => !stop l) = [] ∧ ls.dropWhile (fun l => !stop l) = ls := by
    cases ls with
    | nil => exact ⟨rfl, rfl⟩
    | cons l ls => simp_all
  rw [upTo, List.takeWhile_append_of_pos hgo, List.dropWhile_append_of_pos hgo, hstop.1, hstop.2,
    List.append_nil]

/-! ## Names and white space -/

theorem isNamePart_of_isWords {u : Text} (hu : u.isWords isNameMark = true) :
    ∀ l ∈ ofText u, l.isNamePart = true := fun l hl =>
  (isNamePart_iff ((stands_ofText u).isWhole hl)).2 (spells_of_isWords (fun _ => id) hu l hl)

theorem upTo_name {u t : Text} (hu : u.isWords isNameMark = true) (hs : Stands (ofText u) t)
    (ht : (ofText t).head?.all (fun l => !l.isNamePart) = true) :
    upTo (fun l => !l.isNamePart) (ofText (u ++ t)) = (u, ofText t) := by
  rw [ofText_append hs, upTo_append _ ht, joined_ofText]
  intro l hl
  rw [isNamePart_of_isWords hu l hl]
  rfl

theorem tagName_append {u t : Text} (hu : u.isWords isTagMark = true) (hs : Stands (ofText u) t)
    (ht : (ofText t).head?.all (fun l => !l.isTagPart) = true) :
    tagName (ofText (u ++ t)) = (u, ofText t) := by
  rw [tagName_eq, ofText_append hs, upTo_append _ ht, joined_ofText]
  intro l hl
  rw [(isTagPart_iff (hs.isWhole hl)).2
    (spells_of_isWords (fun _ => isNameMark_of_isTagMark) hu l hl)]
  rfl

theorem isTagPart_of_isNamePart {l : Lexeme} (h : l.isNamePart = false) : l.isTagPart = false := by
  obtain ⟨k, t⟩ := l
  cases k <;> first | rfl | cases h

/-- The marks in names, hyphens apart, are lexemes by themselves. -/
theorem kind_first_of_isNameMark {c : Char} (h : isNameMark c = true) (hc : c ≠ '-') (t : Text) :
    (first c t).kind ∈ [Kind.colon, .dot, .atSign, .unknown] := by
  obtain ⟨hw, ha, hopen, -⟩ := classes_of_isNameMark h
  have hp := forall_isNameMark (P := fun c => c = '-' ∨
    Kind.punctuation? c ∈ [some .colon, some .dot, some .atSign, none]) (by decide +kernel) h
  simp only [hc, false_or, List.mem_cons, List.not_mem_nil, or_false] at hp
  simp only [first, leading, hw, hopen, hc, ha, Bool.false_eq_true, false_and, if_false]
  rcases hp with hp | hp | hp | hp <;> simp [hp]

/-- A mark at which a tag's name is split off ends it, whatever follows. -/
theorem stands_of_splitTagName {u : Text} {c : Char} (hu : (u ++ [c]).isWords isNameMark = true)
    (hsplit : splitTagName (u ++ [c]) = (u, [c])) (hc : c ≠ '-') (t : Text) :
    Stands (ofText u) (c :: t) := by
  have hs := stands_ofText (u ++ [c])
  rw [splitTagName_eq hu, Prod.mk.injEq] at hsplit
  rw [← List.takeWhile_append_dropWhile (p := isTagPart) (l := ofText (u ++ [c])), stands_append,
    hsplit.2] at hs
  have hparts := hs.1.alone.ofText_joined
  rw [hsplit.1] at hparts
  rw [← hparts] at hs
  exact hs.1.append (by simp) (by simpa using hc) t

theorem blank_cons {l : Lexeme} (h : l.kind ≠ .whitespace) (ls : List Lexeme) :
    blank (l :: ls) = ([], l :: ls) := by
  obtain ⟨k, t⟩ := l
  cases k with
  | whitespace => exact absurd rfl h
  | _ => rfl

theorem blank_append {w t : Text} (hw : w.all isWhitespace = true)
    (ht : t.head?.any isWhitespace = false) : blank (ofText (w ++ t)) = (w, ofText t) := by
  by_cases hne : w = []
  · subst hne
    rw [List.nil_append]
    cases t with
    | nil => rw [ofText_nil]; rfl
    | cons c t =>
      have hk : (leading c t).1 ≠ .whitespace := by
        intro hk
        have hl := leads_leading c t
        rw [hk] at hl
        generalize hn : (leading c t).2 = n at hl
        cases hl with
        | whitespace h => simp [h] at ht
        | punctuation h => cases Kind.text?_of_punctuation h
      rw [ofText_cons, blank_cons hk]
  · rw [ofText_blank hne hw ht]
    rfl

/-! ## Values -/

/-- A value without quotes goes on as long as its characters allow. -/
theorem endsValue_eq_false_iff {l : Lexeme} (h : l.IsWhole) :
    l.endsValue = false ↔ l.text.all isBareMark = true := by
  cases hk : l.kind with
  | whitespace =>
    obtain ⟨c, r, ht⟩ := List.exists_cons_of_ne_nil h.ne_nil
    have hc := h.blank hk
    rw [ht, List.all_cons, Bool.and_eq_true] at hc
    simp [endsValue, hk, ht, isBareMark, hc.1]
  | identifier =>
    obtain ⟨c, r, ht, hc, hr⟩ := h.word hk
    have hc := isBareMark_of_isAlphanumeric (isAlphanumeric_of_isAlphabetic hc)
    have hr : ∀ d ∈ r, isBareMark d = true := fun d hd => isBareMark_of_isAlphanumeric (hr d hd)
    simpa [endsValue, hk, Kind.isQuote, ht, hc] using hr
  | unknown =>
    obtain ⟨c, ht, hw, hp, -⟩ := h.unknown hk
    have hmark : c ≠ '>' ∧ c ≠ '\x22' ∧ c ≠ '\x27' := by
      refine ⟨?_, ?_, ?_⟩ <;>
        · rintro rfl
          cases hp
    simp [endsValue, hk, Kind.isQuote, ht, isBareMark, isQuoteMark, hw, hmark]
  | endOfStream =>
    obtain ⟨c, r, -, hl⟩ := isWhole_iff.1 h
    rw [hk] at hl
    generalize r.length = n at hl
    cases hl with
    | punctuation h => cases Kind.text?_of_punctuation h
  | _ =>
    rw [h.text_eq (by rw [hk]; rfl), endsValue, hk]
    decide

theorem isFresh_of_isQuoteMark {c : Char} (h : isQuoteMark c = true) : isFresh c = true := by
  simp only [isQuoteMark, Bool.or_eq_true, beq_iff_eq] at h
  rcases h with rfl | rfl <;> decide

theorem ofText_quote {q : Char} (h : isQuoteMark q = true) : ∃ k, Kind.punctuation? q = some k ∧
    k.isQuote = true ∧ ∀ t, ofText (q :: t) = ⟨k, [q]⟩ :: ofText t := by
  simp only [isQuoteMark, Bool.or_eq_true, beq_iff_eq] at h
  rcases h with rfl | rfl <;>
    exact ⟨_, rfl, rfl, fun t => ofText_mark rfl (by simp) (by simp)⟩

/-- A quote is only found in its own lexeme. -/
theorem IsWhole.kind_of_quote {l : Lexeme} (h : l.IsWhole) {q : Char} {k : Kind}
    (hq : isQuoteMark q = true) (hk : Kind.punctuation? q = some k) (hmem : q ∈ l.text) :
    l.kind = k := by
  have hbare : isBareMark q = false := by simp [isBareMark, hq]
  have hends : l.endsValue = true := by
    rw [← Bool.not_eq_false, endsValue_eq_false_iff h]
    exact fun hall => by simp [List.all_eq_true.1 hall q hmem] at hbare
  cases hkind : l.kind with
  | whitespace =>
    have hblank := List.all_eq_true.1 (h.blank hkind) q hmem
    rw [Kind.isWhitespace_of_punctuation hk] at hblank
    cases hblank
  | tagClose | commentEnd =>
    rw [h.text_eq (by rw [hkind]; rfl)] at hmem
    have hmarks : (['-', '-', '>'].all fun c => !isQuoteMark c) = true := by decide
    have hq' := List.all_eq_true.1 hmarks q (by simp_all)
    rw [hq] at hq'
    cases hq'
  | singleQuote | doubleQuote =>
    rw [h.text_eq (by rw [hkind]; rfl), List.mem_singleton] at hmem
    subst hmem
    exact Option.some.inj hk
  | _ => simp [endsValue, hkind, Kind.isQuote] at hends

/-- What does not go on with a value without quotes begins with a lexeme that ends it. -/
theorem head?_ofText_endsValue {t : Text} (ht : t.head?.any isBareMark = false) :
    (ofText t).head?.all (fun l => l.endsValue && l.kind != .commentEnd) = true := by
  cases t with
  | nil => simp
  | cons c t =>
    have hc : isBareMark c = false := ht
    have hends : (first c t).endsValue = true := by
      rw [← Bool.not_eq_false, endsValue_eq_false_iff (isWhole_first c t)]
      simp [first, hc]
    have hkind : (first c t).kind ≠ .commentEnd := by
      intro hk
      have htext := (isWhole_first c t).text_eq (by rw [hk]; rfl)
      obtain rfl : c = '-' := (List.cons.inj htext).1
      revert hc
      decide
    simp [ofText_cons, hends, hkind]

theorem endsValue_of_isBare {v : Text} (hv : v.isBare = true) :
    ∀ l ∈ ofText v, l.endsValue = false := by
  intro l hl
  simp only [isBare, Bool.and_eq_true, List.all_eq_true] at hv
  refine (endsValue_eq_false_iff ((stands_ofText v).isWhole hl)).2 ?_
  refine List.all_eq_true.2 fun c hc => hv.2 c ?_
  rw [← joined_ofText v]
  exact List.mem_flatMap.2 ⟨l, hl, hc⟩

/-- A value without quotes stands before a text that does not go on with it, unless its last two
hyphens are drawn into the end of a comment. -/
theorem stands_of_isBare {v t : Text} (hv : v.isBare = true) (ht : t.head?.any isBareMark = false)
    (hend : t.head? = some '>' → ¬ [hyphen, hyphen] <:+ ofText v) : Stands (ofText v) t := by
  cases t with
  | nil => exact stands_ofText v
  | cons c t =>
    by_cases hc : c = '>'
    · subst hc
      exact (stands_ofText v).beforeClose (hend rfl) t
    · by_cases hw : isWhitespace c = true
      · refine (stands_ofText v).beforeBlank ?_ (by simpa using hw)
        intro l hl hk
        simpa [endsValue, hk] using endsValue_of_isBare hv l hl
      · have hquote : isQuoteMark c = true := by simpa [isBareMark, hw, hc] using ht
        exact (stands_ofText v).before (by simp [isFresh_of_isQuoteMark hquote])

end Lexeme

namespace Attribute

open Lexeme

/-- A value in quotes is read back before any text. -/
theorem readQuoted_append {q : Char} {k : Kind} {content t : Text}
    (hk : Kind.punctuation? q = some k) (hq : isQuoteMark q = true) (hquote : k.isQuote = true)
    (hmem : q ∉ content) (hmark : ofText (q :: t) = ⟨k, [q]⟩ :: ofText t) :
    readQuoted ⟨k, [q]⟩ (ofText (content ++ q :: t)) = .ok (q :: (content ++ [q]), ofText t) := by
  have hs : Stands (ofText content) (q :: t) :=
    (stands_ofText content).before (by simp [isFresh_of_isQuoteMark hq])
  have hup : upTo (fun l => l.kind == k) (ofText (content ++ q :: t)) =
      (content, ⟨k, [q]⟩ :: ofText t) := by
    rw [ofText_append hs, hmark, upTo_append _ (by simp), joined_ofText]
    intro l hl
    refine beq_eq_false_iff_ne.2 fun hlk => hmem ?_
    have htext := (hs.isWhole hl).text_eq (by rw [hlk]; exact Kind.text?_of_punctuation hk)
    have hjoin : q ∈ joined (ofText content) :=
      List.mem_flatMap.2 ⟨l, hl, by simp [htext]⟩
    rwa [joined_ofText] at hjoin
  have hmeet : (Expectation.quoteEnd k).meet (⟨k, [q]⟩ :: ofText t) = .ok (ofText t) := by
    simp [Expectation.meet, Expectation.kind]
  rw [readQuoted, if_pos hquote]
  simp only [hup]
  rw [hmeet]
  rfl

/-- A value without quotes is read back before a text that does not go on with it. -/
theorem readUnquoted_append {v t : Text} (hv : v.isBare = true)
    (ht : t.head?.any isBareMark = false) :
    readUnquoted (ofText (v ++ t)) = .ok (v, ofText t) := by
  have hparts := endsValue_of_isBare hv
  by_cases hend : t.head? = some '>' → ¬ [hyphen, hyphen] <:+ ofText v
  · have hhead := head?_ofText_endsValue ht
    have hup : upTo endsValue (ofText (v ++ t)) = (v, ofText t) := by
      rw [ofText_append (stands_of_isBare hv ht hend), upTo_append hparts, joined_ofText]
      cases h : ofText t <;> simp_all
    rw [readUnquoted, hup]
    split
    · rename_i h
      simp only [Prod.mk.injEq] at h
      rw [h.2] at hhead
      simp at hhead
    · rename_i h
      cases h
      cases hv
    · rename_i h
      cases h
      rfl
  · -- the hyphens come back from the end of a comment, and its `>` is made up
    obtain ⟨hclose, hsuffix⟩ := Classical.not_imp.1 hend
    obtain ⟨ks, hks⟩ := not_not.1 hsuffix
    obtain ⟨t, rfl⟩ := List.head?_eq_some_iff.1 hclose
    have hs := stands_ofText v
    rw [← hks, stands_append] at hs
    have hs : Stands ks ('-' :: '-' :: '>' :: t) := hs.1.append (by decide) (by decide) ('>' :: t)
    have hjoin : joined ks ++ ['-', '-'] = v := by
      rw [← joined_ofText v, ← hks, joined_append]
      rfl
    have hup : upTo endsValue (ofText (v ++ '>' :: t)) =
        (joined ks, ⟨.commentEnd, ['-', '-', '>']⟩ :: ofText t) := by
      rw [← hjoin, List.append_assoc, List.cons_append, List.cons_append, List.nil_append,
        hs.ofText_append, ofText_commentEnd]
      exact upTo_append (fun l hl => hparts l (hks ▸ List.mem_append_left _ hl)) rfl
    rw [readUnquoted, hup, ofText_mark (t := t) (c := '>') rfl (by simp) (by simp)]
    simp [hjoin]

end Attribute

end MarkupOrder
