import MarkupOrder.Proofs.Token.Whole
import MarkupOrder.Token.Token

/-!
# Where texts can be cut

A lexeme is looked for up to three characters ahead. So what is behind a text can change its last
lexeme, or the last but one, and in a few places only.

* `Lexeme.Joins`: the places, told by the last kinds in front and the first characters behind.
* `Lexeme.stands_iff_not_joins`: the lexemes of a text stay as they are everywhere else, and only
  there. `Token.lexemes_append_iff` says this of the tokens of two texts.
* `Stands.before`, `Stands.beforeBlank`, `Stands.beforeClose`, `Stands.beforeCommentEnd`: what may
  follow lexemes.
-/

namespace MarkupOrder.Lexeme

open Unicode

/-- The last kinds of the lexemes in front of a text, and the first characters of the text, for
which some of these lexemes and characters become other lexemes. -/
inductive Joins (ks : List Kind) (t : Text) : Prop
  | blank (hk : [.whitespace] <:+ ks) (ht : t.head?.any isWhitespace = true)
  | word (hk : [.identifier] <:+ ks) (ht : t.head?.any isAlphanumeric = true)
  | bang (hk : [.tagOpen] <:+ ks) (ht : ['!'] <+: t)
  | hyphens (hk : [.bangTagStart] <:+ ks) (ht : ['-', '-'] <+: t)
  | hyphen (hk : [.bangTagStart, .minus] <:+ ks) (ht : ['-'] <+: t)
  | arrow (hk : [.minus] <:+ ks) (ht : ['-', '>'] <+: t)
  | close (hk : [.minus, .minus] <:+ ks) (ht : ['>'] <+: t)

variable {ls ms : List Lexeme} {ks : List Kind} {j k : Kind} {t : Text}

/-! ## The last lexeme and the one before it -/

theorem concat_suffix_concat_iff (is : List Kind) :
    is ++ [j] <:+ ks ++ [k] ↔ is <:+ ks ∧ j = k := by
  rw [← List.reverse_prefix, ← List.reverse_prefix, List.reverse_concat, List.reverse_concat,
    List.cons_prefix_cons, and_comm]

theorem singleton_suffix_concat_iff : [j] <:+ ks ++ [k] ↔ j = k :=
  (concat_suffix_concat_iff []).trans (and_iff_right List.nil_suffix)

/-- The last lexeme takes in some of the text, or it is a hyphen, and the lexeme before it takes in
the hyphen and some of the text. -/
theorem joins_concat_iff (u : Text) : Joins (ks ++ [k]) t ↔ drawsIn ⟨k, u⟩ t = true ∨
    k = .minus ∧ ([.bangTagStart] <:+ ks ∧ ['-'] <+: t ∨ [.minus] <:+ ks ∧ ['>'] <+: t) := by
  constructor
  · intro h
    cases h with
    | hyphen hk ht =>
      obtain ⟨hbefore, rfl⟩ := (concat_suffix_concat_iff [.bangTagStart]).1 hk
      exact .inr ⟨rfl, .inl ⟨hbefore, ht⟩⟩
    | close hk ht =>
      obtain ⟨hbefore, rfl⟩ := (concat_suffix_concat_iff [.minus]).1 hk
      exact .inr ⟨rfl, .inr ⟨hbefore, ht⟩⟩
    | _ hk ht =>
      obtain rfl := singleton_suffix_concat_iff.1 hk
      exact .inl (by simpa [drawsIn] using ht)
  · rintro (h | ⟨rfl, ⟨hk, ht⟩ | ⟨hk, ht⟩⟩)
    · have hk : [k] <:+ ks ++ [k] := List.suffix_append ks [k]
      cases k with
      | whitespace => exact .blank hk h
      | identifier => exact .word hk h
      | tagOpen => exact .bang hk (Text.startsWith_iff.1 h)
      | bangTagStart => exact .hyphens hk (Text.startsWith_iff.1 h)
      | minus => exact .arrow hk (Text.startsWith_iff.1 h)
      | _ => cases h
    · exact .hyphen ((concat_suffix_concat_iff [.bangTagStart]).2 ⟨hk, rfl⟩) ht
    · exact .close ((concat_suffix_concat_iff [.minus]).2 ⟨hk, rfl⟩) ht

theorem drawsIn_hyphen_iff {l : Lexeme} : l.drawsIn ('-' :: t) = true ↔
    .bangTagStart = l.kind ∧ ['-'] <+: t ∨ .minus = l.kind ∧ ['>'] <+: t := by
  have hclasses : isWhitespace '-' = false ∧ isAlphanumeric '-' = false := by decide
  obtain ⟨k, u⟩ := l
  cases k <;> simp [drawsIn, hclasses]

theorem IsWhole.stands_singleton_iff {l : Lexeme} (h : l.IsWhole) :
    Stands [l] t ↔ ¬ l.drawsIn t = true := by
  simp [stands_cons, h]

/-- Lexemes stand before a hyphen and what follows it unless the last one takes in both. -/
theorem stands_hyphen_iff (h : Stands ls ['-']) : Stands ls ('-' :: t) ↔
    ¬ ([.bangTagStart] <:+ ls.map (·.kind) ∧ ['-'] <+: t ∨
      [.minus] <:+ ls.map (·.kind) ∧ ['>'] <+: t) := by
  rcases List.eq_nil_or_concat ls with rfl | ⟨init, l, rfl⟩
  · simp
  · rw [List.concat_eq_append, stands_append] at h
    obtain ⟨hinit, hw, -⟩ := h
    have hbefore : Stands init (joined [l] ++ ['-'] ++ t) :=
      hinit.append (by simp) (by simp [hw.ne_nil]) t
    rw [List.append_assoc] at hbefore
    rw [List.concat_eq_append, stands_append, List.map_append, List.map_singleton,
      singleton_suffix_concat_iff, singleton_suffix_concat_iff, ← drawsIn_hyphen_iff,
      hw.stands_singleton_iff]
    exact and_iff_right hbefore

/-- **Lexemes stay as they are unless they join with what follows.** -/
theorem stands_iff_not_joins (h : Stands ls []) : Stands ls t ↔ ¬ Joins (ls.map (·.kind)) t := by
  rcases List.eq_nil_or_concat ls with rfl | ⟨init, l, rfl⟩
  · refine iff_of_true trivial fun hjoins => ?_
    cases hjoins <;> simp_all
  · rw [List.concat_eq_append, stands_append, List.append_nil] at h
    obtain ⟨hinit, hw, -⟩ := h
    rw [List.concat_eq_append, List.map_append, List.map_singleton, joins_concat_iff l.text, not_or,
      stands_append, hw.stands_singleton_iff, and_comm]
    refine and_congr_right fun _ => ?_
    by_cases hk : l.kind = .minus
    · have ht : joined [l] = ['-'] := by simpa using hw.text_eq (by rw [hk]; rfl)
      rw [ht] at hinit
      rw [ht, List.singleton_append, stands_hyphen_iff hinit, and_iff_right hk]
    · -- Two characters, or one that is no hyphen, tell that the lexemes before the last one stand.
      have ht : joined [l] ≠ ['-'] := by
        intro ht
        rw [hw.eq_hyphen (by simpa using ht)] at hk
        exact hk rfl
      exact iff_of_true (hinit.append (by simp [hw.ne_nil]) ht t) fun h => hk h.1

/-! ## What may follow -/

/-- A character that no lexeme in front of it takes in. -/
def isFresh (c : Char) : Bool :=
  !(isAlphanumeric c || isWhitespace c || c == '!' || c == '-' || c == '>')

namespace Joins

/-- A fresh character joins with nothing. -/
theorem head?_isFresh (h : Joins ks t) : t.head?.all isFresh = false := by
  cases h with
  | blank _ ht | word _ ht =>
    cases t with
    | nil => cases ht
    | cons c t =>
      rw [List.head?_cons, Option.any_some] at ht
      simp [isFresh, ht]
  | _ _ ht =>
    obtain ⟨u, rfl⟩ := ht
    rw [List.cons_append, List.head?_cons, Option.all_some]
    decide

/-- White space joins with white space only. -/
theorem whitespace_suffix (h : Joins ks t) (ht : t.head?.all isWhitespace = true) :
    [.whitespace] <:+ ks := by
  cases h with
  | blank hk _ => exact hk
  | word _ hw =>
    cases t with
    | nil => cases hw
    | cons c t =>
      have hc : isAlphanumeric c = false := isAlphanumeric_of_isWhitespace ht
      rw [List.head?_cons, Option.any_some, hc] at hw
      cases hw
  | bang _ hp =>
    obtain ⟨u, rfl⟩ := hp
    exact absurd ht (show ¬ isWhitespace '!' = true by decide)
  | hyphens _ hp | hyphen _ hp | arrow _ hp =>
    obtain ⟨u, rfl⟩ := hp
    exact absurd ht (show ¬ isWhitespace '-' = true by decide)
  | close _ hp =>
    obtain ⟨u, rfl⟩ := hp
    exact absurd ht (show ¬ isWhitespace '>' = true by decide)

/-- `>` joins with two hyphens only. -/
theorem minus_suffix (h : Joins ks ('>' :: t)) : [.minus, .minus] <:+ ks := by
  cases h with
  | blank _ hc => exact absurd hc (show ¬ isWhitespace '>' = true by decide)
  | word _ hc => exact absurd hc (show ¬ isAlphanumeric '>' = true by decide)
  | close hk _ => exact hk
  | _ _ hp => simp at hp

/-- Two hyphens join with the start of a declaration only, or with it and another hyphen. -/
theorem bangTagStart_suffix (h : Joins ks ('-' :: '-' :: t)) :
    [.bangTagStart] <:+ ks ∨ [.bangTagStart, .minus] <:+ ks := by
  cases h with
  | blank _ hc => exact absurd hc (show ¬ isWhitespace '-' = true by decide)
  | word _ hc => exact absurd hc (show ¬ isAlphanumeric '-' = true by decide)
  | hyphens hk _ => exact .inl hk
  | hyphen hk _ => exact .inr hk
  | _ _ hp => simp at hp

end Joins

/-- Whole lexemes of kinds that have one text only are told by their kinds. -/
theorem eq_of_kinds (hls : ∀ l ∈ ls, l.IsWhole) (hms : ∀ m ∈ ms, m.IsWhole)
    (htext : ∀ m ∈ ms, m.kind.text?.isSome = true) (h : ls.map (·.kind) = ms.map (·.kind)) :
    ls = ms := by
  induction ms generalizing ls with
  | nil => exact List.map_eq_nil_iff.1 h
  | cons m ms ih =>
    obtain ⟨l, ls, rfl, hk, hkinds⟩ := List.map_eq_cons_iff.1 h
    rw [List.forall_mem_cons] at hls hms htext
    obtain ⟨u, hu⟩ := Option.isSome_iff_exists.1 htext.1
    have hm : m.text = u := hms.1.text_eq hu
    have hl : l.text = u := hls.1.text_eq (by rwa [hk])
    rw [ih hls.2 hms.2 htext.2 hkinds, show l = m by cases l; cases m; simp_all]

theorem suffix_of_kinds (hls : ∀ l ∈ ls, l.IsWhole) (hms : ∀ m ∈ ms, m.IsWhole)
    (htext : ∀ m ∈ ms, m.kind.text?.isSome = true) (h : ms.map (·.kind) <:+ ls.map (·.kind)) :
    ms <:+ ls := by
  obtain ⟨ns, hns, hkinds⟩ := List.suffix_map_iff.1 h
  rwa [eq_of_kinds (fun n hn => hls n (hns.subset hn)) hms htext hkinds.symm] at hns

namespace Stands

/-- Lexemes stand before a fresh character. -/
theorem before (h : Stands ls []) (ht : t.head?.all isFresh = true) : Stands ls t := by
  refine (stands_iff_not_joins h).2 fun hjoins => ?_
  rw [hjoins.head?_isFresh] at ht
  cases ht

/-- Lexemes stand before white space unless they are white space themselves. -/
theorem beforeBlank (h : Stands ls []) (hls : ∀ l ∈ ls, l.kind ≠ .whitespace)
    (ht : t.head?.all isWhitespace = true) : Stands ls t := by
  refine (stands_iff_not_joins h).2 fun hjoins => ?_
  obtain ⟨l, hl, hk⟩ := List.mem_map.1 ((hjoins.whitespace_suffix ht).subset List.mem_cons_self)
  exact hls l hl hk

/-- Lexemes stand before `>` unless two hyphens are the last of them. -/
theorem beforeClose (h : Stands ls []) (hls : ¬ [hyphen, hyphen] <:+ ls) (t : Text) :
    Stands ls ('>' :: t) := by
  refine (stands_iff_not_joins h).2 fun hjoins => hls ?_
  exact suffix_of_kinds (fun l => h.isWhole) (by simp [isWhole_hyphen]) (by decide)
    hjoins.minus_suffix

/-- Before the end of a comment, lexemes stand unless there is the start of a declaration. -/
theorem beforeCommentEnd (h : Stands ls []) (hls : ∀ l ∈ ls, l.kind ≠ .bangTagStart) (t : Text) :
    Stands ls ('-' :: '-' :: '>' :: t) := by
  refine (stands_iff_not_joins h).2 fun hjoins => ?_
  have hmem : .bangTagStart ∈ ls.map (·.kind) := by
    rcases hjoins.bangTagStart_suffix with hk | hk <;> exact hk.subset List.mem_cons_self
  obtain ⟨l, hl, hk⟩ := List.mem_map.1 hmem
  exact hls l hl hk

end Stands

/-! ## Two texts -/

/-- A text is cut into lexemes piece by piece where the lexemes of the first piece stand. -/
theorem ofText_append {u t : Text} (h : Stands (ofText u) t) :
    ofText (u ++ t) = ofText u ++ ofText t := by
  have := h.ofText_append
  rwa [joined_ofText] at this

theorem stands_of_ofText_append {u t : Text} (h : ofText (u ++ t) = ofText u ++ ofText t) :
    Stands (ofText u) t := by
  have hs := stands_ofText (u ++ t)
  rw [h, stands_append, joined_ofText, List.append_nil] at hs
  exact hs.1

theorem ofText_append_iff (u t : Text) :
    ofText (u ++ t) = ofText u ++ ofText t ↔ ¬ Joins ((ofText u).map (·.kind)) t := by
  rw [← stands_iff_not_joins (stands_ofText u)]
  exact ⟨stands_of_ofText_append, ofText_append⟩

end MarkupOrder.Lexeme

namespace MarkupOrder.Token

open Lexeme

theorem map_toLexeme_locate (p : Position) (ls : List Lexeme) :
    (locate p ls).map (·.toLexeme) = ls ++ [⟨.endOfStream, []⟩] := by
  induction ls generalizing p with
  | nil => rfl
  | cons l ls ih => rw [locate, List.map_cons, ih, List.cons_append]

theorem map_toLexeme_dropLast (t : Text) :
    (ofText t).dropLast.map (·.toLexeme) = Lexeme.ofText t := by
  rw [List.map_dropLast, ofText, map_toLexeme_locate, List.dropLast_concat]

/-- **Where texts can be cut.** The tokens of two texts, one behind the other, are, places apart,
those of the first without its end and those of the second if and only if the first does not join
with the second. The text of each token, by itself, is this token. -/
theorem lexemes_append_iff (a b : Text) :
    ((ofText (a ++ b)).map (·.toLexeme) = ((ofText a).dropLast ++ ofText b).map (·.toLexeme) ↔
      ¬ Joins ((ofText a).dropLast.map (·.kind)) b) ∧
    ∀ t ∈ (ofText a).dropLast,
      (ofText t.text).map (·.toLexeme) = [t.toLexeme, ⟨.endOfStream, []⟩] := by
  have hkinds : (ofText a).dropLast.map (·.kind) = (Lexeme.ofText a).map (·.kind) := by
    rw [← map_toLexeme_dropLast, List.map_map]
    rfl
  constructor
  · rw [hkinds, ← Lexeme.ofText_append_iff, List.map_append, map_toLexeme_dropLast, ofText, ofText,
      map_toLexeme_locate, map_toLexeme_locate, ← List.append_assoc, List.append_cancel_right_eq]
  · intro t ht
    have hmem : t.toLexeme ∈ Lexeme.ofText a := by
      rw [← map_toLexeme_dropLast]
      exact List.mem_map_of_mem ht
    have hwhole : Lexeme.ofText t.text = [t.toLexeme] := (stands_ofText a).isWhole hmem
    rw [ofText, map_toLexeme_locate, hwhole, List.singleton_append]

end MarkupOrder.Token
