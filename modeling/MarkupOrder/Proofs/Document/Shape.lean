import MarkupOrder.Proofs.Document.RoundTrip

/-!
# The shape of documents

* `Attribute.IsShaped`, `OpeningTag.IsShaped`, `Node.IsShaped`: which characters can stand where.
* `Node.IsLegible.isShaped`: what can be read back has this shape.
* `Document.shape_of_parse`: so has every node of a document.
-/

namespace MarkupOrder

open Unicode Text Lexeme

/-- The shape of an attribute: its name is of letters, digits and a few marks, none of which wraps a
name, and begins with a letter if nothing wraps it. Its value stands between two quotes and does not
hold them, or it holds no white space, quotes or `>`. -/
structure Attribute.IsShaped (a : Attribute) : Prop where
  name : ∀ c ∈ a.name, (isAlphanumeric c = true ∨ c ∈ ['-', ':', '.', '@', '_']) ∧
    c ∉ ['[', ']', '(', ')', '#', '*']
  plain : a.wrapper = .plain → ∃ c t, a.name = c :: t ∧ isAlphabetic c = true
  value : ∀ value, a.value? = some value →
    (∃ q ∈ ['\x22', '\x27'], ∃ content, q ∉ content ∧ value = q :: (content ++ [q])) ∨
      (value ≠ [] ∧ ∀ c ∈ value, isWhitespace c = false ∧ c ∉ ['>', '\x22', '\x27'])

/-- The shape of a tag: its name is of letters, digits and hyphens, there is white space for every
attribute, and nothing but white space stands between them. -/
structure OpeningTag.IsShaped (tag : OpeningTag) : Prop where
  name : ∀ c ∈ tag.name, isAlphanumeric c = true ∨ c = '-'
  length_eq : tag.slotWhitespace.length = tag.attributes.length
  slots : ∀ w ∈ tag.slotWhitespace, ∀ c ∈ w, isWhitespace c = true
  trailing : ∀ c ∈ tag.trailingWhitespace, isWhitespace c = true
  attributes : ∀ a ∈ tag.attributes, a.IsShaped

/-- The shape of a node. A `<` in a text is part of a declaration that does not begin it. -/
def Node.IsShaped : Node → Prop
  | text content => content ≠ [] ∧ content.head? ≠ some '<' ∧
      ∀ before behind, content = before ++ '<' :: behind →
        ∃ rest, behind = '!' :: rest ∧ ¬ ['-', '-'] <+: rest
  | openingTag tag => tag.IsShaped
  | closingTag name => ∀ c ∈ name, isAlphanumeric c = true ∨ c = '-'
  | comment _ | bangTag _ => True

/-! ## Characters -/

theorem Unicode.isAlphanumeric_ne_wrapping {c : Char} (h : isAlphanumeric c = true) :
    c ∉ ['[', ']', '(', ')', '#', '*'] := by
  have hwrapping : (['[', ']', '(', ')', '#', '*'].all fun c => !isAlphanumeric c) = true := by decide
  intro hc
  simpa [h] using List.all_eq_true.1 hwrapping c hc

namespace Text

/-- Of the marks in the names of attributes, the digits count as letters and digits. -/
theorem shape_of_isNameMark {c : Char} (h : isNameMark c = true) :
    (isAlphanumeric c = true ∨ c ∈ ['-', ':', '.', '@', '_']) ∧
      c ∉ ['[', ']', '(', ')', '#', '*'] :=
  forall_isNameMark (P := fun c => (isAlphanumeric c = true ∨ c ∈ ['-', ':', '.', '@', '_']) ∧
    c ∉ ['[', ']', '(', ')', '#', '*']) (by decide +kernel) h

theorem forall_of_isTagName {t : Text} (h : t.isWords isTagMark = true) :
    ∀ c ∈ t, isAlphanumeric c = true ∨ c = '-' := by
  intro c hc
  simpa [isTagMark] using forall_of_isWords h c hc

theorem opensBangTags_append {t u : Text} (ht : '<' ∉ t) (hu : u.opensBangTags = true) :
    (t ++ u).opensBangTags = true := by
  induction t with
  | nil => exact hu
  | cons c t ih =>
    rw [List.mem_cons, not_or] at ht
    rw [List.cons_append, opensBangTags, ih ht.2, Bool.and_true, Bool.or_eq_true]
    exact .inl (by simpa using Ne.symm ht.1)

theorem exists_of_opensBangTags {t before behind : Text} (h : t.opensBangTags = true)
    (ht : t = before ++ '<' :: behind) : ∃ rest, behind = '!' :: rest ∧ ¬ ['-', '-'] <+: rest := by
  have hdrop := opensBangTags_drop h before.length
  rw [ht, List.drop_left, opensBangTags, Bool.and_eq_true] at hdrop
  have hopen : ['!'] <+: behind ∧ ¬ ['!', '-', '-'] <+: behind := by simpa using hdrop.1
  obtain ⟨⟨rest, rfl⟩, hcomment⟩ := hopen
  refine ⟨rest, rfl, ?_⟩
  rintro ⟨rest, rfl⟩
  exact hcomment ⟨rest, rfl⟩

end Text

namespace Lexeme

/-- No lexeme takes in a `<` behind its first character. -/
theorem Leads.not_mem_take {c : Char} {rest : Text} {k : Kind} {n : Nat} (h : Leads rest c k n) :
    '<' ∉ rest.take n := by
  have hrun {test : Char → Bool} (htest : test '<' = false) : '<' ∉ rest.take (rest.run test) := by
    rw [Text.run, ← List.prefix_iff_eq_take.1 (List.takeWhile_prefix test)]
    intro hmem
    simpa [htest] using List.mem_takeWhile_imp hmem
  cases h with
  | whitespace => exact hrun (by decide)
  | identifier => exact hrun (by decide)
  | commentStart h | bangTagStart h | commentEnd h =>
    obtain ⟨t, rfl⟩ := h
    simp
  | punctuation | unknown => simp

theorem Leads.mem_of_open {rest : Text} {k : Kind} {n : Nat} (h : Leads rest '<' k n) :
    k ∈ [Kind.tagOpen, .bangTagStart, .commentStart] := by
  cases h with
  | punctuation h =>
    cases h
    simp
  | commentStart | bangTagStart => simp
  | whitespace h => cases h
  | identifier h => cases h
  | unknown _ h => cases h

/-- Where nothing ends a text, every `<` begins a declaration. -/
theorem opensBangTags_of_endsText {t : Text} (h : ∀ l ∈ ofText t, SourceNode.endsText l = false) :
    t.opensBangTags = true := by
  fun_induction ofText t with
  | case1 => rfl
  | case2 c rest ih =>
    obtain ⟨hfirst, hbehind⟩ := List.forall_mem_cons.1 h
    have hleads := leads_leading c rest
    have hrest : Text.opensBangTags rest = true := by
      rw [← List.take_append_drop (leading c rest).2 rest]
      exact opensBangTags_append hleads.not_mem_take (ih hbehind)
    rw [Text.opensBangTags, hrest, Bool.and_true]
    rw [SourceNode.endsText, first] at hfirst
    generalize (leading c rest).1 = k, (leading c rest).2 = n at hleads hfirst
    by_cases hc : c = '<'
    · subst hc
      have hkind : k = .bangTagStart := by
        have hmem := hleads.mem_of_open
        simp only [List.mem_cons, List.not_mem_nil, or_false] at hmem
        rcases hmem with rfl | rfl | rfl
        · cases hfirst
        · rfl
        · cases hfirst
      subst hkind
      cases hleads with
      | bangTagStart h hcomment => simp [h, hcomment]
      | punctuation h => cases h
    · simp [hc]

end Lexeme

/-! ## What can be read back has this shape -/

theorem Attribute.isShaped_of_isLegible {a : Attribute} (h : a.isLegible = true) : a.IsShaped := by
  obtain ⟨hname, hplain, hvalue⟩ := isLegible_iff.1 h
  refine ⟨fun c hc => ?_, fun hw => ?_, fun value hv => ?_⟩
  · rcases forall_of_isWords hname c hc with hc | hc
    · exact ⟨.inl hc, isAlphanumeric_ne_wrapping hc⟩
    · exact shape_of_isNameMark hc
  · obtain ⟨c, hc, halpha⟩ := (Option.any_eq_true _ _).1 (hplain hw)
    obtain ⟨t, ht⟩ := List.head?_eq_some_iff.1 hc
    exact ⟨c, t, ht, halpha⟩
  · rcases hvalue value hv with hquoted | hbare
    · obtain ⟨q, content, hq, hmem, rfl⟩ := inQuotes_iff.1 hquoted
      exact .inl ⟨q, by simpa [isQuoteMark] using hq, content, hmem, rfl⟩
    · simp only [isBare, isBareMark, isQuoteMark, Bool.and_eq_true, Bool.not_eq_true',
        List.isEmpty_eq_false_iff, List.all_eq_true] at hbare
      exact .inr ⟨hbare.1, fun c hc => by simpa [and_assoc] using hbare.2 c hc⟩

theorem OpeningTag.isShaped_of_isLegible {tag : OpeningTag} (h : tag.isLegible = true) :
    tag.IsShaped := by
  obtain ⟨hlen, hname, hslots, htrailing, -⟩ := isLegible_iff.1 h
  have hfst : tag.slots.map (·.1) = tag.slotWhitespace := List.map_fst_zip (Nat.le_of_eq hlen)
  have hsnd : tag.slots.map (·.2) = tag.attributes := List.map_snd_zip (Nat.le_of_eq hlen.symm)
  refine ⟨forall_of_isTagName hname, hlen, ?_, List.all_eq_true.1 htrailing, ?_⟩
  · rw [← hfst]
    exact List.forall_mem_map.2 fun p hp => List.all_eq_true.1 (hslots p hp).1
  · rw [← hsnd]
    exact List.forall_mem_map.2 fun p hp => Attribute.isShaped_of_isLegible (hslots p hp).2

theorem Node.IsLegible.isShaped {n : Node} (h : n.IsLegible) : n.IsShaped := by
  cases n with
  | text content =>
    obtain ⟨l, ls, hls, hkind, hends⟩ := h
    have hopens : content.opensBangTags = true := by
      refine opensBangTags_of_endsText ?_
      rw [hls, List.forall_mem_cons]
      refine ⟨?_, hends⟩
      simp only [List.mem_cons, not_or] at hkind
      simp [SourceNode.endsText, hkind]
    cases content with
    | nil => simp at hls
    | cons c t =>
      refine ⟨List.cons_ne_nil c t, fun hc => hkind ?_, fun _ _ => exists_of_opensBangTags hopens⟩
      cases hc
      rw [ofText_cons] at hls
      rw [← (List.cons.inj hls).1]
      exact (leads_leading '<' t).mem_of_open
  | openingTag tag => exact OpeningTag.isShaped_of_isLegible h
  | closingTag name => exact forall_of_isTagName h.1
  | comment | bangTag => trivial

/-- **The shape of documents.** In the nodes of a document, the characters that stand anywhere are
those that can stand there, whatever order the attributes of a tag have been brought into, and no
text stands before another text or before a declaration. -/
theorem Document.shape_of_parse {s : OrderSettings} {input : Text} {ns : List Node}
    (h : parse s input = .ok ns) :
    (∀ n ∈ ns, n.IsShaped) ∧ ns.IsChain fun m n => m.mayFollow n = true := by
  have hlegible := allLegible_of_parse h
  exact ⟨fun n hn => (hlegible.isLegible hn).isShaped, hlegible.isChain⟩

/-- The document `a <!b<c y x y=1>` has a text with a declaration in it, and a tag that names an
attribute twice and is in another order than its source. -/
theorem Document.shape_of_parse_repeated :
    let tag : OpeningTag := ⟨['c'], [⟨['x'], .plain, none⟩, ⟨['y'], .plain, some ['1']⟩,
      ⟨['y'], .plain, some ['1']⟩], [[' '], [' '], [' ']], [], false⟩
    let ns : List Node := [.text "a <!b".toList, .openingTag tag]
    parse ⟨[]⟩ "a <!b<c y x y=1>".toList = .ok ns ∧ (∀ n ∈ ns, n.IsShaped) ∧
      ns.IsChain fun m n => m.mayFollow n = true := by
  intro tag ns
  have h : parse ⟨[]⟩ "a <!b<c y x y=1>".toList = .ok ns := by
    simp only [ns, tag]
    cbv
  exact ⟨h, shape_of_parse h⟩

end MarkupOrder
