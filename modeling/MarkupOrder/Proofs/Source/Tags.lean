import MarkupOrder.Proofs.Source.Attributes

/-!
# Reading opening tags back

* `OpeningTag.readAttributes_of_read`, `OpeningTag.readAttributes_fails`,
  `OpeningTag.readAttributes_end`: one step of the reading.
* `OpeningTag.readAttributes_joinFrom`: the slots that are read where slots are written.
* `OpeningTag.readNamed_joinName`: the tag that is read where a name and slots are written.
-/

namespace MarkupOrder

open Unicode Text Lexeme

namespace OpeningTag

/-- The tag with more slots, its white space at the end and its slash. -/
def extend (tag : OpeningTag) (ls : List (Text × Attribute)) (trailing : Text) (slash : Bool) :
    OpeningTag :=
  ⟨tag.name, tag.attributes ++ ls.map (·.2), tag.slotWhitespace ++ ls.map (·.1), trailing, slash⟩

variable {tag : OpeningTag} {w t : Text} {l : Lexeme} {ls rest behind : List Lexeme} {a : Attribute}

@[simp] theorem extend_push (ls : List (Text × Attribute)) (trailing : Text) (slash : Bool) :
    (tag.push w a).extend ls trailing slash = tag.extend ((w, a) :: ls) trailing slash := by
  simp [extend, push]

@[simp] theorem extend_nil (trailing : Text) (slash : Bool) :
    tag.extend [] trailing slash = tag.finish trailing slash := by
  simp [extend, finish]

@[simp] theorem extend_named (name : Text) (ls : List (Text × Attribute)) (trailing : Text)
    (slash : Bool) : (named name).extend ls trailing slash = ofSlots name ls trailing slash := rfl

/-! ## Steps of the reading -/

theorem readAttributes_of_read (hb : blank ls = (w, l :: rest))
    (hr : Attribute.read (l :: rest) = .ok (a, behind)) :
    tag.readAttributes ls = (tag.push w a).readAttributes behind := by
  rw [readAttributes]
  split
  · rename_i h
    rw [hb] at h
    cases h
  · rename_i h
    rw [hb] at h ⊢
    cases h
    split
    · rename_i hk
      simp [Attribute.read, Wrapper.read?, hk] at hr
    · rename_i hk
      simp [Attribute.read, Wrapper.read?, hk] at hr
    · simp only [hr, remainder_ok]

theorem readAttributes_of_error {f : Failure} (hb : blank ls = (w, l :: rest))
    (hk : l.kind ≠ .slash ∧ l.kind ≠ .tagClose) (hr : Attribute.read (l :: rest) = .error f) :
    tag.readAttributes ls = .error f := by
  rw [readAttributes]
  split
  · rename_i h
    rw [hb] at h
    cases h
  · rename_i h
    rw [hb] at h
    cases h
    split
    · exact absurd ‹_› hk.1
    · exact absurd ‹_› hk.2
    · simp only [hr]

theorem readAttributes_of_slash (hb : blank ls = (w, l :: rest)) (hk : l.kind = .slash) :
    tag.readAttributes ls = .ok (tag.finish w true, rest) := by
  rw [readAttributes]
  split
  · rename_i h
    rw [hb] at h
    cases h
  · rename_i h
    rw [hb] at h ⊢
    cases h
    simp only [hk]

theorem readAttributes_of_close (hb : blank ls = (w, l :: rest)) (hk : l.kind = .tagClose) :
    tag.readAttributes ls = .ok (tag.finish w false, l :: rest) := by
  rw [readAttributes]
  split
  · rename_i h
    rw [hb] at h
    cases h
  · rename_i h
    rw [hb] at h ⊢
    cases h
    simp only [hk]

/-- Lexemes that neither begin an attribute nor end a tag cannot be read. -/
theorem readAttributes_fails (hk : l.kind ∈
    [.commentEnd, .doubleQuote, .singleQuote, .colon, .dot, .unknown, .equals]) :
    (tag.readAttributes (l :: rest)).toOption = none := by
  have hblank : l.kind ≠ .whitespace := by rintro h; simp [h] at hk
  have hclose : l.kind ≠ .slash ∧ l.kind ≠ .tagClose := by
    constructor <;> rintro h <;> simp [h] at hk
  have hread : Wrapper.read? (l :: rest) = none := by
    simp only [List.mem_cons, List.not_mem_nil, or_false] at hk
    rcases hk with h | h | h | h | h | h | h <;> simp [Wrapper.read?, h]
  have hr : Attribute.read (l :: rest) = .error ⟨.attributeName, l :: rest⟩ := by
    rw [Attribute.read, hread]
  rw [readAttributes_of_error (blank_cons hblank rest) hclose hr]
  rfl

theorem readAttributes_attribute (hw : w.all isWhitespace = true) (ha : a.isLegible = true)
    (ht : a.EndsBefore t) : tag.readAttributes (ofText (w ++ (a.render ++ t))) =
      (tag.push w a).readAttributes (ofText t) := by
  obtain ⟨c, u, hrender, hc⟩ := Attribute.exists_render_eq ha
  have hc : isWhitespace c = false := by
    rcases hc with ⟨-, hc⟩ | ⟨-, rfl⟩ | ⟨-, -, hc⟩
    · exact isWhitespace_of_isAlphanumeric (isAlphanumeric_of_isAlphabetic hc)
    · decide
    · simp only [List.mem_cons, List.not_mem_nil, or_false] at hc
      rcases hc with rfl | rfl | rfl | rfl <;> decide
  have hread := Attribute.read_append ha ht
  have hblank := blank_append (t := a.render ++ t) hw (by simp [hrender, hc])
  rw [hrender, List.cons_append, ofText_cons] at hread hblank
  rw [hrender, List.cons_append, readAttributes_of_read hblank hread]

theorem readAttributes_end {trailing : Text} (htrailing : trailing.all isWhitespace = true)
    (slash : Bool) (t : Text) : tag.readAttributes (ofText (trailing ++ (endMark slash ++ t))) =
      .ok (tag.finish trailing slash, ofText ('>' :: t)) := by
  have hclose : ofText ('>' :: t) = ⟨.tagClose, ['>']⟩ :: ofText t :=
    ofText_mark rfl (by simp) (by simp)
  cases slash with
  | false =>
    have hblank := blank_append (t := '>' :: t) htrailing (by simp; decide)
    rw [hclose] at hblank
    exact hclose ▸ readAttributes_of_close hblank rfl
  | true =>
    have hslash : ofText ('/' :: '>' :: t) = ⟨.slash, ['/']⟩ :: ofText ('>' :: t) :=
      ofText_mark rfl (by simp) (by simp)
    have hblank := blank_append (t := '/' :: '>' :: t) htrailing (by simp; decide)
    rw [hslash] at hblank
    exact readAttributes_of_slash hblank rfl

/-! ## Slots -/

/-- A name that ends in two hyphens is not read before `>`, which becomes the end of a comment. -/
theorem readAttributes_hyphens (hw : w.all isWhitespace = true) (ha : a.isLegible = true)
    (hend : a.ending = .name) (hhyphens : a.name.endsInHyphens = true) (t : Text) :
    (tag.readAttributes (ofText (w ++ (a.render ++ '>' :: t)))).toOption = none := by
  obtain ⟨hname, hword, -⟩ := Attribute.isLegible_iff.1 ha
  obtain ⟨hvalue, hclosing⟩ := Attribute.ending_eq_name_iff.1 hend
  obtain ⟨u, hu⟩ := List.isSuffixOf_iff_suffix.1 hhyphens
  rw [← hu] at hname hword
  have hwords : Text.isWords isNameMark u = true := isWords_of_append hname
  let a' : Attribute := { a with name := u }
  have ha' : a'.isLegible = true := by
    refine Attribute.isLegible_iff.2 ⟨hwords, fun hp => ?_, by simp [a', hvalue]⟩
    have hbegins := hword hp
    cases u with
    | nil => exact absurd hbegins (by decide)
    | cons c u => exact hbegins
  have hends : a'.EndsBefore ('-' :: '-' :: '>' :: t) := by
    have hend' : a'.ending = .name := Attribute.ending_eq_name_iff.2 ⟨hvalue, hclosing⟩
    rw [Attribute.EndsBefore, hend', ofText_commentEnd]
    exact ⟨by simp, stands_commentEnd hwords t, rfl⟩
  have hrender : a.render ++ '>' :: t = a'.render ++ '-' :: '-' :: '>' :: t := by
    simp [Attribute.render, Attribute.assignment, a', hvalue, hclosing, ← hu]
  rw [hrender, readAttributes_attribute hw ha' hends, ofText_commentEnd]
  exact readAttributes_fails (by simp)

/-- A value without quotes runs into the quoted value of the next attribute. -/
theorem readAttributes_clash (hw : w.all isWhitespace = true) (ha : a.isLegible = true)
    {b : Attribute} (hb : b.isLegible = true) (h : a.meet b = .clash) (t : Text) :
    (tag.readAttributes (ofText (w ++ (a.render ++ (b.render ++ t))))).toOption = none := by
  obtain ⟨hend, v, hv, hin⟩ := Attribute.meet_eq_clash_iff.1 h
  obtain ⟨hname, hword, -⟩ := Attribute.isLegible_iff.1 ha
  obtain ⟨hname', hword', -⟩ := Attribute.isLegible_iff.1 hb
  obtain ⟨value, hvalue, hbare⟩ := Attribute.ending_eq_bare_iff.1 hend
  obtain ⟨q, content, hq, -, rfl⟩ := inQuotes_iff.1 hin
  obtain ⟨k, -, hquote, hmark⟩ := ofText_quote hq
  -- the value goes on up to the quote that opens the other one
  let b' : Attribute := { b with value? := none }
  let a' : Attribute := { a with value? := some (value ++ (b'.render ++ ['='])) }
  have hmore : (b'.render ++ ['=']).all isBareMark = true := by
    have hb' : b'.isLegible = true := Attribute.isLegible_iff.2 ⟨hname', hword', by simp [b']⟩
    rw [List.all_append, Attribute.isBareMark_render hb' rfl]
    decide
  have hbare' := isBare_append hbare hmore
  have ha' : a'.isLegible = true :=
    Attribute.isLegible_iff.2 ⟨hname, hword, fun _ h => .inr (Option.some.inj h ▸ hbare')⟩
  have hends (u : Text) : a'.EndsBefore (q :: u) := by
    have hend' : a'.ending = .bare := Attribute.ending_eq_bare_iff.2 ⟨_, rfl, hbare'⟩
    rw [Attribute.EndsBefore, hend']
    simp [isBareMark, hq]
  have hrender : a.render ++ (b.render ++ t) = a'.render ++ q :: (content ++ q :: t) := by
    simp [Attribute.render, Attribute.assignment, a', b', hvalue, hv]
  rw [hrender, readAttributes_attribute hw ha' (hends _), hmark]
  refine readAttributes_fails ?_
  cases k with
  | singleQuote | doubleQuote => simp
  | _ => cases hquote

/-- The last attribute of a tag, where it ends before the end of the tag. -/
theorem readAttributes_last (hw : w.all isWhitespace = true) (ha : a.isLegible = true)
    {trailing : Text} (htrailing : trailing.all isWhitespace = true) {slash : Bool}
    (htail : a.EndsBefore (trailing ++ (endMark slash ++ t))) :
    (tag.readAttributes (ofText (w ++ (a.render ++ (trailing ++ (endMark slash ++ t)))))).toOption =
      some (tag.extend [(w, a)] trailing slash, ofText ('>' :: t)) := by
  rw [readAttributes_attribute hw ha htail, readAttributes_end htrailing, ← extend_push,
    extend_nil]
  rfl

/-- A value without quotes takes in the slash, and only `>` is left. -/
theorem readAttributes_bare (hw : w.all isWhitespace = true) (ha : a.isLegible = true)
    (hend : a.ending = .bare) (t : Text) :
    (tag.readAttributes (ofText (w ++ (a.render ++ '/' :: '>' :: t)))).toOption =
      (a.close [] true).map fun (a, slash) =>
        (tag.extend [(w, a)] [] slash, ofText ('>' :: t)) := by
  obtain ⟨value, hvalue, -⟩ := Attribute.ending_eq_bare_iff.1 hend
  let b : Attribute := { a with value? := some (value ++ ['/']) }
  have hclose : a.close [] true = some (b, false) := by
    simp [Attribute.close, hend, hvalue, b]
  have hrender : a.render ++ '/' :: '>' :: t = b.render ++ ([] ++ (endMark false ++ t)) := by
    simpa using congrArg (· ++ t) (Attribute.render_of_close hclose).symm
  have htail : b.EndsBefore ('>' :: t) := by
    apply Attribute.endsBefore_close
    intro h
    exact absurd (Attribute.ending_eq_name_iff.1 h).1 (by simp [b])
  rw [hclose, hrender]
  exact readAttributes_last hw (Attribute.isLegible_of_close ha hclose) List.all_nil htail

theorem readAttributes_closing (hw : w.all isWhitespace = true) (ha : a.isLegible = true)
    {trailing : Text} (htrailing : trailing.all isWhitespace = true) (slash : Bool) (t : Text) :
    (tag.readAttributes (ofText (w ++ (a.render ++ (trailing ++ (endMark slash ++ t)))))).toOption =
      (a.close trailing slash).map fun (a, slash) =>
        (tag.extend [(w, a)] trailing slash, ofText ('>' :: t)) := by
  cases trailing with
  | cons c trailing =>
    exact readAttributes_last hw ha htrailing (Attribute.endsBefore_blank ha (by simp) htrailing)
  | nil =>
    cases hend : a.ending with
    | closed =>
      have htail : a.EndsBefore ([] ++ (endMark slash ++ t)) := by
        cases slash with
        | true => exact Attribute.endsBefore_slash (by simp [hend])
        | false => exact Attribute.endsBefore_close (by simp [hend])
      simpa [Attribute.close, hend] using readAttributes_last hw ha htrailing htail
    | name =>
      cases slash with
      | true =>
        have htail : a.EndsBefore ([] ++ (endMark true ++ t)) :=
          Attribute.endsBefore_slash (by simp [hend])
        simpa [Attribute.close, hend] using readAttributes_last hw ha htrailing htail
      | false =>
        by_cases hhyphens : a.name.endsInHyphens = true
        · simpa [Attribute.close, hend, hhyphens] using readAttributes_hyphens hw ha hend hhyphens t
        · rw [Bool.not_eq_true] at hhyphens
          have htail : a.EndsBefore ([] ++ (endMark false ++ t)) :=
            Attribute.endsBefore_close fun _ => hhyphens
          simpa [Attribute.close, hend, hhyphens] using readAttributes_last hw ha htrailing htail
    | bare =>
      cases slash with
      | true => exact readAttributes_bare hw ha hend t
      | false =>
        have htail : a.EndsBefore ([] ++ (endMark false ++ t)) :=
          Attribute.endsBefore_close (by simp [hend])
        simpa [Attribute.close, hend] using readAttributes_last hw ha htrailing htail

/-- **The slots that are read where slots are written.** -/
theorem readAttributes_joinFrom {slots : List (Text × Attribute)}
    (hslots : SlotsLegible ((w, a) :: slots)) {trailing : Text}
    (htrailing : trailing.all isWhitespace = true) (slash : Bool) (t : Text) :
    (tag.readAttributes (ofText (w ++ (a.render ++ (written slots ++
      (trailing ++ (endMark slash ++ t))))))).toOption =
      (joinFrom trailing slash w a slots).map fun (ls, slash) =>
        (tag.extend ls trailing slash, ofText ('>' :: t)) := by
  fun_induction joinFrom trailing slash w a slots generalizing tag with
  | case1 w a =>
    obtain ⟨⟨hw, ha⟩, -⟩ := slotsLegible_cons.1 hslots
    rw [written_nil, List.nil_append, readAttributes_closing hw ha htrailing, Option.map_map]
    rfl
  | case2 w a v b rest hm ih =>
    obtain ⟨⟨hw, ha⟩, hrest⟩ := slotsLegible_cons.1 hslots
    obtain ⟨⟨hv, hb⟩, -⟩ := slotsLegible_cons.1 hrest
    have hends : a.EndsBefore
        (v ++ (b.render ++ (written rest ++ (trailing ++ (endMark slash ++ t))))) := by
      split at hm
      · rename_i hnil
        rw [List.isEmpty_iff.1 hnil]
        exact Attribute.endsBefore_of_apart hb hm
      · rename_i hne
        exact Attribute.endsBefore_blank ha (by simpa using hne) hv
    simp only [written_cons, List.append_assoc]
    rw [readAttributes_attribute hw ha hends, ih hrest, Option.map_map]
    simp only [extend_push]
    rfl
  | case3 w a v b rest c hm ih =>
    obtain ⟨⟨hw, ha⟩, hrest⟩ := slotsLegible_cons.1 hslots
    obtain ⟨⟨-, hb⟩, hrest⟩ := slotsLegible_cons.1 hrest
    split at hm
    · rename_i hv
      rw [← ih (slotsLegible_cons.2 ⟨⟨hw, Attribute.isLegible_of_meet ha hb hm⟩, hrest⟩),
        ← Attribute.render_of_meet hm, written_cons, List.isEmpty_iff.1 hv]
      simp only [List.nil_append, List.append_assoc]
    · cases hm
  | case4 w a v b rest hm =>
    obtain ⟨⟨hw, ha⟩, hrest⟩ := slotsLegible_cons.1 hslots
    obtain ⟨⟨-, hb⟩, -⟩ := slotsLegible_cons.1 hrest
    split at hm
    · rename_i hv
      rw [written_cons, List.isEmpty_iff.1 hv]
      simpa using readAttributes_clash hw ha hb hm _
    · cases hm

/-! ## Names -/

/-- Read the name of a tag and its attributes. -/
def readNamed (ls : List Lexeme) : Except Failure (OpeningTag × List Lexeme) :=
  (named (tagName ls).1).readAttributes (tagName ls).2

theorem readNamed_append {u : Text} (hu : u.isWords isTagMark = true) (hs : Stands (ofText u) t)
    (ht : (ofText t).head?.all (fun l => !l.isTagPart) = true) :
    readNamed (ofText (u ++ t)) = (named u).readAttributes (ofText t) := by
  rw [readNamed, tagName_append hu hs ht]

/-- What ends the name of an attribute ends the name of a tag. -/
theorem head?_isTagPart (ht : (ofText t).head?.all (fun l => !l.isNamePart) = true) :
    (ofText t).head?.all (fun l => !l.isTagPart) = true := by
  cases h : ofText t with
  | nil => rfl
  | cons l ls =>
    have hl : l.isNamePart = false := by simpa [h] using ht
    simp [isTagPart_of_isNamePart hl]

/-- A name of a tag that ends in two hyphens is not read before `>`. -/
theorem readNamed_hyphens {name : Text} (hname : name.isWords isTagMark = true)
    (hhyphens : name.endsInHyphens = true) (t : Text) :
    (readNamed (ofText (name ++ '>' :: t))).toOption = none := by
  obtain ⟨u, rfl⟩ := List.isSuffixOf_iff_suffix.1 hhyphens
  have hwords : Text.isWords isTagMark u = true := isWords_of_append hname
  have hstands := stands_commentEnd (isWords_isNameMark hwords) t
  rw [List.append_assoc, List.cons_append, List.cons_append, List.nil_append,
    readNamed_append hwords hstands (by rw [ofText_commentEnd]; rfl), ofText_commentEnd]
  exact readAttributes_fails (by simp)

/-- A name of a tag ends before the end of the tag unless the end of a comment is there. -/
theorem readNamed_end {name trailing : Text} (hname : name.isWords isTagMark = true)
    (htrailing : trailing.all isWhitespace = true) {slash : Bool}
    (h : trailing = [] → slash = false → name.endsInHyphens = false) (t : Text) :
    readNamed (ofText (name ++ (trailing ++ (endMark slash ++ t)))) =
      .ok ((named name).finish trailing slash, ofText ('>' :: t)) := by
  have hfollows : Stands (ofText name) (trailing ++ (endMark slash ++ t)) ∧
      (ofText (trailing ++ (endMark slash ++ t))).head?.all (fun l => !l.isNamePart) = true := by
    cases trailing with
    | cons c trailing => exact follows_blank (isWords_isNameMark hname) (by simp) htrailing
    | nil =>
      cases slash with
      | true => exact follows_mark (by simp)
      | false =>
        refine ⟨stands_close (h rfl rfl), ?_⟩
        rw [endMark_false, List.nil_append, List.singleton_append,
          ofText_mark (t := t) (c := '>') rfl (by simp) (by simp)]
        rfl
  rw [readNamed_append hname hfollows.1 (head?_isTagPart hfollows.2), readAttributes_end htrailing]

/-- A plain attribute that the name of the tag takes only a part of. -/
theorem readNamed_split {name start more : Text} {c : Char} (hname : name.isWords isTagMark = true)
    (ha : a.isLegible = true) (hp : a.wrapper = .plain)
    (hs : splitTagName a.name = (start, c :: more)) (t : Text) :
    readNamed (ofText (name ++ (a.name ++ t))) =
        (named (name ++ start)).readAttributes (ofText (c :: (more ++ t))) ∧
      (first c (more ++ t)).kind ∈ [Kind.colon, .dot, .atSign, .unknown] := by
  obtain ⟨hwords, hbegins, -⟩ := Attribute.isLegible_iff.1 ha
  obtain ⟨hmark, hc, -, hsplit⟩ := splitTagName_mark hname hwords (hbegins hp) hs
  have hstart := isWords_splitTagName a.name
  have happend := splitTagName_append a.name
  rw [hs] at hstart happend
  have hu := isWords_append hname hstart
  have huc : Text.isWords isNameMark (name ++ start ++ [c]) = true :=
    isWords_append (isWords_isNameMark hu)
      (by rw [isWords, isWordsFrom]; split <;> simp [hmark, isWordsFrom])
  have hkind := kind_first_of_isNameMark hmark hc (more ++ t)
  have hpart : (ofText (c :: (more ++ t))).head?.all (fun l => !l.isTagPart) = true := by
    simp only [List.mem_cons, List.not_mem_nil, or_false] at hkind
    rw [ofText_cons, List.head?_cons, Option.all_some, isTagPart]
    rcases hkind with h | h | h | h <;> rw [h] <;> rfl
  refine ⟨?_, hkind⟩
  rw [← readNamed_append hu (stands_of_splitTagName huc hsplit hc _) hpart, ← happend]
  simp only [List.append_assoc, List.cons_append]

/-- A plain attribute that goes on with the name of the tag is not read unless all of it is a name
of a tag, or what is left begins with `@`. -/
theorem readNamed_glued {name : Text} (hname : name.isWords isTagMark = true)
    (ha : a.isLegible = true) (hp : a.wrapper = .plain)
    (hnone : ∀ start, splitTagName a.name = (start, []) → a.value? ≠ none)
    (hat : ∀ start more, splitTagName a.name ≠ (start, '@' :: more)) (t : Text) :
    (readNamed (ofText (name ++ (a.name ++ (a.assignment ++ t))))).toOption = none := by
  obtain ⟨start, rest, hs⟩ : ∃ start rest, splitTagName a.name = (start, rest) := ⟨_, _, rfl⟩
  cases rest with
  | nil =>
    obtain ⟨value, hv⟩ := Option.ne_none_iff_exists'.1 (hnone start hs)
    have hstart : start = a.name := by simpa [hs] using splitTagName_append a.name
    have hwords := isWords_splitTagName a.name
    rw [hs, hstart] at hwords
    have hfollows := follows_mark (u := name ++ a.name) (t := value ++ t) (c := '=') (by simp)
    rw [Attribute.assignment, hv, ← List.append_assoc, List.cons_append,
      readNamed_append (isWords_append hname hwords) hfollows.1 (head?_isTagPart hfollows.2),
      ofText_mark rfl (by simp) (by simp)]
    exact readAttributes_fails (by simp)
  | cons c more =>
    obtain ⟨hread, hkind⟩ := readNamed_split hname ha hp hs (a.assignment ++ t)
    have hc : (first c (more ++ (a.assignment ++ t))).kind ≠ .atSign := by
      intro hk
      have hhead := head?_of_text? (c := c) (t := more ++ (a.assignment ++ t)) (by rw [hk]; rfl)
      cases hhead
      exact hat start more hs
    rw [hread, ofText_cons]
    refine readAttributes_fails ?_
    simp only [List.mem_cons, List.not_mem_nil, or_false] at hkind ⊢
    rcases hkind with h | h | h | h
    · simp [h]
    · simp [h]
    · exact absurd h hc
    · simp [h]

/-- Neither white space nor the wrapper of an attribute goes on with the name of a tag. -/
theorem readNamed_slot {name : Text} (hname : name.isWords isTagMark = true)
    (hw : w.all isWhitespace = true) (ha : a.isLegible = true)
    (hne : ¬ (w.isEmpty && a.wrapper == .plain) = true) :
    readNamed (ofText (name ++ (w ++ (a.render ++ t)))) =
      (named name).readAttributes (ofText (w ++ (a.render ++ t))) := by
  by_cases hnil : w = []
  · subst hnil
    have hp : a.wrapper ≠ .plain := by simpa using hne
    obtain ⟨c, u, hrender, hc⟩ := Attribute.exists_render_eq ha
    rw [List.nil_append, hrender, List.cons_append]
    rcases hc with ⟨h, -⟩ | ⟨-, rfl⟩ | ⟨-, -, hc⟩
    · exact absurd h hp
    · have hs : Stands (ofText name) ('@' :: (u ++ t)) := (stands_ofText name).before rfl
      exact readNamed_append hname hs (by rw [ofText_mark rfl (by simp) (by simp)]; rfl)
    · have hfollows : Stands (ofText name) (c :: (u ++ t)) ∧
          (ofText (c :: (u ++ t))).head?.all (fun l => !l.isNamePart) = true := by
        refine follows_mark ?_
        simp only [List.mem_cons, List.not_mem_nil, or_false] at hc ⊢
        rcases hc with rfl | rfl | rfl | rfl <;> simp
      exact readNamed_append hname hfollows.1 (head?_isTagPart hfollows.2)
  · have hfollows := follows_blank (t := a.render ++ t) (isWords_isNameMark hname) hnil hw
    exact readNamed_append hname hfollows.1 (head?_isTagPart hfollows.2)

/-- **The tag that is read where a name and slots are written.** -/
theorem readNamed_joinName {name trailing : Text} {slots : List (Text × Attribute)}
    (hname : name.isWords isTagMark = true) (hslots : SlotsLegible slots)
    (htrailing : trailing.all isWhitespace = true) (slash : Bool) (t : Text) :
    (readNamed (ofText (name ++ (written slots ++ (trailing ++ (endMark slash ++ t)))))).toOption =
      (joinName trailing slash name slots).map fun tag => (tag, ofText ('>' :: t)) := by
  fun_induction joinName trailing slash name slots with
  | case1 name h =>
    simp only [Bool.and_eq_true, List.isEmpty_iff, Bool.not_eq_true'] at h
    obtain ⟨⟨rfl, rfl⟩, hhyphens⟩ := h
    exact readNamed_hyphens hname hhyphens t
  | case2 name h =>
    have h : trailing = [] → slash = false → name.endsInHyphens = false := by
      rintro rfl rfl
      simpa using h
    rw [written_nil, List.nil_append, readNamed_end hname htrailing h]
    rfl
  | case3 name w a rest hw start hv hs ih =>
    obtain ⟨-, hrest⟩ := slotsLegible_cons.1 hslots
    rw [Bool.and_eq_true, List.isEmpty_iff, beq_iff_eq] at hw
    have hstart : start = a.name := by simpa [hs] using splitTagName_append a.name
    have hwords := isWords_splitTagName a.name
    rw [hs] at hwords
    rw [← ih (isWords_append hname hwords) hrest, written_cons, hw.1,
      Attribute.render_of_plain hw.2, Attribute.assignment, hv, hstart]
    simp only [List.append_assoc, List.nil_append]
  | case4 name w a rest hw start behind hs =>
    obtain ⟨⟨-, ha⟩, hrest⟩ := slotsLegible_cons.1 hslots
    rw [Bool.and_eq_true, List.isEmpty_iff, beq_iff_eq] at hw
    have hb := isLegible_of_splitTagName hname ha hw.2 hs
    have hjoin : ((named (name ++ start)).readAttributes _).toOption = _ := readAttributes_joinFrom
      (slotsLegible_cons.2 ⟨⟨List.all_nil, hb⟩, hrest⟩) htrailing slash t
    have hrender :
        Attribute.render ⟨behind, .atSign, a.value?⟩ = '@' :: (behind ++ a.assignment) := by
      simp [Attribute.render, Attribute.assignment, Wrapper.opening, Wrapper.closing]
    rw [hrender, List.nil_append, List.cons_append, List.append_assoc] at hjoin
    have hread := (readNamed_split hname ha hw.2 hs
      (a.assignment ++ (written rest ++ (trailing ++ (endMark slash ++ t))))).1
    rw [written_cons, hw.1, Attribute.render_of_plain hw.2]
    simp only [List.append_assoc, List.nil_append]
    rw [hread, Option.map_map]
    exact hjoin
  | case5 name w a rest hw hat hnone =>
    obtain ⟨⟨-, ha⟩, -⟩ := slotsLegible_cons.1 hslots
    rw [Bool.and_eq_true, List.isEmpty_iff, beq_iff_eq] at hw
    rw [written_cons, hw.1, Attribute.render_of_plain hw.2, List.nil_append]
    simp only [List.append_assoc]
    exact readNamed_glued hname ha hw.2 hnone hat _
  | case6 name w a rest hw =>
    obtain ⟨⟨hw', ha⟩, -⟩ := slotsLegible_cons.1 hslots
    rw [Option.map_map, written_cons]
    simp only [List.append_assoc]
    rw [readNamed_slot hname hw' ha hw]
    exact readAttributes_joinFrom hslots htrailing slash t

end OpeningTag

end MarkupOrder
