import MarkupOrder.Markup.Node
import MarkupOrder.Proofs.Text.Forms

/-!
# Attributes that join

Where no white space stands between two attributes, or between the last one and the end of the tag,
the written tag may read differently: a name goes on, a value without quotes takes in what is
behind it, two hyphens before `>` are the end of a comment.

* `Attribute.isLegible`, `OpeningTag.isLegible`: the forms that names, values and white space have.
* `Attribute.meet`, `Attribute.close`: what becomes of an attribute directly before another one, and
  before the end of the tag.
* `OpeningTag.reread`, `Node.reread`: the tag or node that is read where one is written.
* `OpeningTag.renderBody_of_reread`, `OpeningTag.isLegible_of_reread`: it is written the same, and it is
  legible again. By `OpeningTag.eq_of_reread`, it is another one only if the name, the number of
  attributes or the slash at the end is.
-/

namespace MarkupOrder

open Unicode Text

/-! ## Legible tags -/

/-- Whether the parts of an attribute have the form that they are read in. -/
def Attribute.isLegible (a : Attribute) : Bool :=
  a.name.isWords isNameMark && (a.wrapper != .plain || a.name.beginsWord) &&
    a.value?.all fun value => value.inQuotes || value.isBare

namespace OpeningTag

/-- The slots of a tag with what stands in them. -/
def slots (tag : OpeningTag) : List (Text × Attribute) := tag.slotWhitespace.zip tag.attributes

/-- The tag with the given slots. -/
def ofSlots (name : Text) (slots : List (Text × Attribute)) (trailing : Text) (slash : Bool) :
    OpeningTag :=
  ⟨name, slots.map (·.2), slots.map (·.1), trailing, slash⟩

/-- The slots as they are written. -/
def written (slots : List (Text × Attribute)) : Text := slots.flatMap fun p => p.1 ++ p.2.render

/-- The end of a tag, with or without a slash. -/
def endMark (slash : Bool) : Text := if slash then ['/', '>'] else ['>']

@[simp] theorem endMark_false : endMark false = ['>'] := rfl

@[simp] theorem endMark_true : endMark true = ['/', '>'] := rfl

@[simp] theorem written_nil : written [] = [] := rfl

@[simp] theorem written_cons (p : Text × Attribute) (ls : List (Text × Attribute)) :
    written (p :: ls) = p.1 ++ p.2.render ++ written ls := rfl

@[simp] theorem slots_ofSlots (name : Text) (ls : List (Text × Attribute)) (trailing : Text)
    (slash : Bool) : (ofSlots name ls trailing slash).slots = ls := by
  rw [slots, ofSlots, ← List.unzip_fst, ← List.unzip_snd, List.zip_unzip]

theorem renderBody_eq (tag : OpeningTag) : tag.renderBody =
    tag.name ++ written tag.slots ++ tag.trailingWhitespace ++ endMark tag.selfClosing := rfl

theorem renderBody_ofSlots (name : Text) (ls : List (Text × Attribute)) (trailing : Text)
    (slash : Bool) :
    (ofSlots name ls trailing slash).renderBody =
      name ++ written ls ++ trailing ++ endMark slash := by
  rw [renderBody_eq, slots_ofSlots]
  rfl

/-- Whether no white space stands directly behind `<`. -/
def startsTight (tag : OpeningTag) : Bool :=
  !tag.name.isEmpty || (tag.slotWhitespace ++ [tag.trailingWhitespace]).head? == some []

/-- Whether the parts of a tag have the form that they are read in. -/
def isLegible (tag : OpeningTag) : Bool :=
  tag.name.isWords isTagMark && tag.slotWhitespace.length == tag.attributes.length &&
    tag.slotWhitespace.all (·.all isWhitespace) && tag.attributes.all (·.isLegible) &&
    tag.trailingWhitespace.all isWhitespace && tag.startsTight

end OpeningTag

/-! ## Meetings -/

/-- How an attribute ends. -/
inductive Ending where
  /-- In a mark that nothing can go on with. -/
  | closed
  /-- In its name. -/
  | name
  /-- In a value without quotes. -/
  | bare
deriving DecidableEq, Repr

/-- What becomes of two attributes without white space between them. -/
inductive Meeting where
  /-- They stay two attributes. -/
  | apart
  /-- They are one. -/
  | joined (a : Attribute)
  /-- The tag cannot be read. -/
  | clash
deriving DecidableEq, Repr

namespace Attribute

/-- How an attribute ends. -/
def ending (a : Attribute) : Ending :=
  match a.value? with
  | some value => if value.isBare then .bare else .closed
  | none => if a.wrapper.closing.isEmpty then .name else .closed

/-- What becomes of an attribute directly before another one. -/
def meet (a b : Attribute) : Meeting :=
  match a.ending with
  | .closed => .apart
  | .name =>
    if b.wrapper = .plain ∨ b.wrapper = .atSign then
      .joined ⟨a.name ++ b.wrapper.opening ++ b.name, a.wrapper, b.value?⟩
    else .apart
  | .bare =>
    if b.value?.any inQuotes then .clash
    else .joined { a with value? := a.value?.map (· ++ b.render) }

/-- What becomes of the last attribute of a tag and of the slash at the end. -/
def close (a : Attribute) (trailing : Text) (slash : Bool) : Option (Attribute × Bool) :=
  match trailing, a.ending, slash with
  | [], .bare, true => some ({ a with value? := a.value?.map (· ++ ['/']) }, false)
  | [], .name, false => if a.name.endsInHyphens then none else some (a, false)
  | _, _, _ => some (a, slash)

section Meeting

variable {a b c : Attribute}

theorem isLegible_iff : a.isLegible = true ↔ a.name.isWords isNameMark = true ∧
    (a.wrapper = .plain → a.name.beginsWord = true) ∧
      ∀ value, a.value? = some value → value.inQuotes = true ∨ value.isBare = true := by
  obtain ⟨name, w, value?⟩ := a
  cases value? <;> cases w <;> simp [isLegible, and_assoc]

theorem render_of_plain (h : a.wrapper = .plain) : a.render = a.name ++ a.assignment := by
  simp [render, h, Wrapper.opening, Wrapper.closing]

theorem ending_eq_name_iff : a.ending = .name ↔ a.value? = none ∧ a.wrapper.closing = [] := by
  obtain ⟨name, w, value?⟩ := a
  cases value? with
  | none => simp only [ending]; split <;> simp_all
  | some value => simp only [ending]; split <;> simp

theorem ending_eq_bare_iff :
    a.ending = .bare ↔ ∃ value, a.value? = some value ∧ value.isBare = true := by
  obtain ⟨name, w, value?⟩ := a
  cases value? with
  | none => simp only [ending]; split <;> simp
  | some value => simp only [ending]; split <;> simp_all

theorem meet_eq_clash_iff : a.meet b = .clash ↔
    a.ending = .bare ∧ ∃ value, b.value? = some value ∧ value.inQuotes = true := by
  cases hend : a.ending <;> simp only [meet, hend]
  case name => split <;> simp
  case bare =>
    cases hv : b.value? with
    | none => simp
    | some value => cases hq : value.inQuotes <;> simp [hq]
  case closed => simp

/-- A value without quotes can go on with an attribute whose value is not in quotes. -/
theorem isBareMark_render (hb : b.isLegible = true) (hq : b.value?.any inQuotes = false) :
    b.render.all isBareMark = true := by
  obtain ⟨hname, -, hvalue⟩ := isLegible_iff.1 hb
  have hopening : b.wrapper.opening.all isBareMark = true := by cases b.wrapper <;> decide
  have hclosing : b.wrapper.closing.all isBareMark = true := by cases b.wrapper <;> decide
  have hassign : b.assignment.all isBareMark = true := by
    rw [assignment]
    split
    · rfl
    · rename_i value hv
      have hbare : value.isBare = true := (hvalue value hv).resolve_left (by simp_all)
      rw [isBare, Bool.and_eq_true] at hbare
      rw [List.all_cons, hbare.2]
      decide
  simp only [render, List.all_append, hopening, hclosing, hassign, isBareMark_of_isWords hname,
    Bool.and_true]

/-- Attributes that join are written the same. -/
theorem render_of_meet (h : a.meet b = .joined c) : a.render ++ b.render = c.render := by
  unfold meet at h
  split at h
  · cases h
  · rename_i hend
    obtain ⟨hvalue, hclosing⟩ := ending_eq_name_iff.1 hend
    split at h
    · rename_i hw
      cases h
      have hb : b.wrapper.closing = [] := by rcases hw with hw | hw <;> simp [hw, Wrapper.closing]
      simp [render, assignment, hvalue, hclosing, hb]
    · cases h
  · rename_i hend
    obtain ⟨value, hvalue, -⟩ := ending_eq_bare_iff.1 hend
    split at h
    · cases h
    · cases h
      simp [render, assignment, hvalue]

theorem isLegible_of_meet (ha : a.isLegible = true) (hb : b.isLegible = true)
    (h : a.meet b = .joined c) : c.isLegible = true := by
  obtain ⟨hname, hword, hvalue⟩ := isLegible_iff.1 ha
  obtain ⟨hname', -, hvalue'⟩ := isLegible_iff.1 hb
  unfold meet at h
  split at h
  · cases h
  · split at h
    · rename_i hw
      cases h
      have hmore : (b.wrapper.opening ++ b.name).isWords isNameMark = true := by
        rcases hw with hw | hw <;> rw [hw]
        · exact hname'
        · exact isWords_append (u := ['@']) (by decide) hname'
      rw [isLegible_iff, List.append_assoc]
      exact ⟨isWords_append hname hmore, fun hp => beginsWord_append (hword hp) _, hvalue'⟩
    · cases h
  · rename_i hend
    obtain ⟨value, hv, hbare⟩ := ending_eq_bare_iff.1 hend
    split at h
    · cases h
    · rename_i hq
      cases h
      have hmore := isBareMark_render hb (by simpa using hq)
      refine isLegible_iff.2 ⟨hname, hword, fun value' h => .inr ?_⟩
      rw [hv] at h
      cases h
      exact isBare_append hbare hmore

variable {trailing : Text} {slash slash' : Bool}

theorem render_of_close (h : a.close trailing slash = some (b, slash')) :
    b.render ++ trailing ++ OpeningTag.endMark slash' =
      a.render ++ trailing ++ OpeningTag.endMark slash := by
  unfold close at h
  split at h
  · rename_i hend
    obtain ⟨value, hvalue, -⟩ := ending_eq_bare_iff.1 hend
    cases h
    simp [render, assignment, hvalue, OpeningTag.endMark]
  · split at h <;> cases h
    rfl
  · cases h
    rfl

theorem isLegible_of_close (ha : a.isLegible = true)
    (h : a.close trailing slash = some (b, slash')) : b.isLegible = true := by
  unfold close at h
  split at h
  · rename_i hend
    obtain ⟨hname, hword, -⟩ := isLegible_iff.1 ha
    obtain ⟨value, hvalue, hbare⟩ := ending_eq_bare_iff.1 hend
    cases h
    refine isLegible_iff.2 ⟨hname, hword, fun value' h => .inr ?_⟩
    rw [hvalue] at h
    cases h
    exact isBare_append hbare (by decide)
  · split at h <;> cases h
    exact ha
  · cases h
    exact ha

/-- Where the slash stays, the last attribute does. -/
theorem eq_of_close (h : a.close trailing slash = some (b, slash)) : b = a := by
  unfold close at h
  split at h
  · cases h
  · split at h <;> cases h
    rfl
  · cases h
    rfl

end Meeting

end Attribute

namespace OpeningTag

/-- The slots that are read where an attribute is written behind white space, with the given slots
behind it, and whether there is still a slash at the end. -/
def joinFrom (trailing : Text) (slash : Bool) (w : Text) (a : Attribute) :
    List (Text × Attribute) → Option (List (Text × Attribute) × Bool)
  | [] => (a.close trailing slash).map fun (a, slash) => ([(w, a)], slash)
  | (v, b) :: rest =>
    match if v.isEmpty then a.meet b else .apart with
    | .apart => (joinFrom trailing slash v b rest).map fun (ls, slash) => ((w, a) :: ls, slash)
    | .joined c => joinFrom trailing slash w c rest
    | .clash => none

/-- The tag that is read where the given slots are written behind a name. A plain name goes on with
the name of the tag, and `@` begins an attribute. -/
def joinName (trailing : Text) (slash : Bool) (name : Text) :
    List (Text × Attribute) → Option OpeningTag
  | [] =>
    if trailing.isEmpty && !slash && name.endsInHyphens then none
    else some (ofSlots name [] trailing slash)
  | (w, a) :: rest =>
    if w.isEmpty && a.wrapper == .plain then
      match splitTagName a.name, a.value? with
      | (start, []), none => joinName trailing slash (name ++ start) rest
      | (start, '@' :: behind), value? =>
        (joinFrom trailing slash [] ⟨behind, .atSign, value?⟩ rest).map fun (ls, slash) =>
          ofSlots (name ++ start) ls trailing slash
      | _, _ => none
    else
      (joinFrom trailing slash w a rest).map fun (ls, slash) => ofSlots name ls trailing slash

/-- The tag that is read where a tag is written. -/
def reread (tag : OpeningTag) : Option OpeningTag :=
  joinName tag.trailingWhitespace tag.selfClosing tag.name tag.slots

/-! ## What is read is written the same -/

/-- The attribute behind the part of a plain name that the name of its tag takes. -/
theorem render_of_splitTagName {a : Attribute} {start behind : Text} (hp : a.wrapper = .plain)
    (hs : splitTagName a.name = (start, '@' :: behind)) :
    start ++ Attribute.render ⟨behind, .atSign, a.value?⟩ = a.render := by
  have hname := splitTagName_append a.name
  rw [hs] at hname
  rw [Attribute.render_of_plain hp, ← hname]
  simp [Attribute.render, Attribute.assignment, Wrapper.opening, Wrapper.closing]

theorem isLegible_of_splitTagName {a : Attribute} {name start behind : Text}
    (hname : name.isWords isTagMark = true) (ha : a.isLegible = true) (hp : a.wrapper = .plain)
    (hs : splitTagName a.name = (start, '@' :: behind)) :
    Attribute.isLegible ⟨behind, .atSign, a.value?⟩ = true := by
  obtain ⟨hwords, hbegins, hvalue⟩ := Attribute.isLegible_iff.1 ha
  have hbehind := (splitTagName_mark hname hwords (hbegins hp) hs).2.2.1
  exact Attribute.isLegible_iff.2 ⟨hbehind, by simp, hvalue⟩

/-- Whether the given slots have the form that they are read in. -/
def SlotsLegible (ls : List (Text × Attribute)) : Prop :=
  ∀ p ∈ ls, p.1.all isWhitespace = true ∧ p.2.isLegible = true

theorem slotsLegible_cons {p : Text × Attribute} {ls : List (Text × Attribute)} :
    SlotsLegible (p :: ls) ↔
      (p.1.all isWhitespace = true ∧ p.2.isLegible = true) ∧ SlotsLegible ls :=
  List.forall_mem_cons

theorem isLegible_ofSlots {name trailing : Text} {ls : List (Text × Attribute)} {slash : Bool} :
    (ofSlots name ls trailing slash).isLegible = true ↔
      name.isWords isTagMark = true ∧ SlotsLegible ls ∧ trailing.all isWhitespace = true ∧
        (name = [] → (ls.map (·.1) ++ [trailing]).head? = some []) := by
  have hslots : SlotsLegible ls ↔ (ls.map (·.1)).all (·.all isWhitespace) = true ∧
      (ls.map (·.2)).all (·.isLegible) = true := by
    simp only [SlotsLegible, List.all_map, List.all_eq_true, Function.comp_apply]
    exact ⟨fun h => ⟨fun p hp => (h p hp).1, fun p hp => (h p hp).2⟩,
      fun h p hp => ⟨h.1 p hp, h.2 p hp⟩⟩
  rw [hslots]
  cases name <;> simp [isLegible, ofSlots, startsTight, and_assoc]

/-- A tag is made of its slots. -/
theorem ofSlots_slots {tag : OpeningTag}
    (h : tag.slotWhitespace.length = tag.attributes.length) :
    ofSlots tag.name tag.slots tag.trailingWhitespace tag.selfClosing = tag := by
  rw [ofSlots, slots, List.map_fst_zip (Nat.le_of_eq h), List.map_snd_zip (Nat.le_of_eq h.symm)]

section Join

variable {trailing w name : Text} {slash slash' : Bool} {a : Attribute}
  {rest ls : List (Text × Attribute)}

theorem written_of_joinFrom (h : joinFrom trailing slash w a rest = some (ls, slash')) :
    written ls ++ trailing ++ endMark slash' =
      w ++ a.render ++ written rest ++ trailing ++ endMark slash := by
  fun_induction joinFrom trailing slash w a rest generalizing ls slash' with
  | case1 w a =>
    obtain ⟨⟨b, slash₁⟩, hc, h⟩ := Option.map_eq_some_iff.1 h
    cases h
    simpa using congrArg (w ++ ·) (Attribute.render_of_close hc)
  | case2 w a v b rest hm ih =>
    obtain ⟨⟨ls₁, slash₁⟩, hj, h⟩ := Option.map_eq_some_iff.1 h
    cases h
    have := ih hj
    simp_all
  | case3 w a v b rest c hm ih =>
    split at hm
    · rename_i hv
      rw [ih h, ← Attribute.render_of_meet hm, List.isEmpty_iff.1 hv]
      simp
    · cases hm
  | case4 => cases h

theorem slotsLegible_of_joinFrom (h : joinFrom trailing slash w a rest = some (ls, slash'))
    (hrest : SlotsLegible ((w, a) :: rest)) : SlotsLegible ls := by
  fun_induction joinFrom trailing slash w a rest generalizing ls slash' with
  | case1 w a =>
    obtain ⟨⟨b, slash₁⟩, hc, h⟩ := Option.map_eq_some_iff.1 h
    cases h
    have hw := slotsLegible_cons.1 hrest
    exact slotsLegible_cons.2 ⟨⟨hw.1.1, Attribute.isLegible_of_close hw.1.2 hc⟩, hw.2⟩
  | case2 w a v b rest hm ih =>
    obtain ⟨⟨ls₁, slash₁⟩, hj, h⟩ := Option.map_eq_some_iff.1 h
    cases h
    have hw := slotsLegible_cons.1 hrest
    exact slotsLegible_cons.2 ⟨hw.1, ih hj hw.2⟩
  | case3 w a v b rest c hm ih =>
    obtain ⟨⟨hw, ha⟩, hrest⟩ := slotsLegible_cons.1 hrest
    obtain ⟨⟨-, hb⟩, hrest⟩ := slotsLegible_cons.1 hrest
    split at hm
    · exact ih h (slotsLegible_cons.2 ⟨⟨hw, Attribute.isLegible_of_meet ha hb hm⟩, hrest⟩)
    · cases hm
  | case4 => cases h

/-- Joining keeps the first white space, and never makes slots. -/
theorem length_of_joinFrom (h : joinFrom trailing slash w a rest = some (ls, slash')) :
    ls.head?.map (·.1) = some w ∧ ls.length ≤ rest.length + 1 := by
  fun_induction joinFrom trailing slash w a rest generalizing ls slash' with
  | case1 w a =>
    obtain ⟨⟨b, slash₁⟩, -, h⟩ := Option.map_eq_some_iff.1 h
    cases h
    exact ⟨rfl, Nat.le_refl _⟩
  | case2 w a v b rest hm ih =>
    obtain ⟨⟨ls₁, slash₁⟩, hj, h⟩ := Option.map_eq_some_iff.1 h
    cases h
    exact ⟨rfl, Nat.succ_le_succ (ih hj).2⟩
  | case3 w a v b rest c hm ih => exact ⟨(ih h).1, Nat.le_succ_of_le (ih h).2⟩
  | case4 => cases h

/-- Where the number of slots and the slash stay, nothing has joined. -/
theorem eq_of_joinFrom (h : joinFrom trailing slash w a rest = some (ls, slash))
    (hlen : ls.length = rest.length + 1) : ls = (w, a) :: rest := by
  fun_induction joinFrom trailing slash w a rest generalizing ls with
  | case1 w a =>
    obtain ⟨⟨b, slash₁⟩, hc, h⟩ := Option.map_eq_some_iff.1 h
    cases h
    rw [Attribute.eq_of_close hc]
  | case2 w a v b rest hm ih =>
    obtain ⟨⟨ls₁, slash₁⟩, hj, h⟩ := Option.map_eq_some_iff.1 h
    cases h
    rw [ih hj (Nat.succ.inj hlen)]
  | case3 w a v b rest c hm ih =>
    have := (length_of_joinFrom h).2
    rw [hlen] at this
    exact absurd this (Nat.not_succ_le_self _)
  | case4 => cases h

/-- Where white space stands before every attribute, only the last one meets the end of the tag. -/
theorem joinFrom_concat {init : List (Text × Attribute)} {p : Text × Attribute}
    (hrest : ∀ q ∈ rest, q.1 ≠ []) (h : (w, a) :: rest = init ++ [p]) :
    joinFrom trailing slash w a rest =
      (p.2.close trailing slash).map fun (b, slash) => (init ++ [(p.1, b)], slash) := by
  induction rest generalizing w a init with
  | nil =>
    cases init with
    | nil =>
      cases h
      rfl
    | cons q init => simp at h
  | cons q rest ih =>
    obtain ⟨v, b⟩ := q
    obtain ⟨hv, hrest⟩ := List.forall_mem_cons.1 hrest
    have hv : v.isEmpty = false := by simpa using hv
    cases init with
    | nil => simp at h
    | cons q init =>
      rw [List.cons_append, List.cons.injEq] at h
      rw [joinFrom, hv, ih hrest h.2, ← h.1]
      cases p.2.close trailing slash <;> rfl

theorem renderBody_of_joinName {tag : OpeningTag} (h : joinName trailing slash name ls = some tag) :
    tag.renderBody = name ++ written ls ++ trailing ++ endMark slash := by
  fun_induction joinName trailing slash name ls generalizing tag with
  | case1 => cases h
  | case2 =>
    cases h
    exact renderBody_ofSlots ..
  | case3 name w a rest hw start hv hs ih =>
    rw [Bool.and_eq_true, List.isEmpty_iff, beq_iff_eq] at hw
    have hname : start = a.name := by simpa [hs] using splitTagName_append a.name
    rw [ih h, hname]
    simp [hw, Attribute.render_of_plain, Attribute.assignment, hv]
  | case4 name w a rest hw start behind hs =>
    obtain ⟨⟨ls₁, slash₁⟩, hj, h⟩ := Option.map_eq_some_iff.1 h
    cases h
    rw [Bool.and_eq_true, List.isEmpty_iff, beq_iff_eq] at hw
    have hwritten := congrArg ((name ++ start) ++ ·) (written_of_joinFrom hj)
    rw [renderBody_ofSlots, written_cons, ← render_of_splitTagName hw.2 hs, hw.1]
    simpa using hwritten
  | case5 => cases h
  | case6 name w a rest hw =>
    obtain ⟨⟨ls₁, slash₁⟩, hj, h⟩ := Option.map_eq_some_iff.1 h
    cases h
    have hwritten := congrArg (name ++ ·) (written_of_joinFrom hj)
    rw [renderBody_ofSlots, written_cons]
    simpa using hwritten

/-- A plain name that goes on with the name of the tag gives it at least one letter. -/
theorem splitTagName_ne_nil_of_plain (ha : a.isLegible = true) (hp : a.wrapper = .plain) :
    (splitTagName a.name).1 ≠ [] :=
  splitTagName_ne_nil ((Attribute.isLegible_iff.1 ha).2.1 hp)

theorem isLegible_of_joinName {tag : OpeningTag} (h : joinName trailing slash name ls = some tag)
    (hname : name.isWords isTagMark = true) (hls : SlotsLegible ls)
    (htrailing : trailing.all isWhitespace = true)
    (htight : name = [] → (ls.map (·.1) ++ [trailing]).head? = some []) : tag.isLegible = true := by
  fun_induction joinName trailing slash name ls generalizing tag with
  | case1 => cases h
  | case2 =>
    cases h
    exact isLegible_ofSlots.2 ⟨hname, hls, htrailing, htight⟩
  | case3 name w a rest hw start hv hs ih =>
    rw [Bool.and_eq_true, List.isEmpty_iff, beq_iff_eq] at hw
    obtain ⟨⟨-, ha⟩, hrest⟩ := slotsLegible_cons.1 hls
    have hstart := isWords_splitTagName a.name
    have hne := splitTagName_ne_nil_of_plain ha hw.2
    rw [hs] at hstart hne
    apply ih h (isWords_append hname hstart) hrest
    intro hnil
    exact absurd (List.append_eq_nil_iff.1 hnil).2 hne
  | case4 name w a rest hw start behind hs =>
    obtain ⟨⟨ls₁, slash₁⟩, hj, h⟩ := Option.map_eq_some_iff.1 h
    cases h
    rw [Bool.and_eq_true, List.isEmpty_iff, beq_iff_eq] at hw
    obtain ⟨⟨-, ha⟩, hrest⟩ := slotsLegible_cons.1 hls
    have hb := isLegible_of_splitTagName hname ha hw.2 hs
    have hstart := isWords_splitTagName a.name
    have hne := splitTagName_ne_nil_of_plain ha hw.2
    rw [hs] at hstart hne
    refine isLegible_ofSlots.2 ⟨isWords_append hname hstart, ?_, htrailing, ?_⟩
    · exact slotsLegible_of_joinFrom hj (slotsLegible_cons.2 ⟨⟨rfl, hb⟩, hrest⟩)
    · exact fun hnil => absurd (List.append_eq_nil_iff.1 hnil).2 hne
  | case5 => cases h
  | case6 name w a rest hw =>
    obtain ⟨⟨ls₁, slash₁⟩, hj, h⟩ := Option.map_eq_some_iff.1 h
    cases h
    refine isLegible_ofSlots.2 ⟨hname, slotsLegible_of_joinFrom hj hls, htrailing, fun hnil => ?_⟩
    have hhead := (length_of_joinFrom hj).1
    cases ls₁ with
    | nil => cases hhead
    | cons p ls₁ =>
      rw [List.head?_cons, Option.map_some, Option.some.injEq] at hhead
      simpa [hhead] using htight hnil

/-- The name of a tag only grows, and the slots only become fewer. -/
theorem prefix_of_joinName {tag : OpeningTag} (h : joinName trailing slash name ls = some tag) :
    name <+: tag.name ∧ tag.attributes.length ≤ ls.length := by
  fun_induction joinName trailing slash name ls generalizing tag with
  | case1 | case5 => cases h
  | case2 =>
    cases h
    exact ⟨List.prefix_rfl, Nat.le_refl _⟩
  | case3 name w a rest hw start hv hs ih =>
    have ih := ih h
    exact ⟨(List.prefix_append name start).trans ih.1, Nat.le_succ_of_le ih.2⟩
  | case4 name w a rest hw start behind hs =>
    obtain ⟨⟨ls₁, slash₁⟩, hj, h⟩ := Option.map_eq_some_iff.1 h
    cases h
    refine ⟨List.prefix_append name start, ?_⟩
    simpa [ofSlots] using (length_of_joinFrom hj).2
  | case6 name w a rest hw =>
    obtain ⟨⟨ls₁, slash₁⟩, hj, h⟩ := Option.map_eq_some_iff.1 h
    cases h
    refine ⟨List.prefix_rfl, ?_⟩
    simpa [ofSlots] using (length_of_joinFrom hj).2

/-- Where the name, the number of slots and the slash stay, nothing has joined. -/
theorem eq_of_joinName {tag : OpeningTag} (h : joinName trailing slash name ls = some tag)
    (hls : SlotsLegible ls) (hname : tag.name = name) (hlen : tag.attributes.length = ls.length)
    (hslash : tag.selfClosing = slash) : tag = ofSlots name ls trailing slash := by
  unfold joinName at h
  split at h
  · split at h <;> cases h
    rfl
  · rename_i w a rest
    obtain ⟨⟨-, ha⟩, -⟩ := slotsLegible_cons.1 hls
    split at h
    · rename_i hw
      rw [Bool.and_eq_true, List.isEmpty_iff, beq_iff_eq] at hw
      have hne := splitTagName_ne_nil_of_plain ha hw.2
      split at h
      · have := (prefix_of_joinName h).2
        rw [hlen, List.length_cons] at this
        omega
      · rename_i hs
        obtain ⟨⟨ls₁, slash₁⟩, -, h⟩ := Option.map_eq_some_iff.1 h
        cases h
        rw [hs] at hne
        exact absurd (List.append_right_eq_self.1 hname) hne
      · cases h
    · obtain ⟨⟨ls₁, slash₁⟩, hj, h⟩ := Option.map_eq_some_iff.1 h
      cases h
      obtain rfl : slash₁ = slash := hslash
      rw [eq_of_joinFrom hj (by simpa [ofSlots] using hlen)]

end Join

/-! ## Tags that are read again -/

section Reread

variable {tag tag' : OpeningTag}

theorem isLegible_iff : tag.isLegible = true ↔
    tag.slotWhitespace.length = tag.attributes.length ∧ tag.name.isWords isTagMark = true ∧
      SlotsLegible tag.slots ∧ tag.trailingWhitespace.all isWhitespace = true ∧
        (tag.name = [] → (tag.slotWhitespace ++ [tag.trailingWhitespace]).head? = some []) := by
  by_cases hlen : tag.slotWhitespace.length = tag.attributes.length
  · have hmap : tag.slots.map (·.1) = tag.slotWhitespace := List.map_fst_zip (Nat.le_of_eq hlen)
    have hofSlots : (ofSlots tag.name tag.slots tag.trailingWhitespace tag.selfClosing).isLegible =
        true ↔ _ := isLegible_ofSlots
    rw [ofSlots_slots hlen, hmap] at hofSlots
    simp [hofSlots, hlen]
  · simp [isLegible, hlen]

/-- **What is read is written the same.** -/
theorem renderBody_of_reread (h : tag.reread = some tag') : tag'.renderBody = tag.renderBody := by
  rw [renderBody_of_joinName h, renderBody_eq]

theorem isLegible_of_reread (ht : tag.isLegible = true) (h : tag.reread = some tag') :
    tag'.isLegible = true := by
  obtain ⟨hlen, hname, hslots, htrailing, htight⟩ := isLegible_iff.1 ht
  refine isLegible_of_joinName h hname hslots htrailing ?_
  rwa [slots, List.map_fst_zip (Nat.le_of_eq hlen)]

/-- **A legible tag is read as another one only if its name, the number of its attributes or its
slash changes.** -/
theorem eq_of_reread (ht : tag.isLegible = true) (h : tag.reread = some tag')
    (hname : tag'.name = tag.name) (hlen : tag'.attributes.length = tag.attributes.length)
    (hslash : tag'.selfClosing = tag.selfClosing) : tag' = tag := by
  obtain ⟨hlen', -, hslots, -⟩ := isLegible_iff.1 ht
  have hslotsLength : tag.slots.length = tag.attributes.length := by
    rw [slots, List.length_zip, hlen', Nat.min_self]
  rw [eq_of_joinName h hslots hname (by rw [hlen, hslotsLength]) hslash, ofSlots_slots hlen']

/-- A tag without slots can be read back unless its name goes on over the end of the tag. -/
theorem reread_of_slots_nil (h : tag.slots = []) : tag.reread =
    if tag.trailingWhitespace.isEmpty && !tag.selfClosing && tag.name.endsInHyphens then none
    else some (ofSlots tag.name [] tag.trailingWhitespace tag.selfClosing) := by
  rw [reread, h, joinName]

/-- Where white space stands before every attribute, only the last one can change. -/
theorem reread_of_slots_concat {init : List (Text × Attribute)} {p : Text × Attribute}
    (h : tag.slots = init ++ [p]) (hblank : ∀ q ∈ tag.slots, q.1 ≠ []) :
    tag.reread = (p.2.close tag.trailingWhitespace tag.selfClosing).map fun (b, slash) =>
      ofSlots tag.name (init ++ [(p.1, b)]) tag.trailingWhitespace slash := by
  cases hslots : tag.slots with
  | nil => simp [hslots] at h
  | cons q rest =>
    obtain ⟨w, a⟩ := q
    rw [hslots] at h hblank
    obtain ⟨hw, hrest⟩ := List.forall_mem_cons.1 hblank
    have hw : (w.isEmpty && a.wrapper == .plain) = false := by simp [hw]
    rw [reread, hslots, joinName, hw, if_neg Bool.false_ne_true, joinFrom_concat hrest h,
      Option.map_map]
    rfl

/-- Attributes that are arranged among themselves leave a tag legible. -/
theorem isLegible_mapAttributes {f : List Attribute → List Attribute} (ht : tag.isLegible = true)
    (hlen : ∀ as, (f as).length = as.length) (hmem : ∀ as, ∀ a ∈ f as, a ∈ as) :
    (tag.mapAttributes f).isLegible = true := by
  simp only [isLegible, startsTight, Bool.and_eq_true, beq_iff_eq,
    List.all_eq_true (l := tag.attributes), List.all_eq_true (l := f tag.attributes), mapAttributes, hlen] at ht ⊢
  obtain ⟨⟨⟨hslots, has⟩, htrailing⟩, htight⟩ := ht
  exact ⟨⟨⟨hslots, fun a ha => has a (hmem _ a ha)⟩, htrailing⟩, htight⟩

end Reread

/-- Whether a tag is written `</>`, which is a closing tag. -/
def isClosingForm (tag : OpeningTag) : Bool :=
  tag.name.isEmpty && tag.attributes.isEmpty && tag.trailingWhitespace.isEmpty && tag.selfClosing

end OpeningTag

/-- The node that is read where a node is written. -/
def Node.reread : Node → Option Node
  | openingTag tag =>
    if tag.isClosingForm then some (closingTag []) else tag.reread.map openingTag
  | node => some node

end MarkupOrder
