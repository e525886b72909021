import MarkupOrder.Proofs.Document.Idempotence

/-!
# Tags that close themselves

The slash at the end of a tag stays where it is when the attributes change their places, and a value
without quotes that comes to stand directly before it takes it in.

* `OpeningTag.losesSlash`: the tags whose slash is not read again.
* `OpeningTag.parts_of_reread`: where white space stands before every attribute, the slash is all
  that a tag can lose.
* `Document.forms_of_reparse_iff`: slashes and values are the same in a document that is read again
  if and only if no tag loses its slash.
-/

namespace MarkupOrder

namespace Attribute

theorem slash_of_close {a b : Attribute} {trailing : Text} {slash slash' : Bool}
    (h : a.close trailing slash = some (b, slash')) :
    slash' = (slash && !(trailing.isEmpty && a.ending == .bare)) := by
  unfold close at h
  split at h
  · rename_i hend
    cases h
    simp [hend]
  · rename_i hend
    split at h <;> cases h
    rfl
  · rename_i hbare hname
    cases h
    cases slash' with
    | false => rfl
    | true => simpa [imp_iff_not_or] using hbare

end Attribute

namespace OpeningTag

variable {tag tag' : OpeningTag}

/-- Whether the slash of a tag stands directly behind a value without quotes, or behind nothing but
`<`. -/
def losesSlash (tag : OpeningTag) : Bool :=
  tag.selfClosing && tag.trailingWhitespace.isEmpty &&
    match tag.attributes.getLast? with
    | some a => a.ending == .bare
    | none => tag.name.isEmpty

theorem losesSlash_of_isClosingForm (h : tag.isClosingForm = true) : tag.losesSlash = true := by
  obtain ⟨name, as, ws, trailing, slash⟩ := tag
  simp only [isClosingForm, Bool.and_eq_true, List.isEmpty_iff] at h
  obtain ⟨⟨⟨rfl, rfl⟩, rfl⟩, rfl⟩ := h
  rfl

/-- Where white space stands before every attribute, a tag can lose its slash and nothing else. -/
theorem parts_of_reread (ht : tag.isLegible = true) (hblank : [] ∉ tag.slotWhitespace)
    (hform : tag.isClosingForm = false) (h : tag.reread = some tag') :
    tag'.name = tag.name ∧ tag'.attributes.length = tag.attributes.length ∧
      tag'.selfClosing = (tag.selfClosing && !tag.losesSlash) := by
  have hself := ofSlots_slots (isLegible_iff.1 ht).1
  rcases List.eq_nil_or_concat tag.slots with hslots | ⟨init, p, hslots⟩
  · have has : tag.attributes = [] := by
      rw [← hself, hslots]
      rfl
    rw [reread_of_slots_nil hslots] at h
    split at h <;> cases h
    refine ⟨rfl, by rw [has]; rfl, ?_⟩
    rw [losesSlash, has]
    rw [isClosingForm, has] at hform
    cases hslash : tag.selfClosing <;> cases hname : tag.name <;> simp_all [ofSlots]
  · rw [List.concat_eq_append] at hslots
    have has : tag.attributes = init.map (·.2) ++ [p.2] := by
      rw [← hself, hslots]
      simp [ofSlots]
    have hblank : ∀ q ∈ tag.slots, q.1 ≠ [] := by
      intro q hq hnil
      apply hblank
      rw [← hnil]
      exact (List.of_mem_zip hq).1
    rw [reread_of_slots_concat hslots hblank] at h
    obtain ⟨⟨b, slash⟩, hclose, h⟩ := Option.map_eq_some_iff.1 h
    cases h
    refine ⟨rfl, by simp [has, ofSlots], ?_⟩
    rw [losesSlash, has, List.getLast?_concat]
    have hslash := Attribute.slash_of_close hclose
    cases htag : tag.selfClosing <;> simp_all [ofSlots]

end OpeningTag

namespace Node

variable {m n : Node}

/-- Whether a node is a tag that closes itself. -/
def isSelfClosing : Node → Bool
  | openingTag tag => tag.selfClosing
  | _ => false

/-- Whether a node is a tag that loses its slash. -/
def losesSlash : Node → Bool
  | openingTag tag => tag.losesSlash
  | _ => false

/-- Whether an opening tag closes itself, and the values of its attributes. -/
def form? : Node → Option (Bool × List (Option Text))
  | openingTag tag => some (tag.selfClosing, tag.attributes.map (·.value?))
  | _ => none

theorem countP_form? (ns : List Node) :
    (ns.filterMap form?).countP (·.1) = ns.countP isSelfClosing := by
  rw [List.countP_filterMap]
  apply List.countP_congr
  intro n _
  cases n <;> simp [form?, isSelfClosing]

theorem isSelfClosing_mapAttributes (f : List Attribute → List Attribute) :
    (n.mapAttributes f).isSelfClosing = n.isSelfClosing := by
  cases n <;> rfl

variable (hn : n.IsLegible) (hblank : ∀ tag, n = openingTag tag → [] ∉ tag.slotWhitespace)

include hn hblank

/-- Where white space stands before every attribute, the node that is read has the slash unless it
is lost. -/
theorem isSelfClosing_of_reread (h : n.reread = some m) :
    m.isSelfClosing = (n.isSelfClosing && !n.losesSlash) := by
  cases n with
  | openingTag tag =>
    rw [reread] at h
    split at h
    · rename_i hform
      cases h
      simp [isSelfClosing, losesSlash, OpeningTag.losesSlash_of_isClosingForm hform]
    · rename_i hform
      obtain ⟨tag', htag, rfl⟩ := Option.map_eq_some_iff.1 h
      exact (OpeningTag.parts_of_reread hn (hblank tag rfl) (by simpa using hform) htag).2.2
  | _ =>
    cases h
    rfl

/-- Where white space stands before every attribute, a node that does not lose its slash is read as
itself. -/
theorem eq_of_reread (hkeeps : n.losesSlash = false) (h : n.reread = some m) : m = n := by
  rcases cases_of_reread h with rfl | ⟨tag, rfl, ⟨hform, rfl⟩ | ⟨tag', htag, rfl⟩⟩
  · rfl
  · rw [losesSlash, OpeningTag.losesSlash_of_isClosingForm hform] at hkeeps
    cases hkeeps
  · have hform : tag.isClosingForm = false := by
      cases hform : tag.isClosingForm with
      | false => rfl
      | true =>
        rw [losesSlash, OpeningTag.losesSlash_of_isClosingForm hform] at hkeeps
        cases hkeeps
    obtain ⟨hname, hlen, hslash⟩ := OpeningTag.parts_of_reread hn (hblank tag rfl) hform htag
    rw [losesSlash] at hkeeps
    rw [hkeeps, Bool.not_false, Bool.and_true] at hslash
    rw [OpeningTag.eq_of_reread hn htag hname hlen hslash]

end Node

namespace Document

variable {s : OrderSettings} {input : Text} {ms ns rs : List Node}

/-- The tags that close themselves are those that keep their slash. -/
theorem countP_of_reread (hns : ∀ n ∈ ns, n.IsLegible)
    (hblank : ∀ n ∈ ns, ∀ tag, n = .openingTag tag → [] ∉ tag.slotWhitespace)
    (h : ns.map Node.reread = rs.map some) : rs.countP Node.isSelfClosing =
      ns.countP fun n => n.isSelfClosing && !n.losesSlash := by
  induction ns generalizing rs with
  | nil =>
    cases List.map_eq_nil_iff.1 h.symm
    rfl
  | cons n ns ih =>
    obtain ⟨r, rs, rfl, hr, hrs⟩ := List.map_eq_cons_iff.1 h.symm
    obtain ⟨hn, hns⟩ := List.forall_mem_cons.1 hns
    obtain ⟨hspaced, hblank⟩ := List.forall_mem_cons.1 hblank
    rw [List.countP_cons, List.countP_cons, ih hns hblank hrs.symm,
      Node.isSelfClosing_of_reread hn hspaced hr.symm]

/-- A document no tag of which loses its slash is read as itself. -/
theorem eq_of_reparse (h : parse s input = .ok ns)
    (hblank : ∀ n ∈ ns, ∀ tag, n = .openingTag tag → [] ∉ tag.slotWhitespace)
    (hkeeps : ∀ n ∈ ns, n.losesSlash = false) (hagain : parse s (Node.renderAll ns) = .ok ms) :
    ms = ns := by
  have hlegible := allLegible_of_parse h
  obtain ⟨rs, hrs, rfl⟩ := (parse_renderAll_iff hlegible).1 hagain
  have hsame : ns.map Node.reread = ns.map some := by
    apply List.map_congr_left
    intro n hn
    have hmem : n.reread ∈ rs.map some := hrs ▸ List.mem_map_of_mem hn
    obtain ⟨r, -, hr⟩ := List.mem_map.1 hmem
    rw [← hr, Node.eq_of_reread (hlegible.isLegible hn) (hblank n hn) (hkeeps n hn) hr.symm]
  rw [hsame] at hrs
  rw [← List.map_injective_iff.2 (fun _ _ => Option.some.inj) hrs, map_mapAttributes_of_parse h]

/-- **Slashes and values are read again unless a slash is lost.** Where white space stands before
every attribute, and the written document can be read, its tags close themselves and have the values
as before if and only if no tag loses its slash. -/
theorem forms_of_reparse_iff (h : parse s input = .ok ns)
    (hblank : ∀ tag, .openingTag tag ∈ ns → [] ∉ tag.slotWhitespace)
    (hagain : parse s (Node.renderAll ns) = .ok ms) :
    ms.filterMap Node.form? = ns.filterMap Node.form? ↔
      ∀ tag, .openingTag tag ∈ ns → tag.losesSlash = false := by
  have hblank : ∀ n ∈ ns, ∀ tag, n = .openingTag tag → [] ∉ tag.slotWhitespace := by
    rintro n hn tag rfl
    exact hblank tag hn
  constructor
  · intro hforms tag htag
    have hlegible := allLegible_of_parse h
    obtain ⟨rs, hrs, rfl⟩ := (parse_renderAll_iff hlegible).1 hagain
    have hread := countP_of_reread (fun n => hlegible.isLegible) hblank hrs
    have hmap : Node.isSelfClosing ∘ Node.mapAttributes s.arrange = Node.isSelfClosing :=
      funext fun n => Node.isSelfClosing_mapAttributes s.arrange
    have hcount := congrArg (List.countP (·.1)) hforms
    rw [Node.countP_form?, Node.countP_form?, List.countP_map, hmap, hread, ← List.countP_filter,
      List.countP_eq_countP_filter_add ns Node.isSelfClosing Node.losesSlash, Nat.right_eq_add,
      List.countP_eq_zero] at hcount
    cases hloses : tag.losesSlash with
    | false => rfl
    | true =>
      have hslash : tag.selfClosing = true := by
        rw [OpeningTag.losesSlash, Bool.and_eq_true, Bool.and_eq_true] at hloses
        exact hloses.1.1
      exact absurd hslash (hcount _ (List.mem_filter.2 ⟨htag, hloses⟩))
  · intro hkeeps
    have hnodes : ∀ n ∈ ns, n.losesSlash = false := by
      intro n hn
      cases n with
      | openingTag tag => exact hkeeps tag hn
      | _ => rfl
    rw [eq_of_reparse h hblank hnodes hagain]

/-- Of the tags `<a c=x b />` and `<a c=x b/>`, written `<a b c=x />` and `<a b c=x/>`, the second
loses its slash to the value before it. -/
theorem forms_of_reparse_value :
    let b : Attribute := ⟨['b'], .plain, none⟩
    let c (value : Text) : Attribute := ⟨['c'], .plain, some value⟩
    let kept : OpeningTag := ⟨['a'], [b, c ['x']], [[' '], [' ']], [' '], true⟩
    let lost : OpeningTag := ⟨['a'], [b, c ['x']], [[' '], [' ']], [], true⟩
    let again : OpeningTag := ⟨['a'], [b, c ['x', '/']], [[' '], [' ']], [], false⟩
    let ns : List Node := [.openingTag kept, .openingTag lost]
    let ms : List Node := [.openingTag kept, .openingTag again]
    parse ⟨[]⟩ "<a c=x b /><a c=x b/>".toList = .ok ns ∧
      (∀ tag, .openingTag tag ∈ ns → [] ∉ tag.slotWhitespace) ∧
        parse ⟨[]⟩ (Node.renderAll ns) = .ok ms ∧
          kept.losesSlash = false ∧ lost.losesSlash = true ∧
            ms.filterMap Node.form? ≠ ns.filterMap Node.form? := by
  intro b c kept lost again ns ms
  have h : parse ⟨[]⟩ "<a c=x b /><a c=x b/>".toList = .ok ns := by cbv
  have hagain : parse ⟨[]⟩ (Node.renderAll ns) = .ok ms := by cbv
  have hblank (tag : OpeningTag) (htag : .openingTag tag ∈ ns) : [] ∉ tag.slotWhitespace := by
    obtain heq | heq := List.mem_pair.1 htag <;> cases heq <;> decide
  have hkept : kept.losesSlash = false := by decide
  have hlost : lost.losesSlash = true := by decide
  refine ⟨h, hblank, hagain, hkept, hlost, ?_⟩
  intro hforms
  have hmem : .openingTag lost ∈ ns := List.mem_pair.2 (.inr rfl)
  have hkeeps := (forms_of_reparse_iff h hblank hagain).1 hforms lost hmem
  rw [hlost] at hkeeps
  cases hkeeps

/-- The tag `<a c=x c=x b/>` is written `<a b c=x c=x/>`, which does not close itself. -/
theorem forms_of_reparse_joined :
    let b : Attribute := ⟨['b'], .plain, none⟩
    let c (value : Text) : Attribute := ⟨['c'], .plain, some value⟩
    let tag : OpeningTag := ⟨['a'], [b, c ['x'], c ['x']], [[' '], [' '], [' ']], [], true⟩
    let tag' : OpeningTag :=
      ⟨['a'], [b, c ['x', '/'], c ['x', '/']], [[' '], [' '], [' ']], [], false⟩
    parse ⟨[]⟩ "<a c=x c=x b/>".toList = .ok [.openingTag tag] ∧ [] ∉ tag.slotWhitespace ∧
      Node.renderAll [.openingTag tag] = "<a b c=x c=x/>".toList ∧
        parse ⟨[]⟩ (Node.renderAll [.openingTag tag]) = .ok [.openingTag tag'] ∧
          [Node.openingTag tag'].filterMap Node.form? ≠
            [Node.openingTag tag].filterMap Node.form? := by
  intro b c tag tag'
  exact ⟨by cbv, by decide, by cbv, by cbv, by decide⟩

end Document

end MarkupOrder
