import MarkupOrder.Proofs.Document.Lossless
import Mathlib

/-!
# Documents are read back

* `Document.parse_renderAll_iff`: what is read where legible nodes are written.
* `Node.IsWellFormed`: the forms of nodes in terms of characters. Well-formed nodes are legible
  (`Node.IsWellFormed.isLegible`) and are read as themselves (`Node.IsWellFormed.reread_eq`).
* `Document.parse_renderAll`: a document of well-formed nodes is read back from its text.
-/

namespace MarkupOrder

open Unicode Text Lexeme

theorem mapM_eq_some_iff {α β : Type} {f : α → Option β} {as : List α} {bs : List β} :
    as.mapM f = some bs ↔ as.map f = bs.map some := by
  induction as generalizing bs with
  | nil => cases bs <;> simp
  | cons a as ih =>
    rw [List.mapM_cons]
    cases bs with
    | nil => cases f a <;> cases as.mapM f <;> simp
    | cons b bs =>
      rw [List.map_cons, List.map_cons, List.cons.injEq, ← ih]
      cases f a <;> cases as.mapM f <;> simp

/-- **What is read where legible nodes are written.** -/
theorem Document.parse_renderAll_iff {s : OrderSettings} {ns ms : List Node}
    (hns : Node.AllLegible ns) : parse s (Node.renderAll ns) = .ok ms ↔
      ∃ rs : List Node, ns.map Node.reread = rs.map some ∧
        ms = rs.map (Node.mapAttributes s.arrange) := by
  have hread := SourceNode.readAll_renderAll id hns
  have hmap (rs : List Node) : (rs.map fun m => (⟨[], m.mapAttributes id⟩ : SourceNode)).map
      (fun n => n.node.mapAttributes s.arrange) = rs.map (Node.mapAttributes s.arrange) := by
    simp [Node.mapAttributes_id]
  rw [parse_eq_ok_iff, read, hread]
  simp only [Option.map_eq_some_iff, mapM_eq_some_iff]
  constructor
  · rintro ⟨_, ⟨rs, hrs, rfl⟩, rfl⟩
    exact ⟨rs, hrs, hmap rs⟩
  · rintro ⟨rs, hrs, rfl⟩
    exact ⟨_, ⟨rs, hrs, rfl⟩, (hmap rs).symm⟩

/-! ## Well-formed nodes -/

/-- Whether every `<` begins a declaration. -/
def Text.opensBangTags : Text → Bool
  | [] => true
  | c :: t =>
    (c != '<' || Text.startsWith t ['!'] && !Text.startsWith t ['!', '-', '-']) && opensBangTags t

namespace OpeningTag

/-- Whether the last attribute of a tag stays as it is at the end of the tag: white space stands
behind it, or it neither ends in a value without quotes before `/` nor in two hyphens before `>`. -/
def endsClear (tag : OpeningTag) : Bool :=
  !tag.trailingWhitespace.isEmpty ||
    match tag.attributes.getLast?, tag.selfClosing with
    | none, slash => slash || !tag.name.endsInHyphens
    | some a, true => a.ending != .bare
    | some a, false => a.ending != .name || !a.name.endsInHyphens

/-- Whether a tag is well-formed: its parts have the form that they are read in, white space stands
before every attribute, and a tag without a name has nothing else either. -/
structure IsWellFormed (tag : OpeningTag) : Prop where
  name : tag.name.isWords isTagMark = true
  nameless : tag.name = [] →
    tag.attributes = [] ∧ tag.trailingWhitespace = [] ∧ tag.selfClosing = false
  length_eq : tag.slotWhitespace.length = tag.attributes.length
  slots : ∀ w ∈ tag.slotWhitespace, w ≠ [] ∧ w.all isWhitespace = true
  trailing : tag.trailingWhitespace.all isWhitespace = true
  attributes : ∀ a ∈ tag.attributes, a.isLegible = true
  endsClear : tag.endsClear = true

instance (tag : OpeningTag) : Decidable tag.IsWellFormed :=
  decidable_of_iff (tag.name.isWords isTagMark = true ∧
      (tag.name = [] →
        tag.attributes = [] ∧ tag.trailingWhitespace = [] ∧ tag.selfClosing = false) ∧
      tag.slotWhitespace.length = tag.attributes.length ∧
      (∀ w ∈ tag.slotWhitespace, w ≠ [] ∧ w.all isWhitespace = true) ∧
      tag.trailingWhitespace.all isWhitespace = true ∧
      (∀ a ∈ tag.attributes, a.isLegible = true) ∧ tag.endsClear = true)
    ⟨fun ⟨h₁, h₂, h₃, h₄, h₅, h₆, h₇⟩ => ⟨h₁, h₂, h₃, h₄, h₅, h₆, h₇⟩,
      fun ⟨h₁, h₂, h₃, h₄, h₅, h₆, h₇⟩ => ⟨h₁, h₂, h₃, h₄, h₅, h₆, h₇⟩⟩

end OpeningTag

namespace Node

/-- Whether a node is well-formed, in terms of its characters. -/
def IsWellFormed : Node → Prop
  | text content => content ≠ [] ∧ ¬ ['<'] <+: content ∧ content.opensBangTags = true
  | openingTag tag => tag.IsWellFormed
  | closingTag name => name.isWords isTagMark = true ∧ name.endsInHyphens = false
  | comment content => ¬ ['-', '-', '>'] <:+: content ∧ ¬ ['<', '!'] <:+: content
  | bangTag content => '>' ∉ content ∧ ¬ ['-', '-'] <+: content ∧ ¬ ['-', '-'] <:+ content

instance : (n : Node) → Decidable n.IsWellFormed
  | text _ => inferInstanceAs (Decidable (_ ∧ _ ∧ _))
  | openingTag tag => inferInstanceAs (Decidable tag.IsWellFormed)
  | closingTag _ | comment _ => inferInstanceAs (Decidable (_ ∧ _))
  | bangTag _ => inferInstanceAs (Decidable (_ ∧ _ ∧ _))

end Node

/-! ## Well-formed nodes are legible -/

namespace Text

theorem opensBangTags_drop {t : Text} (h : t.opensBangTags = true) (n : Nat) :
    Text.opensBangTags (t.drop n) = true := by
  induction t generalizing n with
  | nil => rwa [List.drop_nil]
  | cons c t ih =>
    cases n with
    | zero => exact h
    | succ n =>
      rw [opensBangTags, Bool.and_eq_true] at h
      exact ih h.2 n

end Text

namespace Lexeme

/-- The text of a lexeme is a part of the text that it was cut from. -/
theorem text_within {t : Text} {l : Lexeme} (hl : l ∈ ofText t) : l.text <:+: t := by
  obtain ⟨ks, ls, hsplit⟩ := List.append_of_mem hl
  refine ⟨joined ks, joined ls, ?_⟩
  rw [← joined_ofText t, hsplit]
  simp

/-- Where every `<` begins a declaration, nothing ends a text. -/
theorem endsText_of_opensBangTags {t : Text} (h : t.opensBangTags = true) :
    ∀ l ∈ ofText t, SourceNode.endsText l = false := by
  fun_induction ofText t with
  | case1 => simp
  | case2 c rest ih =>
    refine List.forall_mem_cons.2 ⟨?_, ih ?_⟩
    · rw [Text.opensBangTags, Bool.and_eq_true] at h
      have hleads := leads_leading c rest
      rw [SourceNode.endsText, first]
      generalize (leading c rest).1 = k, (leading c rest).2 = n at hleads
      cases hleads with
      | commentStart hstart => simp [hstart] at h
      | punctuation hp hopen =>
        cases k with
        | tagOpen =>
          have hc : '<' = c := by simpa [Kind.text?] using Kind.text?_of_punctuation hp
          simp [← hc, hopen hc.symm] at h
        | commentStart => cases Kind.text?_of_punctuation hp
        | _ => rfl
      | _ => rfl
    · exact Text.opensBangTags_drop h ((leading c rest).2 + 1)

end Lexeme

namespace OpeningTag

variable {tag : OpeningTag}

theorem IsWellFormed.isLegible (h : tag.IsWellFormed) : tag.isLegible = true := by
  refine isLegible_iff.2 ⟨h.length_eq, h.name, ?_, h.trailing, fun hname => ?_⟩
  · rintro ⟨w, a⟩ hp
    obtain ⟨hw, ha⟩ := List.of_mem_zip hp
    exact ⟨(h.slots w hw).2, h.attributes a ha⟩
  · obtain ⟨has, htrailing, -⟩ := h.nameless hname
    have hlen := h.length_eq
    rw [has, List.length_nil, List.length_eq_zero_iff] at hlen
    rw [hlen, htrailing]
    rfl

/-- The last attribute of a well-formed tag stays as it is. -/
theorem IsWellFormed.close_eq (h : tag.IsWellFormed) {a : Attribute}
    (ha : tag.attributes.getLast? = some a) :
    a.close tag.trailingWhitespace tag.selfClosing = some (a, tag.selfClosing) := by
  have hclear := h.endsClear
  rw [OpeningTag.endsClear, ha] at hclear
  unfold Attribute.close
  split
  · rename_i htrailing hend hslash
    simp [htrailing, hend, hslash] at hclear
  · rename_i htrailing hend hslash
    rw [htrailing, hslash] at hclear
    rw [if_neg (by simpa [hend] using hclear), hslash]
  · rfl

theorem IsWellFormed.reread_eq (h : tag.IsWellFormed) : tag.reread = some tag := by
  have hself := ofSlots_slots h.length_eq
  rcases List.eq_nil_or_concat tag.slots with hslots | ⟨init, p, hslots⟩
  · have has : tag.attributes = [] := by
      rw [← hself, hslots]
      rfl
    have hclear := h.endsClear
    rw [OpeningTag.endsClear, has] at hclear
    rw [reread_of_slots_nil hslots, if_neg ?_, ← hslots, hself]
    cases hslash : tag.selfClosing <;> by_cases htrailing : tag.trailingWhitespace = [] <;>
      simp_all
  · rw [List.concat_eq_append] at hslots
    have hlast : tag.attributes.getLast? = some p.2 := by
      rw [← hself, hslots]
      simp [ofSlots]
    have hblank : ∀ q ∈ tag.slots, q.1 ≠ [] := by
      intro q hq
      exact (h.slots q.1 (List.of_mem_zip hq).1).1
    rw [reread_of_slots_concat hslots hblank, h.close_eq hlast, Option.map_some]
    rw [hslots] at hself
    exact congrArg some hself

end OpeningTag

namespace Node

variable {n : Node}

theorem IsWellFormed.isLegible (h : n.IsWellFormed) : n.IsLegible := by
  cases n with
  | text content =>
    obtain ⟨hne, hhead, hopens⟩ := h
    obtain ⟨c, t, rfl⟩ := List.exists_cons_of_ne_nil hne
    refine ⟨first c t, ofText (behind c t), ofText_cons c t, fun hk => ?_, fun l hl => ?_⟩
    · have hc : c = '<' := by
        simp only [List.mem_cons, List.not_mem_nil, or_false] at hk
        rcases hk with hk | hk | hk
        all_goals
          have hfirst := head?_of_text? (c := c) (t := t) (by rw [hk]; rfl)
          exact (Option.some.inj hfirst).symm
      exact hhead (by simp [hc])
    · have hmem := List.mem_cons_of_mem (first c t) hl
      rw [← ofText_cons] at hmem
      exact endsText_of_opensBangTags hopens l hmem
  | openingTag tag => exact OpeningTag.IsWellFormed.isLegible h
  | closingTag name => exact ⟨h.1, stands_close h.2⟩
  | comment content =>
    have hkind (l : Lexeme) (hl : l ∈ ofText content) (t : Text) (ht : l.kind.text? = some t) :
        t <:+: content := by
      rw [← ((stands_ofText content).isWhole hl).text_eq ht]
      exact text_within hl
    refine ⟨(stands_ofText content).beforeCommentEnd (fun l hl hk => ?_) [], fun l hl hk => ?_⟩
    · exact h.2 (hkind l hl _ (by rw [hk]; rfl))
    · exact h.1 (hkind l hl _ (by rw [hk]; rfl))
  | bangTag content =>
    obtain ⟨hmem, hstart, hend⟩ := h
    refine ⟨hstart, stands_close ?_, fun l hl hk => hmem ?_⟩
    · rwa [endsInHyphens, ← Bool.not_eq_true, List.isSuffixOf_iff_suffix]
    · have htext := ((stands_ofText content).isWhole hl).text_eq (t := ['>']) (by rw [hk]; rfl)
      exact (text_within hl).subset (by simp [htext])

theorem IsWellFormed.reread_eq (h : n.IsWellFormed) : n.reread = some n := by
  cases n with
  | openingTag tag =>
    have hform : tag.isClosingForm = false := by
      cases hname : tag.name with
      | nil => simp [OpeningTag.isClosingForm, (OpeningTag.IsWellFormed.nameless h hname).2.2]
      | cons => simp [OpeningTag.isClosingForm, hname]
    rw [reread, hform, if_neg Bool.false_ne_true, OpeningTag.IsWellFormed.reread_eq h]
    rfl
  | _ => rfl

theorem AllLegible.isChain {ns : List Node} (h : AllLegible ns) :
    ns.IsChain fun m n => m.mayFollow n = true := by
  induction ns with
  | nil => exact .nil
  | cons n ns ih =>
    exact List.isChain_cons.2 ⟨(Option.all_eq_true _ _).1 h.2.1, ih h.2.2⟩

theorem allLegible_of_isWellFormed {ns : List Node} (hns : ∀ n ∈ ns, n.IsWellFormed)
    (hfollow : ns.IsChain fun m n => m.mayFollow n = true) : AllLegible ns := by
  induction ns with
  | nil => trivial
  | cons n ns ih =>
    obtain ⟨hn, hns⟩ := List.forall_mem_cons.1 hns
    obtain ⟨hnext, hfollow⟩ := List.isChain_cons.1 hfollow
    exact ⟨hn.isLegible, (Option.all_eq_true _ _).2 hnext, ih hns hfollow⟩

end Node

/-- **Reading undoes writing.** A document of well-formed nodes, no text of which stands directly
before another text or a declaration, is read back with the attributes of its tags in order. -/
theorem Document.parse_renderAll (s : OrderSettings) {ns : List Node}
    (hns : ∀ n ∈ ns, n.IsWellFormed) (hfollow : ns.IsChain fun m n => m.mayFollow n = true) :
    parse s (Node.renderAll ns) = .ok (ns.map (Node.mapAttributes s.arrange)) := by
  refine (parse_renderAll_iff (Node.allLegible_of_isWellFormed hns hfollow)).2 ⟨ns, ?_, rfl⟩
  exact List.map_congr_left fun n hn => (hns n hn).reread_eq

/-- The document `a<b #y x=1 /></b><!--!--><!D>`, whose nodes are of every kind. -/
theorem Document.parse_renderAll_every_kind :
    let tag (as : List Attribute) : Node := .openingTag ⟨['b'], as, [[' '], [' ']], [' '], true⟩
    let x : Attribute := ⟨['x'], .plain, some ['1']⟩
    let y : Attribute := ⟨['y'], .hash, none⟩
    let around (n : Node) : List Node :=
      [.text ['a'], n, .closingTag ['b'], .comment ['!'], .bangTag ['D']]
    (∀ n ∈ around (tag [y, x]), n.IsWellFormed) ∧
      (around (tag [y, x])).IsChain (fun m n => m.mayFollow n = true) ∧
        parse ⟨[]⟩ (Node.renderAll (around (tag [y, x]))) = .ok (around (tag [x, y])) := by
  intro tag x y around
  have hns : ∀ n ∈ around (tag [y, x]), n.IsWellFormed := by decide +kernel
  have hfollow : (around (tag [y, x])).IsChain fun m n => m.mayFollow n = true := by decide
  have hparse := Document.parse_renderAll ⟨[]⟩ hns hfollow
  have harrange : (⟨[]⟩ : OrderSettings).arrange [y, x] = [x, y] := by cbv
  refine ⟨hns, hfollow, hparse.trans ?_⟩
  simp [around, tag, Node.mapAttributes, OpeningTag.mapAttributes, harrange]

end MarkupOrder
