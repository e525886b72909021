import MarkupOrder.Proofs.Document.Idempotence

/-!
# Names that are read again

An attribute that comes to stand directly behind another one, or behind the name of its tag, can
become a part of it.

* `OpeningTag.StaysApart`: the tags in which this does not happen.
* `OpeningTag.length_of_joinFrom_iff`, `OpeningTag.names_of_reread_iff`: the name of a tag and the
  names of its attributes are read again if and only if the tag stays apart.
* `Document.names_of_reparse_iff`: the same of all the tags of a document.
-/

namespace MarkupOrder

open Text

namespace Attribute

theorem name_of_close {a b : Attribute} {trailing : Text} {slash slash' : Bool}
    (h : a.close trailing slash = some (b, slash')) : b.name = a.name := by
  unfold close at h
  split at h
  · cases h
    rfl
  · split at h <;> cases h
    rfl
  · cases h
    rfl

end Attribute

namespace OpeningTag

/-- Whether the attributes of two neighbouring slots stay two attributes. -/
def SlotsApart (p q : Text × Attribute) : Prop := q.1 = [] → p.2.meet q.2 = .apart

/-- Whether the parts of a tag stay apart where the tag is written. -/
structure StaysApart (tag : OpeningTag) : Prop where
  /-- The tag is not written `</>`. -/
  opens : tag.isClosingForm = false
  /-- No plain attribute stands directly behind the name of the tag. -/
  name : ∀ p ∈ tag.slots.head?, p.1 = [] → p.2.wrapper ≠ .plain
  /-- No attribute goes on with one directly behind it. -/
  attributes : tag.slots.IsChain SlotsApart

variable {trailing w name : Text} {slash slash' : Bool} {a : Attribute}
  {rest ls : List (Text × Attribute)} {tag tag' : OpeningTag}

/-- No slot is lost if and only if the attributes stay apart. -/
theorem length_of_joinFrom_iff (h : joinFrom trailing slash w a rest = some (ls, slash')) :
    ls.length = rest.length + 1 ↔ ((w, a) :: rest).IsChain SlotsApart := by
  fun_induction joinFrom trailing slash w a rest generalizing ls slash' with
  | case1 w a =>
    obtain ⟨⟨b, slash₁⟩, -, h⟩ := Option.map_eq_some_iff.1 h
    cases h
    simp
  | case2 w a v b rest hm ih =>
    obtain ⟨⟨ls₁, slash₁⟩, hj, h⟩ := Option.map_eq_some_iff.1 h
    cases h
    have hapart : SlotsApart (w, a) (v, b) := by
      intro hv
      simpa [show v = [] from hv] using hm
    rw [List.isChain_cons_cons, and_iff_right hapart, ← ih hj]
    simp
  | case3 w a v b rest c hm ih =>
    have hlen := (length_of_joinFrom h).2
    constructor
    · intro heq
      rw [List.length_cons] at heq
      omega
    · intro hchain
      split at hm
      · rename_i hv
        have hapart := (List.isChain_cons_cons.1 hchain).1 (List.isEmpty_iff.1 hv)
        rw [hapart] at hm
        cases hm
      · cases hm
  | case4 => cases h

/-- Where no slot is lost, the names stay. -/
theorem names_of_joinFrom (h : joinFrom trailing slash w a rest = some (ls, slash'))
    (hlen : ls.length = rest.length + 1) :
    ls.map (·.2.name) = ((w, a) :: rest).map (·.2.name) := by
  fun_induction joinFrom trailing slash w a rest generalizing ls slash' with
  | case1 w a =>
    obtain ⟨⟨b, slash₁⟩, hc, h⟩ := Option.map_eq_some_iff.1 h
    cases h
    simp [Attribute.name_of_close hc]
  | case2 w a v b rest hm ih =>
    obtain ⟨⟨ls₁, slash₁⟩, hj, h⟩ := Option.map_eq_some_iff.1 h
    cases h
    have ih := ih hj (Nat.succ.inj hlen)
    rw [List.map_cons, ih, List.map_cons (l := (v, b) :: rest)]
  | case3 w a v b rest c hm ih =>
    have hle := (length_of_joinFrom h).2
    rw [hlen, List.length_cons] at hle
    omega
  | case4 => cases h

/-- The name of a tag and the number of its slots stay if and only if its parts stay apart. -/
theorem length_of_joinName_iff (h : joinName trailing slash name ls = some tag)
    (hls : SlotsLegible ls) : tag.name = name ∧ tag.attributes.length = ls.length ↔
      (∀ p ∈ ls.head?, p.1 = [] → p.2.wrapper ≠ .plain) ∧ ls.IsChain SlotsApart := by
  unfold joinName at h
  split at h
  · split at h <;> cases h
    simp [ofSlots]
  · rename_i w a rest
    obtain ⟨⟨-, ha⟩, -⟩ := slotsLegible_cons.1 hls
    split at h
    · rename_i hw
      rw [Bool.and_eq_true, List.isEmpty_iff, beq_iff_eq] at hw
      have hplain : ¬ ∀ p ∈ ((w, a) :: rest).head?, p.1 = [] → p.2.wrapper ≠ .plain :=
        fun hfirst => hfirst (w, a) rfl hw.1 hw.2
      refine iff_of_false ?_ fun hright => hplain hright.1
      rintro ⟨hname, hlen⟩
      -- the name of the tag takes the attribute, or a part of it
      split at h
      · have hle := (prefix_of_joinName h).2
        rw [hlen, List.length_cons] at hle
        omega
      · rename_i hs
        obtain ⟨⟨ls₁, slash₁⟩, -, h⟩ := Option.map_eq_some_iff.1 h
        cases h
        have hne := splitTagName_ne_nil_of_plain ha hw.2
        rw [hs] at hne
        exact hne (List.append_right_eq_self.1 hname)
      · cases h
    · rename_i hw
      obtain ⟨⟨ls₁, slash₁⟩, hj, h⟩ := Option.map_eq_some_iff.1 h
      cases h
      have hfirst : ∀ p ∈ ((w, a) :: rest).head?, p.1 = [] → p.2.wrapper ≠ .plain := by
        rintro _ ⟨⟩ hnil hplain
        exact hw (by simp [show w = [] from hnil, show a.wrapper = .plain from hplain])
      rw [and_iff_right hfirst, ← length_of_joinFrom_iff hj]
      simp [ofSlots]

/-- Where the parts of a tag stay apart, the names stay. -/
theorem names_of_joinName (h : joinName trailing slash name ls = some tag)
    (hfirst : ∀ p ∈ ls.head?, p.1 = [] → p.2.wrapper ≠ .plain) (hapart : ls.IsChain SlotsApart) :
    tag.attributes.map (·.name) = ls.map (·.2.name) := by
  unfold joinName at h
  split at h
  · split at h <;> cases h
    rfl
  · rename_i w a rest
    split at h
    · rename_i hw
      rw [Bool.and_eq_true, List.isEmpty_iff, beq_iff_eq] at hw
      exact absurd hw.2 (hfirst (w, a) rfl hw.1)
    · obtain ⟨⟨ls₁, slash₁⟩, hj, h⟩ := Option.map_eq_some_iff.1 h
      cases h
      have hnames := names_of_joinFrom hj ((length_of_joinFrom_iff hj).2 hapart)
      change (ls₁.map (·.2)).map (·.name) = _
      rw [List.map_map]
      exact hnames

/-- **A tag and its attributes have the same names when they are read again if and only if the parts
of the tag stay apart.** -/
theorem names_of_reread_iff (ht : tag.isLegible = true) (hform : tag.isClosingForm = false)
    (h : tag.reread = some tag') :
    tag'.name = tag.name ∧ (tag'.attributes.map (·.name)).Perm (tag.attributes.map (·.name)) ↔
      tag.StaysApart := by
  obtain ⟨hlen, -, hslots, -⟩ := isLegible_iff.1 ht
  have hslotsLength : tag.slots.length = tag.attributes.length := by
    rw [slots, List.length_zip, hlen, Nat.min_self]
  have hslotNames : tag.slots.map (·.2.name) = tag.attributes.map (·.name) := by
    have hmap := congrArg (List.map (·.name)) (List.map_snd_zip (Nat.le_of_eq hlen.symm))
    rwa [List.map_map] at hmap
  have hiff := length_of_joinName_iff h hslots
  rw [hslotsLength] at hiff
  constructor
  · rintro ⟨hname, hnames⟩
    have hcount := hnames.length_eq
    rw [List.length_map, List.length_map] at hcount
    obtain ⟨hfirst, hapart⟩ := hiff.1 ⟨hname, hcount⟩
    exact ⟨hform, hfirst, hapart⟩
  · intro hstays
    refine ⟨(hiff.2 ⟨hstays.name, hstays.attributes⟩).1, ?_⟩
    rw [names_of_joinName h hstays.name hstays.attributes, hslotNames]

end OpeningTag

namespace Node

/-- The opening tag that a node is. -/
def tag? : Node → Option OpeningTag
  | openingTag tag => some tag
  | _ => none

theorem mem_filterMap_tag? {ns : List Node} {tag : OpeningTag} :
    tag ∈ ns.filterMap tag? ↔ .openingTag tag ∈ ns := by
  rw [List.mem_filterMap]
  constructor
  · rintro ⟨n, hn, htag⟩
    cases n <;> cases htag
    exact hn
  · exact fun h => ⟨_, h, rfl⟩

end Node

namespace Document

variable {s : OrderSettings} {input : Text} {ms ns rs : List Node}

/-- Whether two tags have the same name, and attributes of the same names as often. -/
def SameNames (tag tag' : OpeningTag) : Prop :=
  tag'.name = tag.name ∧ (tag'.attributes.map (·.name)).Perm (tag.attributes.map (·.name))

theorem sameNames_mapAttributes {tag tag' : OpeningTag} :
    SameNames tag (tag'.mapAttributes s.arrange) ↔ SameNames tag tag' := by
  have hperm : ((tag'.mapAttributes s.arrange).attributes.map (·.name)).Perm
      (tag'.attributes.map (·.name)) := by
    have hnames := Arrangement.names_perm s.rank (tag'.attributes.map (·.name))
    rwa [← Arrangement.names_attributes] at hnames
  exact and_congr_right fun _ => ⟨hperm.symm.trans, hperm.trans⟩

/-- Reading again makes no opening tags. -/
theorem length_tags_of_reread (h : ns.map Node.reread = rs.map some) :
    (rs.filterMap Node.tag?).length ≤ (ns.filterMap Node.tag?).length := by
  induction ns generalizing rs with
  | nil =>
    cases List.map_eq_nil_iff.1 h.symm
    exact Nat.le_refl _
  | cons n ns ih =>
    obtain ⟨r, rs, rfl, hr, hrs⟩ := List.map_eq_cons_iff.1 h.symm
    have ih := ih hrs.symm
    rcases Node.cases_of_reread hr.symm with rfl | ⟨tag, rfl, ⟨-, rfl⟩ | ⟨tag', -, rfl⟩⟩
    · cases r with
      | openingTag tag => exact Nat.succ_le_succ ih
      | _ => exact ih
    · exact Nat.le_succ_of_le ih
    · exact Nat.succ_le_succ ih

/-- The tags of a document have the same names when they are read again if and only if each of them
stays apart. -/
theorem sameNames_of_reread_iff (hns : ∀ n ∈ ns, n.IsLegible)
    (h : ns.map Node.reread = rs.map some) :
    List.Forall₂ SameNames (ns.filterMap Node.tag?) (rs.filterMap Node.tag?) ↔
      ∀ tag ∈ ns.filterMap Node.tag?, tag.StaysApart := by
  induction ns generalizing rs with
  | nil =>
    cases List.map_eq_nil_iff.1 h.symm
    simp
  | cons n ns ih =>
    obtain ⟨r, rs, rfl, hr, hrs⟩ := List.map_eq_cons_iff.1 h.symm
    obtain ⟨hn, hns⟩ := List.forall_mem_cons.1 hns
    have ih := ih hns hrs.symm
    cases n with
    | openingTag tag =>
      rw [List.filterMap_cons_some (f := Node.tag?) (b := tag) rfl, List.forall_mem_cons]
      rw [Node.reread] at hr
      split at hr
      · -- the tag is written `</>`, and a tag fewer is read
        rename_i hform
        cases hr
        refine iff_of_false ?_ ?_
        · intro htags
          have hlen := htags.length_eq
          have hle := length_tags_of_reread hrs.symm
          rw [List.filterMap_cons_none (f := Node.tag?) rfl, List.length_cons] at hlen
          omega
        · rintro ⟨hstays, -⟩
          rw [hstays.opens] at hform
          cases hform
      · rename_i hform
        obtain ⟨tag', htag, rfl⟩ := Option.map_eq_some_iff.1 hr.symm
        rw [List.filterMap_cons_some (f := Node.tag?) (b := tag') rfl, List.forall₂_cons, ih]
        exact and_congr_left' (OpeningTag.names_of_reread_iff hn (by simpa using hform) htag)
    | _ =>
      cases hr
      exact ih

/-- **Names are read again unless attributes come to touch.** Where a document has been reordered
and what was written can be read, its tags are the tags as before, each with its name and with the
names of its attributes, if and only if the parts of every tag stay apart. -/
theorem names_of_reparse_iff (h : parse s input = .ok ns)
    (hagain : parse s (Node.renderAll ns) = .ok ms) :
    List.Forall₂ SameNames (ns.filterMap Node.tag?) (ms.filterMap Node.tag?) ↔
      ∀ tag, .openingTag tag ∈ ns → tag.StaysApart := by
  have hlegible := allLegible_of_parse h
  obtain ⟨rs, hrs, rfl⟩ := (parse_renderAll_iff hlegible).1 hagain
  have htags : (rs.map (Node.mapAttributes s.arrange)).filterMap Node.tag? =
      (rs.filterMap Node.tag?).map (OpeningTag.mapAttributes s.arrange) := by
    rw [List.filterMap_map, List.map_filterMap]
    congr 1
    funext r
    cases r <;> rfl
  rw [htags, List.forall₂_map_right_iff]
  simp only [sameNames_mapAttributes]
  rw [sameNames_of_reread_iff (fun n => hlegible.isLegible) hrs]
  exact forall_congr' fun tag => by rw [Node.mem_filterMap_tag?]

/-- The tag `<a z="1" y>` is written with its attributes apart. -/
theorem names_of_reparse_apart :
    let y : Attribute := ⟨['y'], .plain, none⟩
    let z : Attribute := ⟨['z'], .plain, some "\x221\x22".toList⟩
    let tag : OpeningTag := ⟨['a'], [y, z], [[' '], [' ']], [], false⟩
    parse ⟨[]⟩ "<a z=\x221\x22 y>".toList = .ok [.openingTag tag] ∧
      parse ⟨[]⟩ (Node.renderAll [.openingTag tag]) = .ok [.openingTag tag] ∧
        tag.StaysApart := by
  intro y z tag
  have h : parse ⟨[]⟩ "<a z=\x221\x22 y>".toList = .ok [.openingTag tag] := by cbv
  have hagain : parse ⟨[]⟩ (Node.renderAll [.openingTag tag]) = .ok [.openingTag tag] := by cbv
  refine ⟨h, hagain, (names_of_reparse_iff h hagain).1 ?_ tag List.mem_cons_self⟩
  exact List.forall₂_same.2 fun _ _ => ⟨rfl, List.Perm.refl _⟩

/-- The tag `<a bb="1"b bba>` is written `<a bbb="1" bba>`, which has an attribute fewer. -/
theorem names_of_reparse_joined :
    let b (name : Text) (value? : Option Text) : Attribute := ⟨name, .plain, value?⟩
    let value : Text := "\x221\x22".toList
    let tag : OpeningTag := ⟨['a'], [b ['b'] none, b ['b', 'b'] (some value),
      b ['b', 'b', 'a'] none], [[' '], [], [' ']], [], false⟩
    let tag' : OpeningTag := ⟨['a'], [b ['b', 'b', 'a'] none, b ['b', 'b', 'b'] (some value)],
      [[' '], [' ']], [], false⟩
    parse ⟨[]⟩ "<a bb=\x221\x22b bba>".toList = .ok [.openingTag tag] ∧
      parse ⟨[]⟩ (Node.renderAll [.openingTag tag]) = .ok [.openingTag tag'] ∧
        ¬List.Forall₂ SameNames [tag] [tag'] := by
  intro b value tag tag'
  refine ⟨by cbv, by cbv, ?_⟩
  intro hnames
  have hlen := (List.forall₂_cons.1 hnames).1.2.length_eq
  exact absurd hlen (by decide)

end Document

end MarkupOrder
