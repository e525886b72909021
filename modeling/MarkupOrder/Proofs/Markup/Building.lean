import Mathlib.Data.List.Induction
import MarkupOrder.Order.Settings
import MarkupOrder.Proofs.Markup.Joining
import MarkupOrder.Proofs.Order.Arrangement

/-!
# Tags that are built step by step

While a tag is built, its attributes may be arranged and turned around between the steps. The slots
do not change places.

* `BuildStep`, `BuildStep.apply`: the steps, and what each of them makes of a tag.
* `OpeningTag.build`: the tag that some steps lead to.
* `OpeningTag.IsBuiltOf`: what is known of a tag from what has been pushed. `IsBuiltOf.apply` is about
  one step, and `OpeningTag.isBuiltOf_build` about steps one after another.
* `OpeningTag.build_fills_slots`: slots and attributes stay in step.
-/

namespace MarkupOrder

/-- A step in the building of a tag. -/
inductive BuildStep where
  /-- Append an attribute and the white space before it. -/
  | push (whitespace : Text) (a : Attribute)
  /-- Set the white space behind the last attribute, and whether `/` follows it. -/
  | finish (trailingWhitespace : Text) (selfClosing : Bool)
  /-- Arrange the attributes. -/
  | arrange (s : OrderSettings)
  /-- Turn the list of attributes around. -/
  | reverse

namespace BuildStep

/-- What a step makes of a tag. -/
def apply (tag : OpeningTag) : BuildStep → OpeningTag
  | push whitespace a => tag.push whitespace a
  | finish trailingWhitespace selfClosing => tag.finish trailingWhitespace selfClosing
  | arrange s => tag.mapAttributes s.arrange
  | reverse => tag.mapAttributes List.reverse

/-- The white space and the attribute that a step pushes. -/
def pushed? : BuildStep → Option (Text × Attribute)
  | push whitespace a => some (whitespace, a)
  | _ => none

/-- The end that a step gives to the tag. -/
def ending? : BuildStep → Option (Text × Bool)
  | finish trailingWhitespace selfClosing => some (trailingWhitespace, selfClosing)
  | _ => none

end BuildStep

namespace OpeningTag

variable {tag : OpeningTag} {name : Text} {pushed : List (Text × Attribute)} {ending : Text × Bool}

/-- The tag that some steps lead to, from a name on. -/
def build (name : Text) (steps : List BuildStep) : OpeningTag :=
  steps.foldl BuildStep.apply (named name)

/-- What is known of a tag from its name, from what has been pushed, and from the end that it was
given last. -/
structure IsBuiltOf (tag : OpeningTag) (name : Text) (pushed : List (Text × Attribute))
    (ending : Text × Bool) : Prop where
  name_eq : tag.name = name
  slotWhitespace_eq : tag.slotWhitespace = pushed.map (·.1)
  names_perm : (tag.attributes.map (·.name)).Perm (pushed.map (·.2.name))
  attributes_subset : tag.attributes ⊆ pushed.map (·.2)
  ending_eq : (tag.trailingWhitespace, tag.selfClosing) = ending

theorem isBuiltOf_named : (named name).IsBuiltOf name [] ([], false) :=
  ⟨rfl, rfl, .refl _, List.Subset.refl _, rfl⟩

namespace IsBuiltOf

theorem push (h : tag.IsBuiltOf name pushed ending) (whitespace : Text) (a : Attribute) :
    (tag.push whitespace a).IsBuiltOf name (pushed ++ [(whitespace, a)]) ending where
  name_eq := h.name_eq
  slotWhitespace_eq := by simp [OpeningTag.push, h.slotWhitespace_eq]
  names_perm := by simpa [OpeningTag.push] using h.names_perm.append_right [a.name]
  attributes_subset := by
    rw [List.map_append]
    exact List.append_subset.2 ⟨List.subset_append_of_subset_left _ h.attributes_subset,
      List.subset_append_right _ _⟩
  ending_eq := h.ending_eq

theorem finish (h : tag.IsBuiltOf name pushed ending) (trailing : Text) (slash : Bool) :
    (tag.finish trailing slash).IsBuiltOf name pushed (trailing, slash) :=
  ⟨h.name_eq, h.slotWhitespace_eq, h.names_perm, h.attributes_subset, rfl⟩

/-- The attributes may change as long as their names stay the same, as often as before. -/
theorem mapAttributes (h : tag.IsBuiltOf name pushed ending)
    {f : List Attribute → List Attribute}
    (hnames : ((f tag.attributes).map (·.name)).Perm (tag.attributes.map (·.name)))
    (hsub : f tag.attributes ⊆ tag.attributes) :
    (tag.mapAttributes f).IsBuiltOf name pushed ending where
  name_eq := h.name_eq
  slotWhitespace_eq := h.slotWhitespace_eq
  names_perm := hnames.trans h.names_perm
  attributes_subset := List.Subset.trans hsub h.attributes_subset
  ending_eq := h.ending_eq

theorem arrange (h : tag.IsBuiltOf name pushed ending) (s : OrderSettings) :
    (tag.mapAttributes s.arrange).IsBuiltOf name pushed ending := by
  refine h.mapAttributes ?_ fun a ha => Arrangement.mem_of_mem_attributes s.rank ha
  have hperm := Arrangement.names_perm s.rank (tag.attributes.map (·.name))
  rwa [← Arrangement.names_attributes] at hperm

theorem reverse (h : tag.IsBuiltOf name pushed ending) :
    (tag.mapAttributes List.reverse).IsBuiltOf name pushed ending :=
  h.mapAttributes ((List.reverse_perm _).map _) fun _ ha => List.mem_reverse.1 ha

/-- What a step pushes is added to what has been pushed, and an end takes the place of the last
one. -/
theorem apply (h : tag.IsBuiltOf name pushed ending) (step : BuildStep) :
    (step.apply tag).IsBuiltOf name (pushed ++ step.pushed?.toList)
      (step.ending?.getD ending) := by
  have hkeeps {tag' : OpeningTag} {ending' : Text × Bool} (h' : tag'.IsBuiltOf name pushed ending') :
      tag'.IsBuiltOf name (pushed ++ []) ending' := by
    rwa [List.append_nil]
  cases step with
  | push whitespace a => exact h.push whitespace a
  | finish trailing slash => exact hkeeps (h.finish trailing slash)
  | arrange s => exact hkeeps (h.arrange s)
  | reverse => exact hkeeps h.reverse

theorem length_attributes (h : tag.IsBuiltOf name pushed ending) :
    tag.attributes.length = tag.slotWhitespace.length := by
  have hlength := h.names_perm.length_eq
  rw [List.length_map, List.length_map] at hlength
  rw [hlength, h.slotWhitespace_eq, List.length_map]

end IsBuiltOf

theorem isBuiltOf_build (name : Text) (steps : List BuildStep) :
    (build name steps).IsBuiltOf name (steps.filterMap BuildStep.pushed?)
      ((steps.filterMap BuildStep.ending?).getLast?.getD ([], false)) := by
  induction steps using List.reverseRecOn with
  | nil => exact isBuiltOf_named
  | append_singleton steps step ih =>
    have happly := ih.apply step
    have hpushed : (steps ++ [step]).filterMap BuildStep.pushed? =
        steps.filterMap BuildStep.pushed? ++ step.pushed?.toList := by
      cases step <;> simp [BuildStep.pushed?]
    have hending : ((steps ++ [step]).filterMap BuildStep.ending?).getLast?.getD ([], false) =
        step.ending?.getD ((steps.filterMap BuildStep.ending?).getLast?.getD ([], false)) := by
      cases step <;> simp [BuildStep.ending?]
    rwa [build, List.foldl_append, hpushed, hending]

/-- **Slots and attributes stay in step.** However a tag is built, its slots hold the white space
that was pushed, in that order, and there is an attribute for each of them. The names are those that
were pushed, as often, and every attribute is one that was pushed. The name is the first one and the
end the last one that was given. What is written are the slots, all of them, each with its attribute
behind it. -/
theorem build_fills_slots (name : Text) (steps : List BuildStep) :
    let tag := build name steps
    let pushed := steps.filterMap BuildStep.pushed?
    tag.slotWhitespace = pushed.map (·.1) ∧
      tag.attributes.length = tag.slotWhitespace.length ∧
      (tag.attributes.map (·.name)).Perm (pushed.map (·.2.name)) ∧
      tag.attributes ⊆ pushed.map (·.2) ∧
      tag.name = name ∧
      (tag.trailingWhitespace, tag.selfClosing) =
        (steps.filterMap BuildStep.ending?).getLast?.getD ([], false) ∧
      tag.slots.map (·.1) = tag.slotWhitespace ∧ tag.slots.map (·.2) = tag.attributes ∧
      tag.render = ['<'] ++ tag.name ++ (tag.slots.flatMap fun p => p.1 ++ p.2.render) ++
        tag.trailingWhitespace ++ (if tag.selfClosing then ['/', '>'] else ['>']) := by
  intro tag pushed
  have h : tag.IsBuiltOf name pushed _ := isBuiltOf_build name steps
  have hlength := h.length_attributes
  exact ⟨h.slotWhitespace_eq, hlength, h.names_perm, h.attributes_subset, h.name_eq, h.ending_eq,
    List.map_fst_zip (Nat.le_of_eq hlength.symm), List.map_snd_zip (Nat.le_of_eq hlength), rfl⟩

end OpeningTag

end MarkupOrder
