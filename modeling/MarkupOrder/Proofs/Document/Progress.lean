import MarkupOrder.Document
import MarkupOrder.Proofs.Source.Loops
import Mathlib

/-!
# Reading makes progress

Every pass over the nodes of a document, and every pass over the slots of a tag, leaves fewer
characters than it finds, or is the last one. So the reading ends, and could be cut off.

* `Document.AtNode`, `Document.AtSlot`: the states that the two loops come to.
* `Document.suffix_of_atNode`, `Document.stands_of_atSlot`: what is left in them.
* `Document.charactersLeft_of_read`, `Document.charactersLeft_of_slot`: a pass that goes on.
* `Document.exists_runs_nodes`, `Document.exists_runs_slots`: the number of passes.
* `Document.readWithin`, `Document.parseWithin`: the reading with both loops cut off.
* `Document.passes_make_progress`: all of this.
-/

namespace MarkupOrder

namespace SourceNode

open Lexeme

variable (arrange : List Attribute → List Attribute)
  (readOn : OpeningTag × List Lexeme → Except Failure (OpeningTag × List Lexeme))

/-- Whether an opening tag begins with the lexeme `l` before `rest`. -/
def opensTag (l : Lexeme) (rest : List Lexeme) : Bool :=
  l.kind == .tagOpen && rest.head?.all (·.kind != .slash)

/-- Read a node, where `readOn` reads the slots of an opening tag, from the first one on. -/
def readBy (l : Lexeme) (rest : List Lexeme) : Except Failure (SourceNode × List Lexeme) :=
  if opensTag l rest then do
    let (tag, behind) ← readOn (OpeningTag.slotStart rest)
    let behind ← Expectation.tagEnd.meet behind
    return (⟨(blank rest).1, .openingTag (tag.mapAttributes arrange)⟩, behind)
  else read arrange l rest

variable {arrange readOn} {l : Lexeme} {rest : List Lexeme}

theorem read_of_opensTag (h : opensTag l rest = true) :
    read arrange l rest = readOpeningTag arrange rest := by
  rw [opensTag, Bool.and_eq_true, beq_iff_eq] at h
  rw [read_eq, h.1]
  rcases rest with _ | ⟨⟨k, t⟩, rest⟩
  · rfl
  · cases k with
    | slash => exact absurd h.2 (by simp)
    | _ => rfl

/-- What matters of the way in which slots are read is what it makes of the slots that are there. -/
theorem readBy_eq (h : opensTag l rest = true → readOn (OpeningTag.slotStart rest) =
    (OpeningTag.slotStart rest).1.readAttributes (OpeningTag.slotStart rest).2) :
    readBy arrange readOn l rest = read arrange l rest := by
  rw [readBy]
  split
  · rename_i hopens
    rw [read_of_opensTag hopens, h hopens]
    rfl
  · rfl

end SourceNode

namespace Document

open Lexeme

section States

variable (arrange : List Attribute → List Attribute) (input : Text)

/-- The states of the loop over the nodes of a text: the nodes that have been read, and the lexemes
that are left. -/
def AtNode (ns : List SourceNode) (ls : List Lexeme) : Prop :=
  (SourceNode.nodeLoop (SourceNode.read arrange)).Reaches ([], ofText input) (ns, ls)

/-- The states of the loop over the slots of the opening tags of a text: the tag as far as it has
been read, and the lexemes that are left. -/
def AtSlot (tag : OpeningTag) (ls : List Lexeme) : Prop :=
  ∃ ns l rest, AtNode arrange input ns (l :: rest) ∧ SourceNode.opensTag l rest = true ∧
    OpeningTag.slotLoop.Reaches (OpeningTag.slotStart rest) (tag, ls)

end States

variable {arrange : List Attribute → List Attribute} {input : Text} {ns : List SourceNode}
  {tag : OpeningTag} {l : Lexeme} {ls rest : List Lexeme}

/-- What is left before a node are the last lexemes of the text. -/
theorem suffix_of_atNode (h : AtNode arrange input ns ls) : ls <:+ ofText input := by
  refine Loop.Reaches.induction (P := fun s => s.2 <:+ ofText input) h List.suffix_rfl ?_
  intro s t hs hpass
  obtain ⟨l, behind, hl, n, hread⟩ := SourceNode.exists_read_of_goesOn hpass
  rw [hl] at hs
  exact (SourceNode.suffix_of_read hread).trans ((List.suffix_cons l behind).trans hs)

theorem charactersLeft_of_atNode (h : AtNode arrange input ns ls) :
    charactersLeft ls ≤ input.length :=
  charactersLeft_ofText input ▸ charactersLeft_le (suffix_of_atNode h)

/-- What is left before a slot is cut as it would be by itself, be it made up or not. -/
theorem stands_of_atSlot (h : AtSlot arrange input tag ls) : Stands ls [] := by
  obtain ⟨ns, l, rest, hnode, -, hreach⟩ := h
  -- behind a `>` that is made up, what is left are no longer the last lexemes of the text
  refine Loop.Reaches.induction (P := fun s => Stands s.2 []) hreach ?_ ?_
  · have hrest := (List.suffix_cons l rest).trans (suffix_of_atNode hnode)
    exact stands_of_suffix ((OpeningTag.suffix_slotStart rest).trans hrest)
  · intro s t hs hpass
    obtain ⟨w, a, -, -, htake⟩ := OpeningTag.takes_of_goesOn hs hpass
    exact htake.stands

/-! ## Fewer characters are left -/

/-- A node takes at least the characters of its first lexeme. -/
theorem charactersLeft_of_read {n : SourceNode} {behind : List Lexeme}
    (h : AtNode arrange input ns (l :: rest))
    (hread : SourceNode.read arrange l rest = .ok (n, behind)) :
    charactersLeft behind < charactersLeft (l :: rest) := by
  have hs := stands_of_suffix (suffix_of_atNode h)
  have hpos := List.length_pos_iff.2 hs.1.ne_nil
  have hle := charactersLeft_le (SourceNode.suffix_of_read hread)
  rw [charactersLeft_cons]
  omega

theorem charactersLeft_of_slot {tag' : OpeningTag} {behind : List Lexeme}
    (h : AtSlot arrange input tag ls)
    (hpass : OpeningTag.slotLoop.GoesOn (tag, ls) (tag', behind)) :
    charactersLeft behind < charactersLeft ls :=
  OpeningTag.charactersLeft_of_goesOn (stands_of_atSlot h) hpass

/-! ## The number of passes -/

theorem exists_runs_nodes (arrange : List Attribute → List Attribute) (input : Text) :
    ∃ n ≤ input.length + 1, (SourceNode.nodeLoop (SourceNode.read arrange)).Runs
      ([], ofText input) n (read arrange input) := by
  have hlt (s t : List SourceNode × List Lexeme) (hs : AtNode arrange input s.1 s.2)
      (hpass : (SourceNode.nodeLoop (SourceNode.read arrange)).GoesOn s t) :
      charactersLeft t.2 < charactersLeft s.2 := by
    obtain ⟨ns, ls⟩ := s
    obtain ⟨l, rest, rfl, n, hread⟩ := SourceNode.exists_read_of_goesOn hpass
    exact charactersLeft_of_read hs hread
  obtain ⟨n, hn, hruns⟩ := Loop.exists_runs (s := ([], ofText input))
    (fun s => charactersLeft s.2) (SourceNode.solves_nodeLoop arrange) hlt
  rw [charactersLeft_ofText] at hn
  exact ⟨n, hn, hruns⟩

theorem exists_runs_slots (h : AtNode arrange input ns (l :: rest))
    (hopens : SourceNode.opensTag l rest = true) :
    ∃ n ≤ input.length + 1, OpeningTag.slotLoop.Runs (OpeningTag.slotStart rest) n
      ((OpeningTag.slotStart rest).1.readAttributes (OpeningTag.slotStart rest).2) := by
  obtain ⟨n, hn, hruns⟩ := Loop.exists_runs (fun s => charactersLeft s.2)
    OpeningTag.solves_slotLoop fun s t hs hpass =>
      charactersLeft_of_slot ⟨ns, l, rest, h, hopens, hs⟩ hpass
  have hstart := charactersLeft_le (OpeningTag.suffix_slotStart rest)
  have hnode := charactersLeft_of_atNode h
  rw [charactersLeft_cons] at hnode
  exact ⟨n, by omega, hruns⟩

/-! ## Cutting the loops off -/

/-- What the nodes of a text come to, and the failure behind them if there is one. -/
def outcome (input : Text) : List SourceNode × Option Failure → Except SyntaxError (List Node)
  | (_, some failure) => .error (failure.locate input)
  | (ns, none) => .ok (ns.map (·.node))

theorem parse_eq_outcome (s : OrderSettings) (input : Text) :
    parse s input = outcome input (read s.arrange input) := rfl

section CutOff

variable (cutSlots : OpeningTag × List Lexeme → Except Failure (OpeningTag × List Lexeme))
  (cutNodes : List SourceNode × List Lexeme → List SourceNode × Option Failure) (passes : Nat)

/-- The nodes of a text, read with at most so many passes over the nodes, and over the slots of each
tag. What becomes of the nodes and of the tag where a loop is cut off is left open. -/
def readWithin (arrange : List Attribute → List Attribute) (input : Text) :
    List SourceNode × Option Failure :=
  let readNode := SourceNode.readBy arrange (OpeningTag.slotLoop.cutOff cutSlots passes)
  (SourceNode.nodeLoop readNode).cutOff cutNodes passes ([], ofText input)

/-- The nodes of a text, the attributes of each tag in order, read with at most so many passes. -/
def parseWithin (s : OrderSettings) (input : Text) : Except SyntaxError (List Node) :=
  outcome input (readWithin cutSlots cutNodes passes s.arrange input)

variable {passes}

theorem readBy_cutOff (hpasses : input.length < passes) (h : AtNode arrange input ns (l :: rest)) :
    SourceNode.readBy arrange (OpeningTag.slotLoop.cutOff cutSlots passes) l rest =
      SourceNode.read arrange l rest := by
  refine SourceNode.readBy_eq fun hopens => ?_
  obtain ⟨n, hn, hruns⟩ := exists_runs_slots h hopens
  exact hruns.cutOff_eq (hn.trans hpasses) cutSlots

/-- One pass more than there are characters is enough for either loop. -/
theorem readWithin_eq (hpasses : input.length < passes) :
    readWithin cutSlots cutNodes passes arrange input = read arrange input := by
  let readNode := SourceNode.readBy arrange (OpeningTag.slotLoop.cutOff cutSlots passes)
  have hnodes (s : List SourceNode × List Lexeme) (hs : AtNode arrange input s.1 s.2) :
      SourceNode.nodeLoop readNode s = SourceNode.nodeLoop (SourceNode.read arrange) s := by
    obtain ⟨ns, _ | ⟨l, rest⟩⟩ := s
    · rfl
    · have hread : readNode l rest = SourceNode.read arrange l rest :=
        readBy_cutOff cutSlots hpasses hs
      rw [SourceNode.nodeLoop, SourceNode.nodeLoop, hread]
  obtain ⟨n, hn, hruns⟩ := exists_runs_nodes arrange input
  rw [readWithin, Loop.cutOff_congr hnodes]
  exact hruns.cutOff_eq (hn.trans hpasses) cutNodes

end CutOff

/-- **Reading makes progress.** In every state that the loop over the nodes of a text comes to, a
node cannot be read or leaves fewer characters. In every state that the loop over the slots of a tag
comes to, the pass fails, leaves the loop, or leaves fewer characters; a `>` that is made up behind
a value counts as one of those that are left. So both loops make at most one pass more than the text
has characters, and cutting them off after as many passes or more changes nothing, whatever becomes
of what has been read by then. -/
theorem passes_make_progress (s : OrderSettings) (input : Text) :
    (∀ ns l rest, AtNode s.arrange input ns (l :: rest) →
      (∃ f, SourceNode.read s.arrange l rest = .error f) ∨
        ∃ n behind, SourceNode.read s.arrange l rest = .ok (n, behind) ∧
          charactersLeft behind < charactersLeft (l :: rest)) ∧
    (∀ tag ls, AtSlot s.arrange input tag ls →
      (∃ f, OpeningTag.slotLoop (tag, ls) = .leave (.error f)) ∨
        (∃ r, OpeningTag.slotLoop (tag, ls) = .leave (.ok r)) ∨
          ∃ tag' behind, OpeningTag.slotLoop (tag, ls) = .goOn (tag', behind) ∧
            charactersLeft behind < charactersLeft ls) ∧
    (∃ n ≤ input.length + 1, (SourceNode.nodeLoop (SourceNode.read s.arrange)).Runs
      ([], ofText input) n (read s.arrange input)) ∧
    (∀ ns l rest, AtNode s.arrange input ns (l :: rest) → SourceNode.opensTag l rest = true →
      ∃ n ≤ input.length + 1, OpeningTag.slotLoop.Runs (OpeningTag.slotStart rest) n
        ((OpeningTag.slotStart rest).1.readAttributes (OpeningTag.slotStart rest).2)) ∧
    ∀ passes > input.length, ∀ cutSlots cutNodes,
      parseWithin cutSlots cutNodes passes s input = parse s input := by
  refine ⟨fun ns l rest h => ?_, fun tag ls h => ?_, exists_runs_nodes s.arrange input,
    fun ns l rest => exists_runs_slots, fun passes hpasses cutSlots cutNodes => ?_⟩
  · cases hread : SourceNode.read s.arrange l rest with
    | error f => exact .inl ⟨f, rfl⟩
    | ok r => exact .inr ⟨r.1, r.2, rfl, charactersLeft_of_read h hread⟩
  · cases hpass : OpeningTag.slotLoop (tag, ls) with
    | leave r =>
      cases r with
      | error f => exact .inl ⟨f, rfl⟩
      | ok r => exact .inr (.inl ⟨r, rfl⟩)
    | goOn t => exact .inr (.inr ⟨t.1, t.2, rfl, charactersLeft_of_slot h hpass⟩)
  · rw [parseWithin, readWithin_eq cutSlots cutNodes hpasses, parse_eq_outcome]

/-- In `<a b=c-->` the pass that reads the attribute leaves a `>` where the end of a comment was. -/
theorem passes_make_progress_made_up :
    let s : OrderSettings := ⟨[]⟩
    let input := "<a b=c-->".toList
    let ls : List Lexeme := [⟨.whitespace, [' ']⟩, ⟨.identifier, ['b']⟩, ⟨.equals, ['=']⟩,
      ⟨.identifier, ['c']⟩, ⟨.commentEnd, ['-', '-', '>']⟩]
    let tag := OpeningTag.named ['a']
    let behind : List Lexeme := [⟨.tagClose, ['>']⟩]
    AtNode s.arrange input [] (⟨.tagOpen, ['<']⟩ :: ⟨.identifier, ['a']⟩ :: ls) ∧
      AtSlot s.arrange input tag ls ∧
      OpeningTag.slotLoop (tag, ls) =
        .goOn (tag.push [' '] ⟨['b'], .plain, some ['c', '-', '-']⟩, behind) ∧
      charactersLeft behind < charactersLeft ls ∧
      parseWithin .ok (fun t => (t.1, none)) 10 s input = parse s input := by
  have hlexemes : ofText "<a b=c-->".toList = [⟨.tagOpen, ['<']⟩, ⟨.identifier, ['a']⟩,
      ⟨.whitespace, [' ']⟩, ⟨.identifier, ['b']⟩, ⟨.equals, ['=']⟩, ⟨.identifier, ['c']⟩,
      ⟨.commentEnd, ['-', '-', '>']⟩] := by cbv
  intro s input ls tag behind
  have hnode : AtNode s.arrange input [] (⟨.tagOpen, ['<']⟩ :: ⟨.identifier, ['a']⟩ :: ls) :=
    hlexemes ▸ .refl
  have hstart : OpeningTag.slotStart (⟨.identifier, ['a']⟩ :: ls) = (tag, ls) := rfl
  have hslot : AtSlot s.arrange input tag ls := ⟨_, _, _, hnode, rfl, hstart ▸ .refl⟩
  have hpass : OpeningTag.slotLoop (tag, ls) =
      .goOn (tag.push [' '] ⟨['b'], .plain, some ['c', '-', '-']⟩, behind) := rfl
  obtain ⟨-, hslots, -, -, hcut⟩ := passes_make_progress s input
  refine ⟨hnode, hslot, hpass, ?_, hcut 10 (by decide) _ _⟩
  rcases hslots tag ls hslot with ⟨f, h⟩ | ⟨r, h⟩ | ⟨tag', behind', h, hlt⟩
  · cases hpass.symm.trans h
  · cases hpass.symm.trans h
  · cases hpass.symm.trans h
    exact hlt

end Document

end MarkupOrder
