import MarkupOrder.Markup.Node
import MarkupOrder.Source.AttributeReader

/-!
# Reading documents

A document is read from its lexemes, node by node and up to the first failure. The attributes of an
opening tag are arranged as soon as the tag is complete, by whatever arrangement the reading is
given. White space between `<` and the name of an opening tag is kept beside the tag, which has no
place for it.

* `OpeningTag.readAttributes`: an opening tag's attributes, and how the tag ends.
* `SourceNode`, `SourceNode.read`: a node as it stands in the source, and one step of the reading.
* `SourceNode.length_of_read`: a node takes at least one lexeme, so the reading ends.
* `SourceNode.readAll`: the nodes before the first failure, and the failure if there is one.
-/

namespace MarkupOrder

namespace Lexeme

/-- The text of a white space lexeme in front, if there is one, and what follows it. -/
def blank : List Lexeme → Text × List Lexeme
  | ⟨.whitespace, t⟩ :: rest => (t, rest)
  | ls => ([], ls)

theorem length_blank_le (ls : List Lexeme) : (blank ls).2.length ≤ ls.length := by
  unfold blank
  split
  · exact Nat.le_succ _
  · exact Nat.le_refl _

/-- The name of a tag: identifiers and hyphens. -/
def tagName (ls : List Lexeme) : Text × List Lexeme :=
  upTo (fun l => !(l.kind == .identifier || l.kind == .minus)) ls

end Lexeme

namespace OpeningTag

/-- Read the attributes of a tag, up to a slash or the end of the tag. The `>` itself is left. -/
def readAttributes (tag : OpeningTag) (ls : List Lexeme) :
    Except Failure (OpeningTag × List Lexeme) :=
  let whitespace := (Lexeme.blank ls).1
  match _hb : (Lexeme.blank ls).2 with
  | [] => .ok (tag.finish whitespace false, [])
  | l :: rest =>
    match l.kind with
    | .slash => .ok (tag.finish whitespace true, rest)
    | .tagClose => .ok (tag.finish whitespace false, l :: rest)
    | _ =>
      let result := Attribute.read (l :: rest)
      match result with
      | .error f => .error f
      | .ok (a, _) => readAttributes (tag.push whitespace a) (remainder result)
termination_by ls.length
decreasing_by
  have h₁ := Lexeme.length_blank_le ls
  have h₂ := Attribute.length_remainder_read_lt l rest
  rw [_hb] at h₁
  omega

theorem length_of_readAttributes {tag result : OpeningTag} {ls rest : List Lexeme}
    (h : tag.readAttributes ls = .ok (result, rest)) : rest.length ≤ ls.length := by
  fun_induction readAttributes tag ls with
  | case1 tag ls whitespace hb => cases h; exact Nat.zero_le _
  | case2 tag ls whitespace l tail hb hk =>
    have := Lexeme.length_blank_le ls
    cases h
    rw [hb] at this
    exact Nat.le_of_succ_le this
  | case3 tag ls whitespace l tail hb hk =>
    have := Lexeme.length_blank_le ls
    cases h
    rwa [hb] at this
  | case4 => cases h
  | case5 tag ls whitespace l tail hb read _ _ _ _ _ ih =>
    have h₁ := Lexeme.length_blank_le ls
    have h₂ : (remainder read).length < (l :: tail).length :=
      Attribute.length_remainder_read_lt l tail
    rw [hb] at h₁
    exact Nat.le_trans (ih h) (Nat.le_trans (Nat.le_of_lt h₂) h₁)

end OpeningTag

/-- A node as it stands in the source. The text `lead` is the white space between `<` and the name
of an opening tag, and is empty for other nodes. -/
structure SourceNode where
  lead : Text
  node : Node
deriving DecidableEq, Repr

namespace SourceNode

/-- The characters a node was read from. -/
def render (n : SourceNode) : Text :=
  match n.node with
  | .openingTag tag => '<' :: n.lead ++ tag.renderBody
  | node => node.render

variable (arrange : List Attribute → List Attribute)

/-- Read an opening tag behind `<`, and arrange its attributes once it is complete. -/
def readOpeningTag (ls : List Lexeme) : Except Failure (SourceNode × List Lexeme) := do
  let (lead, rest) := Lexeme.blank ls
  let (name, rest) := Lexeme.tagName rest
  let (tag, rest) ← (OpeningTag.named name).readAttributes rest
  let rest ← Expectation.tagEnd.meet rest
  return (⟨lead, .openingTag (tag.mapAttributes arrange)⟩, rest)

/-- Read a closing tag behind `</`. -/
def readClosingTag (ls : List Lexeme) : Except Failure (SourceNode × List Lexeme) := do
  let (name, rest) := Lexeme.tagName ls
  let rest ← Expectation.closingTagEnd.meet rest
  return (⟨[], .closingTag name⟩, rest)

/-- Read what runs up to the lexeme of an expectation, and that lexeme. -/
def readUntil (e : Expectation) (node : Text → Node) (ls : List Lexeme) :
    Except Failure (SourceNode × List Lexeme) := do
  let (content, rest) := Lexeme.upTo (fun l => l.kind == e.kind) ls
  let rest ← e.meet rest
  return (⟨[], node content⟩, rest)

/-- Whether a lexeme ends a text node. A declaration does not. -/
def endsText (l : Lexeme) : Bool := l.kind == .tagOpen || l.kind == .commentStart

/-- Read the node that starts with `l` before `rest`. What a tag, a comment or a declaration begins
with decides which of them is read, and is passed again as its first part. -/
def read (l : Lexeme) (rest : List Lexeme) : Except Failure (SourceNode × List Lexeme) :=
  match l.kind with
  | .tagOpen =>
    match rest with
    | ⟨.slash, _⟩ :: _ => do
      let behind ← Expectation.tagStart.meet (l :: rest)
      let behind ← Expectation.closingSlash.meet behind
      readClosingTag behind
    | _ => do
      let behind ← Expectation.tagStart.meet (l :: rest)
      readOpeningTag arrange behind
  | .bangTagStart => do
    let behind ← Expectation.bangTagStart.meet (l :: rest)
    readUntil .bangTagEnd .bangTag behind
  | .commentStart => do
    let behind ← Expectation.commentStart.meet (l :: rest)
    readUntil .commentEnd .comment behind
  | _ =>
    let (content, rest) := Lexeme.upTo endsText rest
    .ok (⟨[], .text (l.text ++ content)⟩, rest)

/-- A node is told by what it begins with, which is then there to be passed. -/
theorem read_eq (l : Lexeme) (rest : List Lexeme) : read arrange l rest =
    match l.kind with
    | .tagOpen =>
      match rest with
      | ⟨.slash, _⟩ :: rest => readClosingTag rest
      | rest => readOpeningTag arrange rest
    | .bangTagStart => readUntil .bangTagEnd .bangTag rest
    | .commentStart => readUntil .commentEnd .comment rest
    | _ => .ok (⟨[], .text (l.text ++ (Lexeme.upTo endsText rest).1)⟩,
      (Lexeme.upTo endsText rest).2) := by
  unfold read
  split
  case h_1 hk =>
    have hmeet : Expectation.tagStart.meet (l :: rest) = .ok rest := if_pos hk
    rw [hmeet]
    split <;> rfl
  case h_2 hk =>
    have hmeet : Expectation.bangTagStart.meet (l :: rest) = .ok rest := if_pos hk
    rw [hmeet]
    rfl
  case h_3 hk =>
    have hmeet : Expectation.commentStart.meet (l :: rest) = .ok rest := if_pos hk
    rw [hmeet]
    rfl
  case h_4 => rfl

theorem length_of_readOpeningTag {ls rest : List Lexeme} {n : SourceNode}
    (h : readOpeningTag arrange ls = .ok (n, rest)) : rest.length ≤ ls.length := by
  obtain ⟨⟨tag, mid⟩, hr, h⟩ := Failure.bind_eq_ok_iff.1 h
  obtain ⟨behind, hm, hv⟩ := Failure.bind_eq_ok_iff.1 h
  have h₁ := Lexeme.length_blank_le ls
  have h₂ : (Lexeme.tagName (Lexeme.blank ls).2).2.length ≤ (Lexeme.blank ls).2.length :=
    Lexeme.length_upTo_le _ _
  have h₃ : mid.length ≤ (Lexeme.tagName (Lexeme.blank ls).2).2.length :=
    OpeningTag.length_of_readAttributes hr
  have h₄ : mid.length = behind.length + 1 := Expectation.length_of_meet hm
  cases hv
  omega

theorem length_of_readClosingTag {ls rest : List Lexeme} {n : SourceNode}
    (h : readClosingTag ls = .ok (n, rest)) : rest.length ≤ ls.length := by
  obtain ⟨mid, hm, hv⟩ := Failure.bind_eq_ok_iff.1 h
  have h₁ : (Lexeme.tagName ls).2.length ≤ ls.length := Lexeme.length_upTo_le _ _
  have h₂ : (Lexeme.tagName ls).2.length = mid.length + 1 := Expectation.length_of_meet hm
  cases hv
  omega

theorem length_of_readUntil {e : Expectation} {node : Text → Node} {ls rest : List Lexeme}
    {n : SourceNode} (h : readUntil e node ls = .ok (n, rest)) : rest.length ≤ ls.length := by
  obtain ⟨mid, hm, hv⟩ := Failure.bind_eq_ok_iff.1 h
  have h₁ := Lexeme.length_upTo_le (fun l => l.kind == e.kind) ls
  have h₂ : (Lexeme.upTo (fun l => l.kind == e.kind) ls).2.length = mid.length + 1 :=
    Expectation.length_of_meet hm
  cases hv
  omega

/-- A node takes its first lexeme, whatever else it takes. -/
theorem length_of_read {l : Lexeme} {ls rest : List Lexeme} {n : SourceNode}
    (h : read arrange l ls = .ok (n, rest)) : rest.length ≤ ls.length := by
  rw [read_eq] at h
  split at h
  · split at h
    · have := length_of_readClosingTag h
      exact Nat.le_succ_of_le this
    · exact length_of_readOpeningTag arrange h
  · exact length_of_readUntil h
  · exact length_of_readUntil h
  · have := Lexeme.length_upTo_le endsText ls
    cases h
    exact this

theorem length_remainder_read_le (l : Lexeme) (rest : List Lexeme) :
    (remainder (read arrange l rest)).length ≤ rest.length := by
  cases h : read arrange l rest with
  | error f => exact Nat.zero_le _
  | ok result => exact length_of_read arrange h

/-- The nodes of a document up to the first failure, and the failure if there is one. -/
def readAll : List Lexeme → List SourceNode × Option Failure
  | [] => ([], none)
  | l :: rest =>
    let result := read arrange l rest
    match result with
    | .error f => ([], some f)
    | .ok (n, _) =>
      let (ns, failure?) := readAll (remainder result)
      (n :: ns, failure?)
termination_by ls => ls.length
decreasing_by exact Nat.lt_succ_of_le (length_remainder_read_le arrange l rest)

end SourceNode

end MarkupOrder
