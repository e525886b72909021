import MarkupOrder.Markup.OpeningTag

/-!
# Nodes of a document

A document is a flat list of nodes: opening tags are not paired with closing tags.

* `Node`, `Node.render`: a node, and the node as it is written.
* `Node.renderAll`: a document as it is written.
* `Node.mapAttributes`: the attributes of an opening tag change, all else stays.
-/

namespace MarkupOrder

/-- A node of a document. The contents of comments and declarations are what stands between their
marks. -/
inductive Node where
  /-- Characters outside of tags, comments and declarations. -/
  | text (content : Text)
  /-- The form `<name …>`. -/
  | openingTag (tag : OpeningTag)
  /-- The form `</name>`. -/
  | closingTag (name : Text)
  /-- The form `<!--…-->`. -/
  | comment (content : Text)
  /-- The form `<!…>`. -/
  | bangTag (content : Text)
deriving DecidableEq, Repr

namespace Node

/-- The node as it is written. -/
def render : Node → Text
  | text content => content
  | openingTag tag => tag.render
  | closingTag name => ['<', '/'] ++ name ++ ['>']
  | comment content => ['<', '!', '-', '-'] ++ content ++ ['-', '-', '>']
  | bangTag content => ['<', '!'] ++ content ++ ['>']

/-- The document as it is written. -/
def renderAll (nodes : List Node) : Text := nodes.flatMap render

/-- Change the list of attributes of an opening tag and nothing else. -/
def mapAttributes (f : List Attribute → List Attribute) : Node → Node
  | openingTag tag => openingTag (tag.mapAttributes f)
  | node => node

@[simp] theorem renderAll_nil : renderAll [] = [] := rfl

@[simp] theorem renderAll_cons (n : Node) (ns : List Node) :
    renderAll (n :: ns) = n.render ++ renderAll ns := rfl

@[simp] theorem renderAll_append (ms ns : List Node) :
    renderAll (ms ++ ns) = renderAll ms ++ renderAll ns :=
  List.flatMap_append

end Node

end MarkupOrder
