import MarkupOrder.Markup.Node

/-!
# Outlines

An outline lists the nodes of a document, indented by the tags that are open. Since tags are not
paired, the depth only counts: an opening tag that does not close itself adds one for what follows,
a closing tag takes one away, and below zero the depth does not go.

* `Outline.line`: the line of a node, without its indent.
* `Outline.depthAt`, `Outline.depthBehind`: the depth of a node's own line, and of what follows.
* `Outline.render`: the outline of a document.
-/

namespace MarkupOrder

namespace Outline

/-- A character of a text node: line feeds and spaces are made visible. -/
def visible (c : Char) : Text :=
  if c = '\n' then ['\\', 'n'] else if c = ' ' then ['·'] else [c]

/-- The attributes of a tag, a space before each of them. -/
def attributeList (attributes : List Attribute) : Text :=
  attributes.flatMap fun a => ' ' :: a.render

/-- The line of a node, without its indent. -/
def line : Node → Text
  | .text content => '\x22' :: content.flatMap visible ++ ['\x22']
  | .openingTag tag => '<' :: tag.name ++ attributeList tag.attributes ++ ['>']
  | node => node.render

/-- The depth of a node's line, where `depth` is that of the nodes before it. -/
def depthAt (depth : Nat) : Node → Nat
  | .closingTag _ => depth - 1
  | _ => depth

/-- The depth behind a node, where `depth` is that of the nodes before it. -/
def depthBehind (depth : Nat) : Node → Nat
  | .closingTag _ => depth - 1
  | .openingTag tag => if tag.selfClosing then depth else depth + 1
  | _ => depth

/-- Two spaces for every level. -/
def indent (depth : Nat) : Text := List.replicate (2 * depth) ' '

/-- The outline of nodes that follow nodes of the given depth. -/
def renderFrom (depth : Nat) : List Node → Text
  | [] => []
  | n :: ns => indent (depthAt depth n) ++ line n ++ '\n' :: renderFrom (depthBehind depth n) ns

/-- The outline of a document. -/
def render (nodes : List Node) : Text := renderFrom 0 nodes

end Outline

end MarkupOrder
