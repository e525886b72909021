import MarkupOrder.Markup.Attribute

/-!
# Opening tags

White space belongs to the slots of a tag and not to its attributes: the text at index `i` of
`slotWhitespace` stands before whichever attribute is at index `i`.

* `OpeningTag`, `OpeningTag.named`: a tag, and the tag that has nothing but a name.
* `OpeningTag.push`, `OpeningTag.finish`: what building a tag consists of.
* `OpeningTag.mapAttributes`: the attributes change, the slots stay.
* `OpeningTag.render`: the tag as it is written.
-/

namespace MarkupOrder

/-- An opening tag. -/
structure OpeningTag where
  name : Text
  attributes : List Attribute
  slotWhitespace : List Text
  trailingWhitespace : Text
  selfClosing : Bool
deriving DecidableEq, Repr

namespace OpeningTag

/-- The tag without attributes and white space. -/
def named (name : Text) : OpeningTag := ⟨name, [], [], [], false⟩

/-- Append an attribute and the white space before it. -/
def push (tag : OpeningTag) (whitespace : Text) (a : Attribute) : OpeningTag :=
  { tag with
    attributes := tag.attributes ++ [a]
    slotWhitespace := tag.slotWhitespace ++ [whitespace] }

/-- Set the white space behind the last attribute, and whether `/` follows it. -/
def finish (tag : OpeningTag) (trailingWhitespace : Text) (selfClosing : Bool) : OpeningTag :=
  { tag with trailingWhitespace, selfClosing }

/-- Change the list of attributes and nothing else. -/
def mapAttributes (f : List Attribute → List Attribute) (tag : OpeningTag) : OpeningTag :=
  { tag with attributes := f tag.attributes }

/-- The slots with their attributes, as they are written. -/
def renderSlots (slotWhitespace : List Text) (attributes : List Attribute) : Text :=
  ((slotWhitespace.zip attributes).map fun (whitespace, a) => whitespace ++ a.render).flatten

/-- What is written behind the character `<`. -/
def renderBody (tag : OpeningTag) : Text :=
  tag.name ++ renderSlots tag.slotWhitespace tag.attributes ++ tag.trailingWhitespace ++
    (if tag.selfClosing then ['/', '>'] else ['>'])

/-- The tag as it is written. -/
def render (tag : OpeningTag) : Text := '<' :: tag.renderBody

end OpeningTag

end MarkupOrder
