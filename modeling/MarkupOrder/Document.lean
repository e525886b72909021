import MarkupOrder.Order.Settings
import MarkupOrder.Report.Registry
import MarkupOrder.Source.SourceNode

/-!
# Documents

A document is read once, and the order applies to each opening tag as soon as it is complete.

* `Document.read`: the nodes of a text up to the first failure, and the failure if there is one.
* `Document.parse`, `Document.reorder`: the nodes with their attributes in order, and the text that
  they render to.
* `Document.repeats`: the names that are repeated within a tag; `Document.warn` warns of them. A tag
  counts as soon as it is complete, whatever becomes of the rest of the document.
-/

namespace MarkupOrder

/-- The names that an opening tag repeats. -/
def SourceNode.repeats (n : SourceNode) : List Text :=
  match n.node with
  | .openingTag tag => Arrangement.repeats (tag.attributes.map (·.name))
  | _ => []

namespace Document

/-- The nodes of a text up to the first failure, the attributes of each tag arranged, and the
failure if there is one. -/
def read (arrange : List Attribute → List Attribute) (input : Text) :
    List SourceNode × Option Failure :=
  SourceNode.readAll arrange (Lexeme.ofText input)

/-- The nodes of a text, the attributes of each tag in order. -/
def parse (s : OrderSettings) (input : Text) : Except SyntaxError (List Node) :=
  match read s.arrange input with
  | (_, some failure) => .error (failure.locate input)
  | (ns, none) => .ok (ns.map (·.node))

/-- The text with the attributes of each tag in order. -/
def reorder (s : OrderSettings) (input : Text) : Except SyntaxError Text :=
  (parse s input).map Node.renderAll

/-- The names that are repeated within a tag as it was written, once for every repetition. -/
def repeats (input : Text) : List Text := (read id input).1.flatMap SourceNode.repeats

/-- The warning that a name is repeated. -/
def repeatMessage (name : Text) : Text :=
  "duplicate attribute '".toList ++ name ++ "' keeps only its last value".toList

/-- The component that warns of repeated names. -/
def component : Text := "Reorder".toList

/-- Warn of repeated names. -/
def warnOf (names : List Text) (r : WarningRegistry) : WarningRegistry × List Diagnostic :=
  r.warnAll component (names.map repeatMessage)

/-- Warn of the names that a text repeats within a tag. -/
def warn (input : Text) (r : WarningRegistry) : WarningRegistry × List Diagnostic :=
  warnOf (repeats input) r

end Document

end MarkupOrder
