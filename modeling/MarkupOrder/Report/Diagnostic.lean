import MarkupOrder.Text.Basic

/-!
# Diagnostics

* `Diagnostic`: a warning or an error of some component.
* `Diagnostic.line`: its text.
* `Diagnostic.render`: its line as it is printed, in colour on a terminal.
-/

namespace MarkupOrder

/-- How grave a diagnostic is. -/
inductive Severity where
  | warning
  | error
deriving DecidableEq, Repr

namespace Severity

/-- The name of a severity. -/
def name : Severity → String
  | warning => "warning"
  | error => "error"

/-- The colour of a severity on a terminal, as the codes before and behind the text: yellow for
warnings, bold red for errors. -/
def colour : Severity → String × String
  | warning => ("\x1b[33m", "\x1b[39m")
  | error => ("\x1b[1m\x1b[31m", "\x1b[39m\x1b[0m")

end Severity

/-- A message of a component about its input. -/
structure Diagnostic where
  severity : Severity
  component : Text
  message : Text
deriving DecidableEq, Repr

namespace Diagnostic

/-- The text of a diagnostic. -/
def line (d : Diagnostic) : Text :=
  "[attorder ".toList ++ d.component ++ "] ".toList ++ d.severity.name.toList ++ ": ".toList ++
    d.message

/-- The line that is printed. -/
def render (terminal : Bool) (d : Diagnostic) : Text :=
  if terminal then
    d.severity.colour.1.toList ++ d.line ++ d.severity.colour.2.toList ++ ['\n']
  else d.line ++ ['\n']

/-- The lines that are printed, one after another. -/
def renderAll (terminal : Bool) (ds : List Diagnostic) : Text := ds.flatMap (render terminal)

end Diagnostic

end MarkupOrder
