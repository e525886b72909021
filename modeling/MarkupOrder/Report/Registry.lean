import MarkupOrder.Report.Diagnostic

/-!
# The registry of warnings

A warning is printed once, however often it is raised. It is remembered also while printing is
turned off. Errors are neither remembered nor turned off.

* `WarningRegistry`: what has been warned of, and whether warnings are printed.
* `WarningRegistry.key`: the form in which a warning is remembered.
* `WarningRegistry.warnOnce`, `WarningRegistry.warnAll`: raising one warning, or several in turn.
* `WarningRegistry.wasWarned`, `WarningRegistry.clear`: asking for a warning, and forgetting all.
-/

namespace MarkupOrder

/-- What has been warned of, the latest first, and whether warnings are printed. -/
structure WarningRegistry where
  recorded : List Text
  enabled : Bool
deriving DecidableEq, Repr

namespace WarningRegistry

/-- Nothing has been warned of, and warnings are printed. -/
def fresh : WarningRegistry := ⟨[], true⟩

/-- A warning is remembered as one text, the component in brackets before the message. -/
def key (component message : Text) : Text := '[' :: component ++ [']', ' '] ++ message

/-- Whether a warning has been raised. -/
def wasWarned (r : WarningRegistry) (component message : Text) : Bool :=
  r.recorded.contains (key component message)

/-- Raise a warning. It is printed if it is new and warnings are printed at all. -/
def warnOnce (r : WarningRegistry) (component message : Text) :
    WarningRegistry × List Diagnostic :=
  if r.wasWarned component message then (r, [])
  else
    ({ r with recorded := key component message :: r.recorded },
     if r.enabled then [⟨.warning, component, message⟩] else [])

/-- Raise warnings of one component, one after another. -/
def warnAll (r : WarningRegistry) (component : Text) :
    List Text → WarningRegistry × List Diagnostic
  | [] => (r, [])
  | message :: messages =>
    let (r, ds) := r.warnOnce component message
    let (r, es) := r.warnAll component messages
    (r, ds ++ es)

/-- Forget all warnings. -/
def clear (r : WarningRegistry) : WarningRegistry := { r with recorded := [] }

/-- Print warnings from now on, or do not. -/
def setEnabled (r : WarningRegistry) (enabled : Bool) : WarningRegistry := { r with enabled }

end WarningRegistry

end MarkupOrder
