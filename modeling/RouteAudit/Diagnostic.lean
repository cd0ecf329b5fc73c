import RouteAudit.Route.Suggestion
import RouteAudit.Template.Reference

/-!
# Diagnostics

A reference to a route that is not in the index is reported, with the nearest route as a tip.
Reports are listed by file, line and route.
-/

namespace RouteAudit

/-- A report of a reference that matches no action. -/
structure Diagnostic where
  message : String
  file : String
  line : Int
  route : String
  identifier : String := "craftcms.invalidActionInput"
  tip : Option String := none
  deriving DecidableEq, Repr

namespace Diagnostic

/-- The greatest distance of a suggested route. -/
def suggestionDistance : Int := 3

/-- The tip for a route; an empty route is not suggested. -/
def tipFor (index : RouteIndex) (route : String) : Option String :=
  ((index.closest? route suggestionDistance).filter fun s => !s.isEmpty).map fun s =>
    "Did you mean \"" ++ s ++ "\"?"

/-- The report of a reference. -/
def ofReference (index : RouteIndex) (r : Reference) : Diagnostic :=
  { message := "Action route \"" ++ r.route ++ "\" does not match any controller action.",
    file := r.file, line := r.line, route := r.route, tip := tipFor index r.route }

/-- The reports of the references that are not in the index. -/
def check (index : RouteIndex) (references : List Reference) : List Diagnostic :=
  (references.filter fun r => r.route ∉ index).map (ofReference index)

/-- Whether a report may stand before another. -/
def before (a b : Diagnostic) : Bool :=
  if a.file ≠ b.file then a.file < b.file
  else if a.line ≠ b.line then a.line < b.line
  else a.route ≤ b.route

/-- The reports by file, line and route. -/
def sort (diagnostics : List Diagnostic) : List Diagnostic :=
  diagnostics.mergeSort before

end Diagnostic

end RouteAudit
