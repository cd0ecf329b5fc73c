import RouteAudit.Project.Check

/-!
# Listing a project

The routes of a project as text, below a table of its handles.
-/

namespace RouteAudit.Project

/-- How the empty handle is written. -/
def coreLabel : String := "(core)"

/-- How a handle is written. -/
def label (handle : String) : String :=
  if handle.isEmpty then coreLabel else handle

/-- The greatest length of the texts. -/
def longest (texts : List String) : Nat :=
  (texts.map String.length).foldl max 0

/-- A text with blanks after it, up to a width. -/
def pad (width : Nat) (s : String) : String :=
  s ++ String.ofList (List.replicate (width - s.length) ' ')

/-- The greatest length of the rule below the table. -/
def ruleLimit : Nat := 80

/-- The lines of the table of the handles, in order, and the rule below. -/
def handleLines (handles : HandleMap) : List String :=
  let width := max (longest handles.keys) coreLabel.length
  let rule := min (width + 2 + longest handles.values) ruleLimit
  let rows := handles.mergeSort fun a b => a.1 ≤ b.1
  rows.map (fun (handle, space) => pad width (label handle) ++ "  " ++ space) ++
    [String.ofList (List.replicate rule '-')]

/-- The lines of the routes. -/
def routeLines (index : RouteIndex) : List String :=
  if index.routes.isEmpty then ["No routes found."] else index.routes

/-- The text that lists the handles and the routes. -/
def listing (p : Project) : String :=
  String.join ((handleLines p.snapshot.handles.map ++ routeLines p.index).map (· ++ "\n"))

end RouteAudit.Project
