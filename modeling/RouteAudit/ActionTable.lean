import RouteAudit.Assoc

/-!
# Action tables

Which actions a controller has may be known from two sources: from the files that were collected and
from the classes that were discovered.  What was collected for a class takes the place of what was
discovered for it.
-/

namespace RouteAudit

/-- The action methods of controllers, by class name. -/
abbrev ActionTable := Assoc String (List String)

namespace ActionTable

/-- The methods with those that are new put behind. -/
def union (methods more : List String) : List String :=
  more.foldl (fun ms m => if ms.contains m then ms else ms ++ [m]) methods

/-- The table with further methods of a class. -/
def extend (table : ActionTable) (className : String) (methods : List String) : ActionTable :=
  table.insert className (union ((table.get? className).getD []) methods)

/-- The table with a class that it does not have yet. -/
def supply (table : ActionTable) (className : String) (methods : List String) : ActionTable :=
  if table.contains className then table else table.insert className methods

/-- The collected actions, and the discovered actions of the other classes. -/
def merge (collected : List (String × List String)) (discovered : ActionTable) : ActionTable :=
  let table := collected.foldl (fun t (name, methods) => extend t name methods) []
  discovered.foldl (fun t (name, methods) => supply t name methods) table

end ActionTable

end RouteAudit
