import RouteAudit.Assoc
import RouteAudit.Source.ClassName

/-!
# Handles

A handle is the first segment of the routes of a module, and the map of handles tells in which
namespace the module's controllers are.  The empty handle belongs to the core framework, whose
routes have no such segment.
-/

namespace RouteAudit

/-- The namespaces of the controllers, by handle. -/
abbrev HandleMap := Assoc String String

namespace HandleMap

/-- The handle of the core framework. -/
def coreHandle : String := ""

/-- The namespace of the controllers of the core framework. -/
def coreNamespace : String := "craft\\controllers"

/-- The handles whose namespaces hold a class. -/
def owners (handles : List (String × String)) (className : String) : List String :=
  (handles.filter fun (_, space) => Text.startsWith className (space ++ "\\")).map (·.1)

/-- The namespace of the controllers of a module, from the name of the module's class. -/
def controllerNamespace (moduleClass : String) : String :=
  let name := Source.ClassName.bare moduleClass
  (Text.beforeLast? '\\' name).getD name ++ "\\controllers"

end HandleMap

end RouteAudit
