import RouteAudit.Assoc
import RouteAudit.Source.ClassName

/-!
# Name scopes

The namespace and the class imports in force at a place of a source, and what a class name written
there stands for.  A leading backslash marks a name as complete.  The first segment of any other
name may be an import, looked up without regard to case; if it is none, the name belongs to the
namespace.
-/

namespace RouteAudit.Source

/-- The namespace and the imports in force, the latter by lower-case alias. -/
structure NameScope where
  space : String := ""
  imports : Assoc String String := []
  deriving DecidableEq, Repr

namespace NameScope

/-- The scope at the start of a namespace, where nothing is imported yet. -/
def entering (space : String) : NameScope :=
  { space := ClassName.bare space }

/-- The scope after the import of a class under an alias, or under its last segment. -/
def addImport (scope : NameScope) (name : String) (short? : Option String) : NameScope :=
  let name := ClassName.bare name
  let short := short?.getD (ClassName.short name)
  { scope with imports := scope.imports.insert (Text.lower short) name }

/-- The full name of a class declared here. -/
def qualify (scope : NameScope) (name : String) : String :=
  ClassName.join scope.space name

/-- The start that refers to the namespace in force. -/
def relativeMark : String := "namespace\\"

/-- The full name of a class mentioned here. -/
def resolve (scope : NameScope) (name : String) : String :=
  if Text.startsWith name "\\" then Text.dropFirst 1 name
  else if Text.startsWith (Text.lower name) relativeMark then
    scope.qualify (Text.dropFirst relativeMark.length name)
  else
    let (first, rest) := (Text.cut? ClassName.separator name).getD (name, "")
    match scope.imports.get? (Text.lower first) with
    | some imported => if rest.isEmpty then imported else imported ++ "\\" ++ rest
    | none => scope.qualify name

end NameScope

end RouteAudit.Source
