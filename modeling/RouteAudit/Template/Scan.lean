import RouteAudit.ClassSearch
import RouteAudit.Diagnostic

/-!
# Scanning templates

The templates below the given roots, and the references in them.  A template that cannot be read is
left out.
-/

namespace RouteAudit.Audit

/-- The templates below a root. -/
def templatesBelow (ending : String) (root : Path) : Audit (List Path) := do
  let tree ← read
  if ← ofAccess (tree.isDirectory root) then
    return (tree.filesBelow [] root).filter (Text.endsWith ·.name ending)
  else
    note (.rootMissing root)
    return []

/-- The templates below the given roots. -/
def templates (ending : String) : List Path → Audit (List Path)
  | [] => return []
  | root :: rest => do
    let files ← templatesBelow ending root
    return files ++ (← templates ending rest)

/-- The references in a template, if it can be read. -/
def references? (path : Path) : Audit (Option (List Reference)) := do
  let tree ← read
  let answer : Except FileFault (List Reference) := do
    let real ← tree.realPath true path
    return Reference.extract real.toString (← tree.read real)
  match answer with
  | .ok references => return some references
  | .error .invalidPath => throw (.file .invalidPath)
  | .error fault =>
    note (.templateUnreadable path (.file fault))
    return none

/-- Goes on with what each template below the given roots adds to what was gathered before. -/
def gatherTemplates {α : Type} (ending : String) (add : α → Option (List Reference) → α)
    (before : α) : List Path → Audit α
  | [] => return before
  | root :: rest => do
    let files ← templatesBelow ending root
    let gathered ← files.foldlM (fun a path => return add a (← references? path)) before
    gatherTemplates ending add gathered rest

/-- The reports with those about a template.  One without references adds nothing. -/
def addReports (index : RouteIndex) (before : List Diagnostic) :
    Option (List Reference) → List Diagnostic
  | none | some [] => before
  | some (r :: rs) => before ++ Diagnostic.check index (r :: rs)

/-- The reports about the templates below the given roots. -/
def scan (roots : List Path) (index : RouteIndex) (ending : String) : Audit (List Diagnostic) := do
  return Diagnostic.sort (← gatherTemplates ending (addReports index) [] roots)

end RouteAudit.Audit
