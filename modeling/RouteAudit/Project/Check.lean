import RouteAudit.Project.Controllers
import RouteAudit.Project.Handles
import RouteAudit.Report
import RouteAudit.Template.Scan

/-!
# Checking a project

A check reads a project once: its handles, its autoload table and its controllers.  From these the
index of routes is built, and every reference in the templates is looked up in it.
-/

namespace RouteAudit

/-- What to check.  Paths are relative to the working directory. -/
structure CheckConfig where
  config : String := "config/app.php"
  /-- Handles that override those of the project. -/
  handles : List (String × String) := []
  /-- The autoload table, if it is not that of the project. -/
  autoload : Option Autoload := none
  templates : List String := ["templates"]
  /-- What the names of templates end with. -/
  ending : String := ".twig"
  /-- Where controllers are collected. -/
  scanPaths : List String := []
  /-- Actions that are known from elsewhere. -/
  collected : Option ActionTable := none
  coreNamespace : String := HandleMap.coreNamespace
  baseController : String := Audit.baseController

/-- What was read of a project. -/
structure Snapshot where
  handles : Handles
  autoload : Autoload
  discovered : ActionTable

/-- The index of a project, and what it was built from. -/
structure Project where
  snapshot : Snapshot
  actions : ActionTable
  index : RouteIndex

namespace Audit

/-- The default action of a controller that declares none. -/
def defaultAction : String := "index"

/-- The property that declares the default action of a controller. -/
def defaultActionProperty : String := "defaultAction"

/-- The default of the default action property of a class, if there is one. -/
def declaredAction (className : String) : Audit (Option String) := do
  match ← findClass className with
  | none => return none
  | some d => declaredDefault d defaultActionProperty

/-- The identifier of the default action of a controller. -/
def defaultActionOf (className : String) : Audit String := do
  let declared ← orElse (declaredAction className) do
    note (.defaultActionFailed className)
    return none
  match declared with
  | some name => return if name.isEmpty then defaultAction else Identifier.ofName name
  | none => return defaultAction

/-- The default actions of the controllers that are in a namespace of the map. -/
def defaultActions (handles : HandleMap) : ActionTable → Audit (Assoc String String)
  | [] => return []
  | (className, _) :: rest => do
    if (HandleMap.owners handles className).isEmpty then defaultActions handles rest
    else
      let action ← defaultActionOf className
      return (className, action) :: (← defaultActions handles rest)

/-- The index of the routes of the controllers. -/
def buildRoutes (handles : HandleMap) (actions : ActionTable) : Audit RouteIndex := do
  let defaults ← defaultActions handles actions
  return RouteIndex.build handles actions fun className =>
    (defaults.get? className).getD defaultAction

/-- Reads a project.  No class is known before. -/
def takeSnapshot (c : CheckConfig) : Audit Snapshot := do
  let config := Path.ofString c.config
  let root ← projectRoot config
  let autoload ← match c.autoload with
    | some autoload => pure autoload
    | none => loadAutoload root
  modify fun s => { s with classes := ClassTable.ofAutoload autoload }
  let handles ← resolveHandles config (Assoc.ofList c.handles) true c.coreNamespace
  let discovered ← discover handles.map.values autoload c.baseController
  note (.snapshot handles.map.length autoload.length discovered.length)
  return { handles, autoload, discovered }

/-- The actions of the controllers: what is collected, and what was discovered of the rest. -/
def controllerActions (snapshot : Snapshot) (c : CheckConfig) : Audit ActionTable := do
  let scanned ←
    if c.scanPaths.isEmpty then pure []
    else collect (c.scanPaths.map Path.ofString) c.baseController
  return ActionTable.merge (scanned ++ c.collected.getD []) snapshot.discovered

/-- Reads a project and builds its index. -/
def buildProject (c : CheckConfig) : Audit Project := do
  let snapshot ← takeSnapshot c
  let actions ← controllerActions snapshot c
  let index ← buildRoutes snapshot.handles.map actions
  return { snapshot, actions, index }

/-- The result before any template was looked at. -/
def untouched (project : Project) : CheckResult :=
  let handles := project.snapshot.handles.map
  { handles := handles.length
    controllers := project.actions.countP fun (name, _) => !(HandleMap.owners handles name).isEmpty
    routes := project.index.size }

/-- The result with what was found in one more template.  One that cannot be read is left out. -/
def addTemplate (index : RouteIndex) (result : CheckResult) :
    Option (List Reference) → CheckResult
  | none => result
  | some references =>
    { result with
      diagnostics := result.diagnostics ++ Diagnostic.check index references
      templates := result.templates + 1
      references := result.references + references.length }

/-- Checks the references in the templates of a project. -/
def check (c : CheckConfig) : Audit CheckResult := do
  let project ← buildProject c
  let result ← gatherTemplates c.ending (addTemplate project.index) (untouched project)
    (c.templates.map Path.ofString)
  return { result with diagnostics := Diagnostic.sort result.diagnostics }

end Audit

end RouteAudit
