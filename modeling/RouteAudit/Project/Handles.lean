import RouteAudit.HandleMap
import RouteAudit.Source.File

/-!
# The handles of a project

The map of handles is put together from four sources, of which a later one overrides an earlier one:
the core framework, the modules of the application's configuration, the registry of installed
plugins, and what the user asks for.  A file that is missing or gives no value adds nothing.
-/

namespace RouteAudit

open Source (Value Key)

/-- The handles of a project, and its root directory if its configuration was found. -/
structure Handles where
  map : HandleMap
  root : Option Path := none

namespace HandleMap

/-- Where a project keeps the registry of its plugins. -/
def registryFile : Path := Path.ofString "vendor/craftcms/plugins.php"

/-- The definitions of modules in a value that may hold them; those of a list have their positions
as keys. -/
def definitionsIn : Value → List (Key × Value)
  | .keyed entries => entries
  | .list items => items.zipIdx.map fun (item, i) => (.index i, item)
  | _ => []

/-- The modules set for all environments, if they are. -/
def sharedModules? (config : Value) : Option Value :=
  match (config.get? "*").bind (·.get? "modules") with
  | some .null => none
  | modules => modules

/-- The definitions of modules in a configuration. -/
def definitions (config : Value) : List (Key × Value) :=
  match sharedModules? config with
  | some modules => definitionsIn modules
  | none => definitionsIn ((config.get? "modules").getD .null)

/-- The handle and the class of a plugin, if its descriptor has both. -/
def plugin? (descriptor : Value) : Option (String × String) := do
  let handle ← (← descriptor.get? "handle").text?
  let className ← (← descriptor.get? "class").text?
  return (handle, className)

/-- The handles and the classes of the plugins in a registry. -/
def plugins : Value → List (String × String)
  | .keyed entries => entries.filterMap fun (_, descriptor) => plugin? descriptor
  | .list items => items.filterMap plugin?
  | _ => []

/-- The handle that a key is. -/
def handleOf : Key → Except Source.Fault String
  | .index n => Source.decimalText n
  | .text s => .ok s

/-- The map with the namespaces of further module classes. -/
def addClasses (handles : HandleMap) (classes : List (String × String)) : HandleMap :=
  classes.foldl (fun m (handle, className) => m.insert handle (controllerNamespace className))
    handles

/-- The map with further namespaces. -/
def override (handles : HandleMap) (spaces : List (String × String)) : HandleMap :=
  spaces.foldl (fun m (handle, space) => m.insert handle space) handles

end HandleMap

namespace Audit

open HandleMap

/-- The value of an application's configuration. -/
def loadConfig (path : Path) : Audit Value := do
  let tree ← read
  let answer :=
    if path.extension = ".json" then (tree.readJson path).map Value.ofJson
    else tree.readReturn path
  match answer with
  | .ok v => return v
  | .error cause =>
    note (.configUnreadable path cause)
    return .null

/-- The class of a module.  A name without a namespace is accepted if classes are looked up and
there is such a class. -/
def moduleClass? (lookUp : Bool) : Value → Audit (Option String)
  | .text name => do
    if name.isEmpty then return none
    else if name.contains '\\' then return some name
    else if lookUp then return (← findClass name).map fun _ => name
    else return none
  | v => return (v.get? "class").bind Value.text?

/-- The map with the modules of a configuration. -/
def addModules (lookUp : Bool) (handles : HandleMap) : List (Key × Value) → Audit HandleMap
  | [] => return handles
  | (key, definition) :: rest => do
    match ← moduleClass? lookUp definition with
    | none =>
      note (.moduleSkipped key)
      addModules lookUp handles rest
    | some className =>
      match handleOf key with
      | .error fault => throw (.source fault)
      | .ok handle => addModules lookUp (handles.insert handle (controllerNamespace className)) rest

/-- The plugins in the registry of a project. -/
def loadPlugins (root : Path) : Audit (List (String × String)) := do
  let path := root.join registryFile
  if ← ofAccess ((← read).isFile path) then
    return ((← readReturn path (.registryUnreadable path)).map plugins).getD []
  else return []

/-- The root of a project: two levels above its configuration file, if there is one. -/
def projectRoot (config : Path) : Audit (Option Path) := do
  let tree ← read
  if ← ofAccess (tree.isFile config) then return some (tree.absolute config).parent.parent
  else return none

/-- The handles of a project. -/
def resolveHandles (config : Path) (overrides : HandleMap) (lookUp : Bool) (core : String) :
    Audit Handles := do
  let start : HandleMap := [(coreHandle, core)]
  match ← projectRoot config with
  | none =>
    note (.configMissing config)
    return { map := start.override overrides }
  | some root =>
    let modules ← addModules lookUp start (definitions (← loadConfig config))
    let all := modules.addClasses (← loadPlugins root)
    return { map := all.override overrides, root }

end Audit

end RouteAudit
