import RouteAudit.ActionTable
import RouteAudit.Autoload

/-!
# The controllers of a project

Controllers are found in two ways.  They are discovered in the directories where the namespaces of
the handles say that they should be, and they are collected from the files below given paths.
-/

namespace RouteAudit.Audit

/-- What the names of the files of controllers end with. -/
def controllerFileEnd : String := "Controller.php"

/-- The names of the files of controllers in a directory, in order. -/
def controllerFiles (tree : FileTree) (directory : Path) : List String :=
  match tree.locate directory with
  | .ok (names, .directory) => (tree.list names).filter (Text.endsWith · controllerFileEnd)
  | _ => []

/-- The actions of a class, if it is a controller. -/
def inspect (base className : String) : Audit (List String) := do
  match ← findClass className with
  | none =>
    note (.classSkipped className .notLoadable)
    return []
  | some d =>
    if ← isController d base then actionMethods d
    else
      note (.classSkipped className (.notDerived base))
      return []

/-- The actions of a class; one that cannot be looked at has none. -/
def candidateActions (base className : String) : Audit (List String) :=
  orElse (inspect base className) do
    note (.classSkipped className .failed)
    return []

/-- The table with those of the given classes that have actions. -/
def addCandidates (base : String) (table : ActionTable) : List String → Audit ActionTable
  | [] => return table
  | className :: rest => do
    let actions ← candidateActions base className
    addCandidates base (if actions.isEmpty then table else table.insert className actions) rest

/-- The classes that the files of a directory should declare. -/
def candidateClasses (tree : FileTree) (space : String) (directory : Path) : List String :=
  (controllerFiles tree directory).map fun file =>
    space ++ "\\" ++ Text.dropLast ".php".length file

/-- The table with the controllers in the directories of the given namespaces. -/
def addNamespaces (base : String) (autoload : Autoload) (table : ActionTable) :
    List String → Audit ActionTable
  | [] => return table
  | space :: rest => do
    let tree ← read
    let directories ← directoriesOf space autoload
    let table ← addCandidates base table (directories.flatMap (candidateClasses tree space))
    addNamespaces base autoload table rest

/-- The controllers in the directories of the given namespaces. -/
def discover (spaces : List String) (autoload : Autoload) (base : String) : Audit ActionTable :=
  if autoload.isEmpty then return []
  else addNamespaces base autoload [] spaces

/-- The directories whose files are not looked at. -/
def skippedDirectories : List String := ["vendor", "node_modules", ".git"]

/-- The PHP files at or below a path. -/
def phpFiles (root : Path) : Audit (List Path) := do
  let tree ← read
  if ← ofAccess (tree.isFile root) then
    return if root.extension = ".php" then [root] else []
  else if ← ofAccess (tree.isDirectory root) then
    return (tree.filesBelow skippedDirectories root).filter (Text.endsWith ·.name ".php")
  else return []

/-- The names of the classes that files declare, which are read for it. -/
def declaredClasses : List Path → Audit (List String)
  | [] => return []
  | path :: rest => do
    let names := ((← registerFile path).filter fun d => d.kind = .class).map (·.name)
    return names ++ (← declaredClasses rest)

/-- The names of the classes that the files at or below the given paths declare. -/
def classesBelow : List Path → Audit (List String)
  | [] => return []
  | root :: rest => do
    let names ← declaredClasses (← phpFiles root)
    return names ++ (← classesBelow rest)

/-- The table with the controllers among the given classes. -/
def addControllers (base : String) (table : ActionTable) : List String → Audit ActionTable
  | [] => return table
  | className :: rest => do
    match ← findClass className with
    | none => addControllers base table rest
    | some d =>
      if ← isController d base then
        let actions ← actionMethods d
        addControllers base (if actions.isEmpty then table else table.insert d.name actions) rest
      else addControllers base table rest

/-- The controllers declared in the files at or below the given paths.  All files are read before
any class is looked at, so it does not matter where a parent is declared. -/
def collect (roots : List Path) (base : String) : Audit ActionTable := do
  let declared ← classesBelow roots
  let table ← addControllers base [] declared
  note (.collected table.length declared.length)
  return table

/-- The action methods of a class in a file of collected actions, if they are a list of texts. -/
def methods? : Json → Option (List String)
  | .array items => items.mapM fun item =>
    match item with
    | .string s => some s
    | _ => none
  | _ => none

/-- The table that the members of a document describe. -/
def tableOf (path : Path) : List (String × Json) → Except Fault ActionTable
  | [] => .ok []
  | (className, value) :: rest =>
    match methods? value with
    | none => .error (.collectedNoMethods path className)
    | some methods => (tableOf path rest).map ((className, methods) :: ·)

/-- The actions that a JSON file lists. -/
def loadCollected (tree : FileTree) (path : Path) : Except Fault ActionTable :=
  match tree.readJson path with
  | .error cause => .error (.collectedUnreadable path cause)
  | .ok (.object members) => tableOf path members
  | .ok _ => .error (.collectedNoObject path)

end RouteAudit.Audit
