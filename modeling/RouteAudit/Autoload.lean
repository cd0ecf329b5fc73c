import RouteAudit.Source.File

/-!
# Autoload tables

The table that the package manager writes into a project: for each start of class names the
directories in which the classes are.
-/

namespace RouteAudit

namespace Autoload

/-- Where a project keeps its table. -/
def file : Path := Path.ofString "vendor/composer/autoload_psr4.php"

/-- The directories that a value of the table lists. -/
def directories? : Source.Value → Option (List String)
  | .text directory => some [directory]
  | .list items => some (items.filterMap Source.Value.text?)
  | _ => none

/-- The table that a value describes; what is not understood is left out. -/
def ofValue : Source.Value → Autoload
  | .keyed entries => entries.filterMap fun (key, value) =>
    match key with
    | .text start => (directories? value).map (start, ·)
    | .index _ => none
  | _ => []

end Autoload

namespace Audit

/-- The table of the project in a directory. -/
def loadAutoload (root : Option Path) : Audit Autoload := do
  match root with
  | none => return []
  | some root =>
    let path := root.join Autoload.file
    if ← ofAccess ((← read).isFile path) then
      match ← readReturn path (.autoloadUnreadable path) with
      | some v => return Autoload.ofValue v
      | none => return []
    else
      note (.autoloadMissing path)
      return []

/-- The directories among the given ones that exist. -/
def existing : List Path → Audit (List Path)
  | [] => return []
  | path :: paths => do
    let found ← ofAccess ((← read).isDirectory path)
    let rest ← existing paths
    return if found then path :: rest else rest

/-- The directories for a namespace under one start of the table. -/
def directoriesUnder (space start : String) (bases : List String) : List Path :=
  if Text.startsWith (space ++ "\\") start then
    let relative := Text.replaceChar '\\' '/' (Text.dropFirst start.length space)
    bases.map fun base => (Path.ofString base).join (Path.ofString relative)
  else []

/-- The directories in which the classes of a namespace are. -/
def directoriesOf (space : String) (autoload : Autoload) : Audit (List Path) :=
  existing (autoload.flatMap fun (start, bases) => directoriesUnder space start bases)

end Audit

end RouteAudit
