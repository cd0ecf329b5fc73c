import RouteAudit.CommandLine.Run

/-!
# The program

Reads from the disk what a command line may look at, and writes what the command line comes to.
-/

namespace RouteAudit.Disk

/-- Whether the bytes of a file with this name may be read by a command. -/
def isWanted (o : CommandLine.Options) (name : String) : Bool :=
  [".php", ".json", o.ending].any (Text.endsWith name) ||
    ([o.config] ++ o.collected.toList).any fun path => (Path.ofString path).name = name

/-- The places that a command looks at first. -/
def places (o : CommandLine.Options) : List String :=
  let config := Path.ofString o.config
  ["."] ++ o.scanPaths ++ o.templates ++ o.collected.toList ++ [o.config] ++
    [((config.child "..").child "..").toString]

/-- The tree with one more entry. -/
def add (tree : FileTree) (names : List String) (node : Node) : FileTree :=
  { tree with entries := (names, node) :: tree.entries }

/-- The tree with what is at and below a path without links, and with what links there lead to.  The
target of a link that leads nowhere cannot be told here; it is taken to lead to itself. -/
partial def load (wanted : String → Bool) (tree : FileTree) (place : String) : IO FileTree := do
  let path := Path.ofString place
  if (tree.node? path.parts).isSome && !path.parts.isEmpty then return tree
  let here ← IO.FS.realPath place
  match (← here.metadata).type with
  | .dir =>
    let mut tree := add (tree.addDirectory path.parent) path.parts .directory
    for entry in ← here.readDir do
      let below := entry.path.toString
      match (← entry.path.symlinkMetadata).type with
      | .symlink =>
        let names := (Path.ofString below).parts
        try
          let target := (← IO.FS.realPath entry.path).toString
          tree := add tree names (.link (Path.ofString target))
          tree ← load wanted tree target
        catch _ => tree := add tree names (.link (Path.ofString entry.fileName))
      | _ => tree ← load wanted tree below
    return tree
  | _ =>
    let content ← if wanted path.name then IO.FS.readBinFile here else pure .empty
    return add (tree.addDirectory path.parent) path.parts (.file content.toList)

/-- The tree of all that a command may look at. -/
def treeFor (o : CommandLine.Options) : IO FileTree := do
  let mut tree : FileTree := { workingDirectory := Path.ofString (← IO.currentDir).toString }
  for place in places o do
    try tree ← load (isWanted o) tree (← IO.FS.realPath place).toString
    catch _ => pure ()
  return tree

end RouteAudit.Disk

open RouteAudit in
/-- Runs a command line on the files of the disk. -/
def main (args : List String) : IO UInt32 := do
  let tree ← match CommandLine.Command.parse args with
    | .ok (_, o) => Disk.treeFor o
    | .error _ => pure {}
  let outcome := CommandLine.run tree args
  IO.print outcome.output
  IO.eprint outcome.errorOutput
  return outcome.exitCode.toUInt32
