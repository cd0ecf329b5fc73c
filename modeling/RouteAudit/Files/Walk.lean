import RouteAudit.Files.Tree

/-!
# Walking a directory

The files below a directory, each by the names that lead to it from there.  The files of a directory
come before the files of its subdirectories, and names are in order.  Linked directories are not
entered; any other link counts as a file.
-/

namespace RouteAudit.FileTree

/-- Whether a file comes before another in a walk. -/
def walksBefore : List String → List String → Bool
  | [], _ => true
  | _, [] => false
  | [a], [b] => a ≤ b
  | [_], _ => true
  | _, [_] => false
  | a :: as, b :: bs => if a = b then walksBefore as bs else a ≤ b

/-- Whether an entry counts as a file. -/
def isLeaf (tree : FileTree) (names : List String) : Node → Bool
  | .file _ => true
  | .directory => false
  | .link _ =>
    match tree.locate { slashes := 1, parts := names } with
    | .ok (_, .directory) => false
    | _ => true

/-- The files below a directory. -/
def leavesBelow (tree : FileTree) (directory : List String) : List (List String) :=
  tree.entries.filterMap fun (names, node) =>
    if directory.isPrefixOf names && directory.length < names.length && tree.isLeaf names node then
      some (names.drop directory.length)
    else none

/-- The files below a directory in the order of a walk, but for those in subdirectories to skip. -/
def walk (tree : FileTree) (skipped : List String) (directory : List String) :
    List (List String) :=
  ((tree.leavesBelow directory).filter fun names =>
    names.dropLast.all fun name => !skipped.contains name).mergeSort walksBefore

/-- The files in a walk from the directory that a path leads to, if it leads to one. -/
def filesBelow (tree : FileTree) (skipped : List String) (root : Path) : List Path :=
  match tree.locate root with
  | .ok (directory, .directory) =>
    (tree.walk skipped directory).map fun names => { root with parts := root.parts ++ names }
  | _ => []

end RouteAudit.FileTree
