import RouteAudit.Assoc
import RouteAudit.Files.Fault
import RouteAudit.Files.Path

/-!
# File trees

The files that a run sees, as a value: directories, files with their bytes, and symbolic links.  An
entry is known by its canonical name list, from the root down and without links on the way.  Names
are Unicode texts, and a run may read every file and list every directory.

Two ways lead from a path to an entry.  To `locate` an entry is to walk the path through directories
that exist, as every access to a file does, and along a limited number of links.  To find the
`realPath` is to replace the links in a path, however many there are and however long the paths to
them, and may end at an entry that does not exist.
-/

namespace RouteAudit

/-- An entry of a file tree.  The target of a link is a path in normal form: that a target ends in a
slash or a point, and so asks for a directory, is not kept. -/
inductive Node where
  | file (content : List UInt8)
  | directory
  | link (target : Path)
  deriving DecidableEq, Repr

/-- The files that a run sees, and the directory that it starts in. -/
structure FileTree where
  entries : Assoc (List String) Node := []
  workingDirectory : Path := { slashes := 1 }

namespace FileTree

/-- The greatest number of links that are followed on the way to an entry. -/
def linkLimit : Nat := 40

/-- The greatest number of bytes of a name. -/
def nameLimit : Nat := 255

/-- The greatest number of bytes of a path. -/
def pathLimit : Nat := 4095

/-- The entry with a canonical name list; the root is a directory. -/
def node? (tree : FileTree) (names : List String) : Option Node :=
  if names.isEmpty then some .directory else tree.entries.get? names

/-- The path from the root. -/
def absolute (tree : FileTree) (p : Path) : Path :=
  tree.workingDirectory.join p

/-- Walks along names from an entry: the entry that is reached, with its canonical name list. -/
def follow (tree : FileTree) (links : Nat) (here : List String) (node : Node)
    (names : List String) : Except FileFault (List String × Node) :=
  match names with
  | [] => .ok (here, node)
  | name :: rest =>
    match node with
    | .directory =>
      if name = ".." then follow tree links here.dropLast .directory rest
      else if nameLimit < name.utf8ByteSize then .error .nameTooLong
      else
        match tree.node? (here ++ [name]) with
        | none => .error .missing
        | some (.link target) =>
          match links with
          | 0 => .error .loop
          | links + 1 =>
            follow tree links (if target.isAbsolute then [] else here) .directory
              (target.parts ++ rest)
        | some node => follow tree links (here ++ [name]) node rest
    | _ => .error .notDirectory
  termination_by (links, names.length)

/-- Whether a path can be handed to the file system at all. -/
def checkPath (p : Path) : Except FileFault Unit :=
  if p.toString.contains '\x00' then .error .invalidPath
  else if pathLimit < p.toString.utf8ByteSize then .error .nameTooLong
  else .ok ()

/-- The entry that a path leads to, with its canonical name list. -/
def locate (tree : FileTree) (p : Path) : Except FileFault (List String × Node) := do
  checkPath p
  follow tree linkLimit [] .directory (tree.absolute p).parts

/-- Whether a path leads to a file. -/
def isFile (tree : FileTree) (p : Path) : Except FileFault Bool :=
  match tree.locate p with
  | .ok (_, .file _) => .ok true
  | .ok _ => .ok false
  | .error fault => if fault.isAbsence then .ok false else .error fault

/-- Whether a path leads to a directory. -/
def isDirectory (tree : FileTree) (p : Path) : Except FileFault Bool :=
  match tree.locate p with
  | .ok (_, .directory) => .ok true
  | .ok _ => .ok false
  | .error fault => if fault.isAbsence then .ok false else .error fault

/-- The bytes of the file that a path leads to. -/
def read (tree : FileTree) (p : Path) : Except FileFault (List UInt8) :=
  match tree.locate p with
  | .ok (_, .file content) => .ok content
  | .ok _ => .error .isDirectory
  | .error fault => .error fault

/-! ## Real paths -/

/-- The names with the double points among them carried out. -/
def collapse (names : List String) : List String :=
  names.foldl (fun front name => if name = ".." then front.dropLast else front ++ [name]) []

/-- The number of names of the working directory. -/
def depth (tree : FileTree) : Nat :=
  tree.workingDirectory.parts.length

/-- How an entry is written while links are replaced: from the root, or relative to the working
directory.  The two ways are not taken for one. -/
structure Spelling (tree : FileTree) where
  /-- For a relative path, how many names of the working directory it has not left. -/
  kept : Option (Fin (tree.depth + 1))
  /-- The canonical names. -/
  names : List String
  deriving DecidableEq

namespace Spelling

variable {tree : FileTree}

/-- Where the names of a path start. -/
def start (tree : FileTree) (p : Path) : tree.Spelling where
  kept := if p.isAbsolute then none else some (Fin.last _)
  names := []

/-- The entry of a name in a directory. -/
def down (here : tree.Spelling) (name : String) : tree.Spelling :=
  { here with names := here.names ++ [name] }

/-- The directory above.  A relative path may leave a name of the working directory. -/
def up (here : tree.Spelling) : tree.Spelling where
  kept := here.kept.map fun (k : Fin (tree.depth + 1)) =>
    if here.names.length ≤ k then ⟨k - 1, Nat.lt_of_le_of_lt (Nat.sub_le _ _) k.isLt⟩ else k
  names := here.names.dropLast

/-- Where the names of the target of a link in a directory start. -/
def along (here : tree.Spelling) (target : Path) : tree.Spelling :=
  if target.isAbsolute then { kept := none, names := [] } else here

end Spelling

/-- The ways to write the entries of a tree. -/
def spellings (tree : FileTree) : List tree.Spelling :=
  (none :: (List.finRange (tree.depth + 1)).map some).flatMap fun kept =>
    tree.entries.keys.map fun names => { kept, names }

/-- What is left when links are replaced: an entry, or the names up to a link that leads to itself
and behind it. -/
inductive Resolved (tree : FileTree) where
  | entry (there : tree.Spelling)
  | circle (names : List String)

/-- The names of the path without links.  Behind a link that leads to itself double points are
carried out as they stand. -/
def Resolved.names {tree : FileTree} : tree.Resolved → List String
  | entry there => there.names
  | circle names => collapse names

/-- An entry of a tree can be written in one of the ways. -/
theorem mem_spellings {tree : FileTree} {s : tree.Spelling} {target : Path}
    (link : tree.node? s.names = some (.link target)) : s ∈ tree.spellings := by
  have key : s.names ∈ tree.entries.keys := by
    rw [node?] at link
    split at link
    · cases link
    · obtain ⟨entry, found, -⟩ := Option.map_eq_some_iff.1 link
      have same : entry.1 = s.names := by simpa using List.find?_some found
      exact same ▸ List.mem_map_of_mem (List.mem_of_find?_eq_some found)
  have kept : s.kept ∈ none :: (List.finRange (tree.depth + 1)).map some := by
    cases s.kept with
    | none => exact List.mem_cons_self
    | some k => exact List.mem_cons_of_mem _ (List.mem_map_of_mem (List.mem_finRange k))
  exact List.mem_flatMap.2 ⟨_, kept, List.mem_map.2 ⟨_, key, rfl⟩⟩

/-- How many of the ways to write an entry are not in a list. -/
def unvisited (tree : FileTree) (inside : List tree.Spelling) : Nat :=
  (tree.spellings.filter fun s => !inside.contains s).length

/-- Once an entry is visited in one of the ways, fewer ways are left. -/
theorem unvisited_cons_lt {tree : FileTree} {inside : List tree.Spelling} {s : tree.Spelling}
    (hs : s ∈ tree.spellings) (new : ¬inside.contains s = true) :
    tree.unvisited (s :: inside) < tree.unvisited inside := by
  have split : (fun t => !(s :: inside).contains t) = fun t => t != s && !inside.contains t := by
    funext t
    rw [List.contains_cons, Bool.not_or]
    rfl
  rw [unvisited, unvisited, split, ← List.filter_filter, List.length_filter_lt_length_iff_exists]
  exact ⟨s, List.mem_filter.2 ⟨hs, by simpa using new⟩, by simp⟩

/-- Replaces the links along names from a directory, `inside` the targets of some links.  A strict
walk meets only entries that exist and no link inside its own target; any other goes on with what is
written. -/
def resolve (tree : FileTree) (strict : Bool) (inside : List tree.Spelling)
    (here : tree.Spelling) (names : List String) : Except FileFault tree.Resolved :=
  match names with
  | [] => .ok (.entry here)
  | name :: rest =>
    if name = ".." then resolve tree strict inside here.up rest
    else
      match _ : tree.node? (here.down name).names with
      | none =>
        if strict then .error .missing else resolve tree strict inside (here.down name) rest
      | some (.link target) =>
        if inside.contains (here.down name) then
          if strict then .error .loop else .ok (.circle ((here.down name).names ++ rest))
        else
          match resolve tree strict (here.down name :: inside) (here.along target) target.parts with
          | .error fault => .error fault
          | .ok (.circle names) => .ok (.circle (names ++ rest))
          | .ok (.entry there) => resolve tree strict inside there rest
      | some _ => resolve tree strict inside (here.down name) rest
  termination_by (tree.unvisited inside, names.length)
  decreasing_by
    · exact .right _ (Nat.lt_succ_self _)
    · exact .right _ (Nat.lt_succ_self _)
    · exact .left _ _ (unvisited_cons_lt (mem_spellings ‹_›) ‹_›)
    · exact .right _ (Nat.lt_succ_self _)
    · exact .right _ (Nat.lt_succ_self _)

/-- The path without links that leads to the same entry. -/
def realPath (tree : FileTree) (strict : Bool) (p : Path) : Except FileFault Path :=
  if p.toString.contains '\x00' then .error .invalidPath
  else (tree.resolve strict [] (.start tree p) (tree.absolute p).parts).map fun resolved =>
    { slashes := 1, parts := resolved.names }

/-- The path by which a file is told from others: its real path, unless links lead in a circle. -/
def identity (tree : FileTree) (p : Path) : Except FileFault Path :=
  match tree.realPath false p with
  | .error fault => .error fault
  | .ok real =>
    match tree.locate real with
    | .error .loop => .ok (tree.absolute p)
    | _ => .ok real

/-- The names of the entries of a directory, in order. -/
def list (tree : FileTree) (directory : List String) : List String :=
  (tree.entries.keys.filterMap fun names =>
    if names.dropLast = directory then names.getLast? else none).mergeSort

/-- The total size of the files. -/
def size (tree : FileTree) : Nat :=
  (tree.entries.map fun (_, node) =>
    match node with
    | .file content => content.length
    | _ => 0).foldl (· + ·) 0

/-! ## Changes -/

/-- The tree with an entry in a directory that exists. -/
def place (tree : FileTree) (names : List String) (node : Node) : FileTree :=
  { tree with entries := tree.entries.insert names node }

/-- Walks along names from a directory and makes the directories that are missing: the tree with
them, and the directory that is reached. -/
def makeDirectories (tree : FileTree) (here : List String) :
    List String → Except FileFault (FileTree × List String)
  | [] => .ok (tree, here)
  | name :: rest =>
    match tree.follow linkLimit here .directory [name] with
    | .ok (there, .directory) => makeDirectories tree there rest
    | .ok _ => .error .notDirectory
    | .error .missing =>
      let there := here ++ [name]
      if (tree.node? there).isSome then .error .missing
      else makeDirectories (tree.place there .directory) there rest
    | .error fault => .error fault

/-- The tree with a directory. -/
def addDirectory (tree : FileTree) (p : Path) : FileTree :=
  match tree.makeDirectories [] (tree.absolute p).parts with
  | .ok (tree, _) => tree
  | .error _ => tree

/-- The tree with a symbolic link. -/
def addLink (tree : FileTree) (p target : Path) : FileTree :=
  let whole := tree.absolute p
  match tree.makeDirectories [] whole.parent.parts with
  | .ok (tree, here) => tree.place (here ++ [whole.name]) (.link target)
  | .error _ => tree

/-- The tree with a file, which may replace one.  The directories on the way are made; a link to a
file that does not exist leads to the new file. -/
def write (tree : FileTree) (p : Path) (content : List UInt8) : Except FileFault FileTree := do
  checkPath p
  let whole := tree.absolute p
  let (tree, here) ← tree.makeDirectories [] whole.parent.parts
  let resolved ← tree.resolve false [] { kept := none, names := here } [whole.name]
  let names := resolved.names
  match tree.follow linkLimit here .directory [whole.name] with
  | .ok (_, .directory) => .error .isDirectory
  | .ok (names, _) => .ok (tree.place names (.file content))
  | .error .missing =>
    if tree.node? names.dropLast = some .directory then .ok (tree.place names (.file content))
    else .error .missing
  | .error fault => .error fault

/-- The tree without a file or link. -/
def remove (tree : FileTree) (p : Path) : Except FileFault FileTree := do
  checkPath p
  let whole := tree.absolute p
  let (here, _) ← tree.follow linkLimit [] .directory whole.parent.parts
  let names := here ++ [whole.name]
  match tree.node? names with
  | none => .error .missing
  | some .directory => .error .isDirectory
  | some _ => .ok { tree with entries := tree.entries.filter (·.1 != names) }

end FileTree

end RouteAudit
