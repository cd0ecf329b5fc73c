import RouteAudit.Files.Walk
import RouteAudit.Proofs.Assoc
import RouteAudit.Proofs.Files.Path

/-!
# Trees of files as they are

No name of a file holds a null character.  In a tree without such names the files below a directory
have paths that can be handed to the file system (`filesBelow_clean`), and the way to a file ends at
no path that cannot (`read_realPath_ne_invalidPath`).
-/

namespace RouteAudit.FileTree
open RouteAudit.Path (CleanNames)

/-- The names in a tree hold no null character. -/
structure Clean (tree : FileTree) : Prop where
  names : ∀ entry ∈ tree.entries, CleanNames entry.1

variable {tree : FileTree}

/-! ## Real paths -/

/-- Names that lead on the way to an entry, or all the way. -/
def Known (tree : FileTree) (names : List String) : Prop :=
  ∃ whole node, tree.node? whole = some node ∧ names <+: whole

/-- The names of an entry are known. -/
lemma known_of_node? {names : List String} {node : Node} (entry : tree.node? names = some node) :
    tree.Known names :=
  ⟨names, node, entry, List.prefix_rfl⟩

/-- The empty list of names leads to the root. -/
lemma known_nil : tree.Known [] :=
  known_of_node? rfl

/-- The way to a known place is known. -/
lemma Known.dropLast {names : List String} (h : tree.Known names) : tree.Known names.dropLast := by
  obtain ⟨whole, node, entry, onTheWay⟩ := h
  exact ⟨whole, node, entry, (List.dropLast_prefix names).trans onTheWay⟩

/-- Where a target starts is known. -/
lemma Known.along {here : tree.Spelling} (h : tree.Known here.names) (target : Path) :
    tree.Known (here.along target).names := by
  rw [Spelling.along]
  split
  · exact known_nil
  · exact h

/-- A strict walk meets only entries, and no link that leads to itself. -/
lemma Known.resolve {inside : List tree.Spelling} {here : tree.Spelling} {names : List String}
    {resolved : tree.Resolved} (h : tree.Known here.names)
    (run : tree.resolve true inside here names = .ok resolved) :
    ∃ there, resolved = .entry there ∧ tree.Known there.names := by
  fun_induction FileTree.resolve tree true inside here names generalizing resolved with
  | case1 inside here =>
    cases run
    exact ⟨here, rfl, h⟩
  | case2 inside here rest ih => exact ih h.dropLast run
  | case8 inside here name rest _ target link _ names inner ih =>
    obtain ⟨there, absent, -⟩ := ih (h.along target) inner
    cases absent
  | case9 inside here name rest _ target link _ there inner ih₁ ih₂ =>
    obtain ⟨there', same, known⟩ := ih₁ (h.along target) inner
    cases same
    exact ih₂ known run
  | case10 inside here name rest _ node _ entry ih => exact ih (known_of_node? entry) run
  | _ => contradiction

/-- A strict real path leads along names of an entry. -/
lemma known_of_realPath {p real : Path} (run : tree.realPath true p = .ok real) :
    ∃ names, real = { slashes := 1, parts := names } ∧ tree.Known names := by
  rw [realPath] at run
  split at run
  · cases run
  · cases walk : tree.resolve true [] (.start tree p) (tree.absolute p).parts with
    | error fault =>
      rw [walk] at run
      cases run
    | ok resolved =>
      rw [walk] at run
      cases run
      obtain ⟨there, rfl, known⟩ := Known.resolve known_nil walk
      exact ⟨there.names, rfl, known⟩

/-- Known names hold no null character. -/
lemma Clean.known (h : tree.Clean) {names : List String} (known : tree.Known names) :
    CleanNames names := by
  obtain ⟨whole, node, entry, onTheWay⟩ := known
  refine CleanNames.sublist ?_ onTheWay.sublist
  rw [node?] at entry
  split at entry
  · next hempty => exact List.isEmpty_iff.1 hempty ▸ Path.cleanNames_nil
  · exact h.names _ (Assoc.mem_of_get? entry)

/-! ## Faults -/

/-- Replacing the links does not find fault with a path. -/
lemma resolve_ne_invalidPath (strict : Bool) (inside : List tree.Spelling)
    (here : tree.Spelling) (names : List String) :
    tree.resolve strict inside here names ≠ .error .invalidPath := by
  fun_induction FileTree.resolve tree strict inside here names with
  | case2 inside here rest ih => exact ih
  | case4 inside here name rest _ _ _ ih => exact ih
  | case7 inside here name rest _ target _ _ fault inner ih => exact inner ▸ ih
  | case9 inside here name rest _ target _ _ there _ _ ih => exact ih
  | case10 inside here name rest _ node _ _ ih => exact ih
  | _ => nofun

/-- A walk does not find fault with a path. -/
lemma follow_ne_invalidPath (links : Nat) (here : List String) (node : Node)
    (names : List String) : tree.follow links here node names ≠ .error .invalidPath := by
  fun_induction FileTree.follow tree links here node names with
  | case2 _ _ _ ih => exact ih
  | case6 _ _ _ _ _ _ _ _ ih => exact ih
  | case7 _ _ _ _ _ _ _ _ _ ih => exact ih
  | _ => nofun

/-- A path without null characters can be handed to the file system. -/
lemma locate_ne_invalidPath {p : Path} (hp : p.Clean) : tree.locate p ≠ .error .invalidPath := by
  rw [locate, checkPath, p.contains_eq_false.2 hp]
  split
  · contradiction
  · split
    · nofun
    · exact follow_ne_invalidPath _ _ _ _

/-- A path that is located holds no null character. -/
lemma clean_of_locate {p : Path} {found : List String × Node} (h : tree.locate p = .ok found) :
    p.Clean := by
  rw [← p.contains_eq_false]
  by_contra hp
  rw [locate, checkPath, if_pos (by simpa using hp)] at h
  cases h

/-- A name that is too long is not looked for. -/
lemma locate_of_long (hroot : tree.workingDirectory.parts = []) {name : String}
    (hname : '\x00' ∉ name.toList) (hup : name ≠ "..")
    (hlong : nameLimit < name.utf8ByteSize) (hshort : name.utf8ByteSize ≤ pathLimit) :
    tree.locate { parts := [name] } = .error .nameTooLong := by
  have htext : ({ parts := [name] } : Path).toString = name := by
    simp [Path.toString]
  have hpath : (tree.absolute { parts := [name] }).parts = [name] := by
    simp [absolute, Path.join, Path.isAbsolute, hroot]
  rw [locate, checkPath, htext, String.contains_char_eq, if_neg (by simpa using hname),
    if_neg (Nat.not_lt.2 hshort), hpath]
  show follow _ _ _ _ _ = _
  rw [follow, if_neg hup, if_pos hlong]

/-- The way to the bytes of a file ends at no path that cannot be handed to the file system. -/
lemma read_realPath_ne_invalidPath (h : tree.Clean) {p : Path} (hp : p.Clean) :
    (tree.realPath true p >>= tree.read) ≠ .error .invalidPath := by
  cases run : tree.realPath true p with
  | error fault =>
    rintro ⟨⟩
    rw [realPath, if_neg (by simpa using p.contains_eq_false.2 hp)] at run
    cases walk : tree.resolve true [] (.start tree p) (tree.absolute p).parts with
    | error fault =>
      rw [walk] at run
      cases run
      exact resolve_ne_invalidPath _ _ _ _ walk
    | ok resolved =>
      rw [walk] at run
      cases run
  | ok real =>
    obtain ⟨names, rfl, known⟩ := known_of_realPath run
    show tree.read _ ≠ _
    rw [FileTree.read]
    split
    · nofun
    · nofun
    · next fault found =>
      rintro ⟨⟩
      exact locate_ne_invalidPath (h.known known) found

/-- The files below a directory have clean paths. -/
lemma filesBelow_clean (h : tree.Clean) (skipped : List String) (root : Path) :
    ∀ p ∈ tree.filesBelow skipped root, p.Clean := by
  rw [filesBelow]
  split
  · next directory found =>
    intro p hp
    obtain ⟨names, hnames, rfl⟩ := List.mem_map.1 hp
    refine Path.cleanNames_append.2 ⟨clean_of_locate found, ?_⟩
    rw [walk, List.mem_mergeSort, List.mem_filter] at hnames
    obtain ⟨entry, hentry, hleaf⟩ := List.mem_filterMap.1 hnames.1
    obtain ⟨-, hdrop⟩ := Option.ite_none_right_eq_some.1 hleaf
    cases hdrop
    exact (h.names entry hentry).sublist (List.drop_sublist _ _)
  · exact List.forall_mem_nil _

end RouteAudit.FileTree
