import RouteAudit.Proofs.Assoc
import RouteAudit.Proofs.Files.Clean

/-!
# Canonical names

The entry that a path leads to has one list of names by which it is known.  A file that can be read
is told from others by just this list (`identity_of_read`).
-/

namespace RouteAudit.FileTree

variable {tree : FileTree}

/-- An entry is reached by its names from the root: through directories, and by no link. -/
structure Reached (tree : FileTree) (names : List String) (node : Node) : Prop where
  noUp : ".." ∉ names
  through : ∀ front, front <+: names → front ≠ names → tree.node? front = some .directory
  entry : tree.node? names = some node
  noLink : ∀ target, node ≠ .link target

/-- The root is reached. -/
lemma reached_nil : Reached tree [] .directory where
  noUp := List.not_mem_nil
  through _ hfront hne := absurd (List.prefix_nil.1 hfront) hne
  entry := rfl
  noLink := nofun

namespace Reached

/-- The way back from a directory leads to a directory. -/
lemma dropLast {names : List String} (h : Reached tree names .directory) :
    Reached tree names.dropLast .directory := by
  have up (front : List String) (hfront : front <+: names) :
      tree.node? front = some .directory := by
    by_cases hne : front = names
    · exact hne ▸ h.entry
    · exact h.through front hfront hne
  have hdrop := List.dropLast_prefix names
  exact
    { noUp := fun hup => h.noUp (hdrop.subset hup)
      through := fun front hfront _ => up front (hfront.trans hdrop)
      entry := up _ hdrop
      noLink := nofun }

/-- An entry of a directory is reached unless it is a link. -/
lemma concat {names : List String} (h : Reached tree names .directory) {name : String}
    (hup : name ≠ "..") {node : Node} (entry : tree.node? (names ++ [name]) = some node)
    (noLink : ∀ target, node ≠ .link target) : Reached tree (names ++ [name]) node where
  noUp hmem := by
    rcases List.mem_append.1 hmem with hmem | hmem
    · exact h.noUp hmem
    · exact hup (List.mem_singleton.1 hmem).symm
  through front hfront hne := by
    have hfront := (List.prefix_concat_iff.1 hfront).resolve_left hne
    by_cases hnames : front = names
    · exact hnames ▸ h.entry
    · exact h.through front hfront hnames
  entry := entry
  noLink := noLink

/-- On the way to an entry there are entries, and no links. -/
lemma onTheWay {names front : List String} {node : Node} (h : Reached tree names node)
    (hfront : front <+: names) :
    ∃ next, tree.node? front = some next ∧ ∀ target, next ≠ .link target := by
  by_cases hnames : front = names
  · exact ⟨node, hnames ▸ h.entry, h.noLink⟩
  · exact ⟨.directory, h.through front hfront hnames, nofun⟩

end Reached

/-- A walk from an entry that is reached ends at one. -/
lemma follow_reached {links : Nat} {here names found : List String} {node last : Node}
    (h : Reached tree here node) (run : tree.follow links here node names = .ok (found, last)) :
    Reached tree found last := by
  fun_induction FileTree.follow tree links here node names with
  | case1 =>
    cases run
    exact h
  | case2 _ _ _ ih => exact ih h.dropLast run
  | case6 here name rest _ _ target _ links ih =>
    refine ih ?_ run
    split
    · exact reached_nil
    · exact h
  | case7 links here name rest hup _ node noLink entry ih =>
    exact ih (h.concat hup entry noLink) run
  | _ => cases run

/-! ## Links on the way -/

/-- Where the names of the target of a link in a directory start. -/
def baseOf (here : List String) (target : Path) : List String :=
  if target.isAbsolute then [] else here

/-- Names lead from one entry to another along a number of links. -/
inductive Leads (tree : FileTree) : List String → List String → List String → Nat → Prop
  | done {here : List String} : Leads tree here [] here 0
  | up {here rest there : List String} {links : Nat} :
      Leads tree here.dropLast rest there links → Leads tree here (".." :: rest) there links
  | down {here rest there : List String} {name : String} {node : Node} {links : Nat} :
      name ≠ ".." → tree.node? (here ++ [name]) = some node →
      (∀ target, node ≠ .link target) → Leads tree (here ++ [name]) rest there links →
      Leads tree here (name :: rest) there links
  | along {here rest middle there : List String} {name : String} {target : Path}
      {inside behind : Nat} :
      name ≠ ".." → tree.node? (here ++ [name]) = some (.link target) →
      Leads tree (baseOf here target) target.parts middle inside →
      Leads tree middle rest there behind →
      Leads tree here (name :: rest) there (inside + behind + 1)

namespace Leads

variable {here there there' : List String} {names rest : List String} {links links' : Nat}

/-- A way along names and more names is one way after the other. -/
lemma split (h : Leads tree here (names ++ rest) there links) :
    ∃ middle front back, Leads tree here names middle front ∧
      Leads tree middle rest there back ∧ links = front + back := by
  induction names generalizing here links with
  | nil => exact ⟨here, 0, links, done, h, (Nat.zero_add links).symm⟩
  | cons name names ih =>
    cases h with
    | up h =>
      obtain ⟨middle, front, back, hfront, hback, sum⟩ := ih h
      exact ⟨middle, front, back, hfront.up, hback, sum⟩
    | down hup entry noLink h =>
      obtain ⟨middle, front, back, hfront, hback, sum⟩ := ih h
      exact ⟨middle, front, back, hfront.down hup entry noLink, hback, sum⟩
    | @along _ _ _ _ _ _ inside _ hup entry htarget h =>
      obtain ⟨middle, front, back, hfront, hback, rfl⟩ := ih h
      exact ⟨middle, inside + front + 1, back, htarget.along hup entry hfront, hback, by omega⟩

/-- There is one way along names, and it has one number of links. -/
lemma unique (h : Leads tree here names there links) (h' : Leads tree here names there' links') :
    there = there' ∧ links = links' := by
  induction h generalizing there' links' with
  | done =>
    cases h'
    exact ⟨rfl, rfl⟩
  | up _ ih =>
    cases h' with
    | up h' => exact ih h'
    | down hup => exact absurd rfl hup
    | along hup => exact absurd rfl hup
  | down hup entry noLink _ ih =>
    cases h' with
    | up => exact absurd rfl hup
    | down _ _ _ h' => exact ih h'
    | along _ entry' => exact absurd (Option.some.inj (entry.symm.trans entry')) (noLink _)
  | along hup entry _ _ ihTarget ih =>
    cases h' with
    | up => exact absurd rfl hup
    | down _ entry' noLink =>
      exact absurd (Option.some.inj (entry'.symm.trans entry)) (noLink _)
    | along _ entry' htarget' h' =>
      cases Option.some.inj (entry.symm.trans entry')
      obtain ⟨rfl, rfl⟩ := ihTarget htarget'
      obtain ⟨rfl, rfl⟩ := ih h'
      exact ⟨rfl, rfl⟩

end Leads

/-- A walk is a way along its names. -/
lemma leads_of_follow {links : Nat} {here names found : List String} {node last : Node}
    (run : tree.follow links here node names = .ok (found, last)) :
    ∃ used, Leads tree here names found used := by
  fun_induction FileTree.follow tree links here node names with
  | case1 =>
    cases run
    exact ⟨0, .done⟩
  | case2 links here rest ih =>
    obtain ⟨used, h⟩ := ih run
    exact ⟨used, h.up⟩
  | case6 here name rest hup _ target entry links ih =>
    obtain ⟨used, h⟩ := ih run
    obtain ⟨middle, inside, behind, htarget, h, -⟩ := h.split
    exact ⟨_, htarget.along hup entry h⟩
  | case7 links here name rest hup _ node noLink entry ih =>
    obtain ⟨used, h⟩ := ih run
    exact ⟨used, h.down hup entry noLink⟩
  | _ => cases run

/-- Every link in a list has a way to its target, of at least a number of links. -/
def Outlasts (tree : FileTree) (inside : List tree.Spelling) (links : Nat) : Prop :=
  ∀ s ∈ inside, ∃ target there more, tree.node? s.names = some (.link target) ∧
    Leads tree (baseOf s.names.dropLast target) target.parts there more ∧ links ≤ more

/-- What outlasts a number of links outlasts any smaller one. -/
lemma Outlasts.mono {inside : List tree.Spelling} {links fewer : Nat}
    (h : Outlasts tree inside links) (le : fewer ≤ links) : Outlasts tree inside fewer := by
  intro s hs
  obtain ⟨target, there, more, entry, way, hmore⟩ := h s hs
  exact ⟨target, there, more, entry, way, le.trans hmore⟩

/-- A link whose way has fewer links is not among those that outlast more. -/
lemma Outlasts.notMem {inside : List tree.Spelling} {links fewer : Nat}
    (h : Outlasts tree inside links) {s : tree.Spelling} {target : Path} {there : List String}
    (link : tree.node? s.names = some (.link target))
    (way : Leads tree (baseOf s.names.dropLast target) target.parts there fewer)
    (lt : fewer < links) : ¬inside.contains s = true := by
  intro seen
  obtain ⟨target', there', more, link', way', le⟩ := h s (by simpa using seen)
  cases Option.some.inj (link.symm.trans link')
  obtain ⟨-, rfl⟩ := way.unique way'
  exact Nat.not_le.2 lt le

/-- The target of a link starts at the root or in the directory of the link. -/
lemma Spelling.along_names (here : tree.Spelling) (target : Path) :
    (here.along target).names = baseOf here.names target := by
  rw [along, baseOf]
  split <;> rfl

/-- Where names lead, replacing the links leads as well: a link is never met inside its own target,
since the way from there would have fewer links than itself. -/
lemma Leads.resolve {start names there : List String} {links : Nat}
    (h : Leads tree start names there links) (strict : Bool) {inside : List tree.Spelling}
    {here : tree.Spelling} (hstart : here.names = start) (outlasts : Outlasts tree inside links) :
    ∃ place, tree.resolve strict inside here names = .ok (.entry place) ∧
      place.names = there := by
  induction h generalizing inside here with
  | done =>
    rw [FileTree.resolve]
    exact ⟨here, rfl, hstart⟩
  | up _ ih =>
    rw [FileTree.resolve, if_pos rfl]
    exact ih (congrArg List.dropLast hstart) outlasts
  | @down start rest there name node links hup entry noLink _ ih =>
    subst hstart
    rw [FileTree.resolve, if_neg hup]
    split
    · next missing => cases missing.symm.trans entry
    · next target link => exact absurd (Option.some.inj (entry.symm.trans link)) (noLink target)
    · exact ih rfl outlasts
  | @along start rest middle there name target inner behind hup entry htarget _ ihTarget ih =>
    subst hstart
    rw [FileTree.resolve, if_neg hup]
    have back : (here.down name).names.dropLast = here.names := List.dropLast_concat
    split
    · next missing => cases missing.symm.trans entry
    · next target' link =>
      obtain rfl : target = target' := by
        cases Option.some.inj (entry.symm.trans link)
        rfl
      have way : Leads tree (baseOf (here.down name).names.dropLast target) target.parts middle
          inner := back.symm ▸ htarget
      have new : ¬inside.contains (here.down name) = true :=
        outlasts.notMem entry way (by omega)
      have deeper : Outlasts tree (here.down name :: inside) inner :=
        List.forall_mem_cons.2 ⟨⟨target, middle, inner, entry, way, le_rfl⟩,
          outlasts.mono (by omega)⟩
      obtain ⟨place, hplace, hmiddle⟩ := ihTarget (here.along_names target) deeper
      rw [if_neg new, hplace]
      exact ih hmiddle (outlasts.mono (by omega))
    · next node noLink entry' =>
      exact absurd (Option.some.inj (entry'.symm.trans entry)) (noLink target)

/-- No links are met on the way along the names of an entry. -/
lemma Reached.follow_ne_loop {names : List String} {node : Node} (h : Reached tree names node)
    {front rest : List String} (split : front ++ rest = names) {here : Node}
    (entry : tree.node? front = some here) (links : Nat) :
    tree.follow links front here rest ≠ .error .loop := by
  induction rest generalizing front here with
  | nil =>
    rw [follow]
    intro h
    cases h
  | cons name rest ih =>
    have hsplit : front ++ [name] ++ rest = names := by
      rw [List.append_assoc, List.singleton_append, split]
    obtain ⟨next, hnext, noLink⟩ := h.onTheWay ⟨rest, hsplit⟩
    -- a step back could lead out of the way along the names, but the names hold none
    have hup : name ≠ ".." := by
      rintro rfl
      exact h.noUp (split ▸ List.mem_append_right front List.mem_cons_self)
    cases here with
    | directory =>
      rw [follow, if_neg hup]
      by_cases hlong : nameLimit < name.utf8ByteSize
      · rw [if_pos hlong]
        intro h
        cases h
      · rw [if_neg hlong]
        cases next with
        | link target => exact absurd rfl (noLink target)
        | _ =>
          simp only [hnext]
          exact ih hsplit hnext
    | file content =>
      rw [follow]
      all_goals
        intro h
        cases h
    | link target =>
      rw [follow]
      all_goals
        intro h
        cases h

/-- A path that is located is walked along. -/
lemma follow_of_locate {p : Path} {found : List String × Node} (h : tree.locate p = .ok found) :
    tree.follow linkLimit [] .directory (tree.absolute p).parts = .ok found := by
  rw [locate, checkPath, p.contains_eq_false.2 (clean_of_locate h), if_neg Bool.false_ne_true] at h
  split at h
  · cases h
  · exact h

/-- The way along the names of an entry meets no link. -/
lemma locate_ne_loop {names : List String} {node : Node} (h : Reached tree names node) :
    tree.locate { slashes := 1, parts := names } ≠ .error .loop := by
  rw [locate, checkPath]
  split
  · intro h
    cases h
  · split
    · intro h
      cases h
    · exact h.follow_ne_loop (List.nil_append names) rfl linkLimit

/-- A file is told from others by the names that it is located at. -/
lemma identity_of_locate {p : Path} {names : List String} {bytes : List UInt8}
    (located : tree.locate p = .ok (names, .file bytes)) :
    tree.identity p = .ok { slashes := 1, parts := names } ∧
      Reached tree names (.file bytes) := by
  have walk := follow_of_locate located
  have reached := follow_reached reached_nil walk
  have hreal : tree.realPath false p = .ok { slashes := 1, parts := names } := by
    obtain ⟨used, way⟩ := leads_of_follow walk
    have start : (Spelling.start tree p).names = [] := rfl
    obtain ⟨place, hplace, rfl⟩ := way.resolve false start (List.forall_mem_nil _)
    rw [realPath, p.contains_eq_false.2 (clean_of_locate located), if_neg Bool.false_ne_true,
      hplace]
    rfl
  refine ⟨?_, reached⟩
  rw [identity, hreal]
  dsimp only
  split
  · next hloop => exact absurd hloop (locate_ne_loop reached)
  · rfl

/-- A file that can be read is told from others by the names that it is reached by. -/
lemma reached_of_read {p : Path} {bytes : List UInt8} (h : tree.read p = .ok bytes) :
    ∃ names, tree.identity p = .ok { slashes := 1, parts := names } ∧
      Reached tree names (.file bytes) := by
  rw [read] at h
  split at h
  · next names content located =>
    cases h
    exact ⟨names, identity_of_locate located⟩
  · cases h
  · cases h

/-- The bytes of a file are known by the names of its entry. -/
theorem identity_of_read {p : Path} {bytes : List UInt8} (h : tree.read p = .ok bytes) :
    ∃ names, tree.identity p = .ok { slashes := 1, parts := names } ∧
      (names, .file bytes) ∈ tree.entries := by
  obtain ⟨names, hnames, reached⟩ := reached_of_read h
  refine ⟨names, hnames, ?_⟩
  have entry := reached.entry
  rw [node?] at entry
  split at entry
  · cases entry
  · exact Assoc.mem_of_get? entry

/-- Two paths that are told to be one file lead to the same bytes. -/
theorem read_unique {p q : Path} {bytes bytes' : List UInt8} (h : tree.read p = .ok bytes)
    (h' : tree.read q = .ok bytes') (same : tree.identity p = tree.identity q) :
    bytes = bytes' := by
  obtain ⟨names, hnames, reached⟩ := reached_of_read h
  obtain ⟨names', hnames', reached'⟩ := reached_of_read h'
  rw [hnames, hnames'] at same
  cases same
  have entry := reached.entry
  rw [reached'.entry] at entry
  cases entry
  rfl

/-- What is a file can be read. -/
lemma read_of_isFile {p : Path} (h : tree.isFile p = .ok true) :
    ∃ bytes, tree.read p = .ok bytes := by
  rw [isFile] at h
  split at h
  · next names bytes located =>
    exact ⟨bytes, by rw [read, located]⟩
  · cases h
  · split at h <;> cases h

end RouteAudit.FileTree
