import RouteAudit.CommandLine.Run
import RouteAudit.Proofs.Project.Check
import RouteAudit.Proofs.Project.Reading

/-!
# What breaks off a run on a project

A file of a project that cannot be evaluated adds nothing to what is read of the project.  There are
two kinds of exception: an integer of too many digits in the autoload table, in the plugin registry
or as the key of a module, and a path that is too long, which may be put together from names that
stand in files.  A command may also not be able to put out what it found: a JSON document can hold
half of a character.  Whatever else the files hold, the run comes to its end
(`runs_unless_obstructed`).
-/

namespace RouteAudit
open Source (Declaration)

namespace Audit
open HandleMap

variable {α : Type} {tree : FileTree} {J : ClassTable → Prop} {Q : α → Prop} {F : Fault → Prop}
  {places : ClassTable}

/-! ## Controllers -/

/-- The directories that exist are told unless a path is too long. -/
lemma existing_ends {paths : List Path}
    (hF : ∀ p ∈ paths, tree.locate p = .error .nameTooLong → F (.file .nameTooLong)) :
    Ends tree J (existing paths) (fun _ => True) F := by
  induction paths with
  | nil => exact .pure trivial
  | cons p paths ih =>
    obtain ⟨hp, hpaths⟩ := List.forall_mem_cons.1 hF
    refine .read ((Ends.isDirectory hp).bind fun _ _ => ?_)
    exact (ih hpaths).bind fun _ _ => .pure trivial

section Found

variable {P : Declaration → Prop} (hP : ∀ d, d.StandsIn tree → P d)

/-- Declarations with a property account for a class and its actions: one of them has the name of the
class, and each action is a method of one. -/
structure ListedBy (P : Declaration → Prop) (entry : String × List String) : Prop where
  name : ∃ d, P d ∧ (d.name = entry.1 ∨ d.key = Source.ClassName.key entry.1)
  methods : ∀ m ∈ entry.2, Identifier.isAction m = true ∧ ∃ d, P d ∧ m ∈ d.methods

include hP

/-- A class that cannot be looked at is skipped, so the actions of any class can be told. -/
lemma candidateActions_ends (base className : String) :
    Ends tree (Knows places P) (candidateActions base className)
      (fun actions => actions.isEmpty = false → ListedBy P (className, actions)) F := by
  have accounts : Accounts tree places P fun _ => True := fun _ _ _ _ _ => trivial
  refine Ends.orElse (G := fun _ => True) ?_ ((Ends.note _).bind fun _ _ => .pure nofun)
  refine (findClass_ends hP fun _ _ _ => trivial).bind fun found hfound => ?_
  cases found with
  | none => exact (Ends.note _).bind fun _ _ => .pure nofun
  | some d =>
    obtain ⟨hd, hkey⟩ := hfound d rfl
    refine (isController_ends hP accounts base hd).bind fun isController _ => ?_
    cases isController with
    | false => exact (Ends.note _).bind fun _ _ => .pure nofun
    | true =>
      exact (actionMethods_ends hP accounts hd).imp
        (fun actions hactions _ => ⟨⟨d, hd, .inr hkey⟩, hactions⟩) fun _ hfault => hfault

/-- The candidates are looked at to an end, and what is listed are classes with the property. -/
lemma addCandidates_ends (base : String) (table : ActionTable) (classes : List String) :
    Ends tree (Knows places P) (addCandidates base table classes)
      (fun table' => ∀ entry ∈ table', entry ∈ table ∨ entry.1 ∈ classes ∧ ListedBy P entry) F := by
  induction classes generalizing table with
  | nil => exact .pure fun entry hentry => .inl hentry
  | cons className classes ih =>
    refine (candidateActions_ends hP base className).bind fun actions hactions => ?_
    refine (ih _).imp (fun table' htable' entry hentry => ?_) fun _ hfault => hfault
    rcases htable' entry hentry with hentry | ⟨hclass, listed⟩
    · cases hempty : actions.isEmpty with
      | true =>
        rw [hempty] at hentry
        exact .inl hentry
      | false =>
        rw [hempty] at hentry
        rcases Assoc.mem_insert hentry with hentry | rfl
        · exact .inl hentry
        · exact .inr ⟨List.mem_cons_self, hactions hempty⟩
    · exact .inr ⟨List.mem_cons_of_mem className hclass, listed⟩

/-- What is discovered are classes that files of controllers should declare. -/
lemma discover_ends (autoload : Autoload) (base : String) {spaces : List String}
    (hF : ∀ space ∈ spaces, ∀ entry ∈ autoload,
      ∀ p ∈ directoriesUnder space entry.1 entry.2,
        tree.locate p = .error .nameTooLong → F (.file .nameTooLong)) :
    Ends tree (Knows places P) (discover spaces autoload base)
      (fun table => ∀ entry ∈ table, ListedBy P entry ∧
        ∃ space directory, entry.1 ∈ candidateClasses tree space directory) F := by
  rw [discover]
  split
  · exact .pure (List.forall_mem_nil _)
  · suffices all : ∀ table : ActionTable, Ends tree (Knows places P)
        (addNamespaces base autoload table spaces)
        (fun table' => ∀ entry ∈ table', entry ∈ table ∨ ListedBy P entry ∧
          ∃ space directory, entry.1 ∈ candidateClasses tree space directory) F by
      exact (all []).imp (fun _ h entry hentry => (h entry hentry).resolve_left List.not_mem_nil)
        fun _ hfault => hfault
    induction spaces with
    | nil => exact fun table => .pure fun entry hentry => .inl hentry
    | cons space spaces ih =>
      obtain ⟨hspace, hspaces⟩ := List.forall_mem_cons.1 hF
      intro table
      refine .read (Ends.bind (R := fun _ => True) (existing_ends fun p hp => ?_) fun _ _ => ?_)
      · obtain ⟨entry, hentry, hp⟩ := List.mem_flatMap.1 hp
        exact hspace entry hentry p hp
      · refine (addCandidates_ends hP base table _).bind fun table' htable' => ?_
        refine (ih hspaces table').imp (fun _ h entry hentry => ?_) fun _ hfault => hfault
        rcases h entry hentry with hentry | found
        · rcases htable' entry hentry with hentry | ⟨hclass, listed⟩
          · exact .inl hentry
          · obtain ⟨directory, -, hclass⟩ := List.mem_flatMap.1 hclass
            exact .inr ⟨listed, space, directory, hclass⟩
        · exact .inr found

omit hP in
/-- Where the names of all entries are proper, so are the paths of the files that are found. -/
lemma phpFiles_ends {root : Path}
    (hF : tree.locate root = .error .nameTooLong → F (.file .nameTooLong)) :
    Ends tree J (phpFiles root) (fun files => ∀ p ∈ files, tree.Clean → p.Clean) F := by
  refine .read ((Ends.isFile hF).bind fun isFile hfile => ?_)
  cases isFile with
  | true =>
    obtain ⟨bytes, hread⟩ := FileTree.read_of_isFile hfile
    refine .pure fun p hp _ => ?_
    split at hp
    · obtain rfl := List.mem_singleton.1 hp
      exact FileTree.clean_of_read hread
    · cases hp
  | false =>
    refine (Ends.isDirectory hF).bind fun isDirectory _ => ?_
    cases isDirectory with
    | false => exact .pure (List.forall_mem_nil _)
    | true =>
      refine .pure fun p hp clean => ?_
      exact FileTree.filesBelow_clean clean _ root p (List.mem_filter.1 hp).1

/-- A path that cannot be followed accounts for a fault, unless the names of all entries are proper
and so is the path. -/
def Follows (tree : FileTree) (F : Fault → Prop) : Prop :=
  ∀ p : Path, (tree.Clean → p.Clean) → ∀ fault, tree.identity p = .error fault → F (.file fault)

/-- Files are registered to an end, and the names are mentioned by declarations. -/
lemma declaredClasses_ends (follows : Follows tree F) {paths : List Path}
    (hpaths : ∀ p ∈ paths, tree.Clean → p.Clean) :
    Ends tree (Knows places P) (declaredClasses paths)
      (fun names => ∀ name ∈ names, MentionedBy P name) F := by
  induction paths with
  | nil => exact .pure (List.forall_mem_nil _)
  | cons p paths ih =>
    obtain ⟨hp, hpaths⟩ := List.forall_mem_cons.1 hpaths
    refine (registerFile_ends_of hP (follows p hp)).bind fun declarations hdeclared => ?_
    refine (ih hpaths).bind fun names hnames => .pure fun name hname => ?_
    rcases List.mem_append.1 hname with hname | hname
    · obtain ⟨d, hd, rfl⟩ := List.mem_map.1 hname
      exact ⟨d, hdeclared d (List.mem_filter.1 hd).1, .inl rfl⟩
    · exact hnames name hname

/-- The classes below some roots are told unless a root is too long. -/
lemma classesBelow_ends (follows : Follows tree F) {roots : List Path}
    (hF : ∀ root ∈ roots, tree.locate root = .error .nameTooLong → F (.file .nameTooLong)) :
    Ends tree (Knows places P) (classesBelow roots)
      (fun names => ∀ name ∈ names, MentionedBy P name) F := by
  induction roots with
  | nil => exact .pure (List.forall_mem_nil _)
  | cons root roots ih =>
    obtain ⟨hroot, hroots⟩ := List.forall_mem_cons.1 hF
    refine (phpFiles_ends hroot).bind fun files hfiles => ?_
    refine (declaredClasses_ends hP follows hfiles).bind fun names hnames => ?_
    refine (ih hroots).bind fun more hmore => .pure fun name hname => ?_
    exact (List.mem_append.1 hname).elim (hnames name) (hmore name)

/-- The controllers among some classes are listed to an end. -/
lemma addControllers_ends (accounts : Accounts tree places P F) (base : String)
    (table : ActionTable) {names : List String} (hnames : ∀ name ∈ names, MentionedBy P name) :
    Ends tree (Knows places P) (addControllers base table names)
      (fun table' => ∀ entry ∈ table', entry ∈ table ∨ ListedBy P entry) F := by
  induction names generalizing table with
  | nil => exact .pure fun entry hentry => .inl hentry
  | cons name names ih =>
    obtain ⟨hname, hrest⟩ := List.forall_mem_cons.1 hnames
    refine (findClass_ends hP (accounts name hname)).bind fun found hfound => ?_
    cases found with
    | none => exact ih table hrest
    | some d =>
      have hd := (hfound d rfl).1
      refine (isController_ends hP accounts base hd).bind fun isController _ => ?_
      cases isController with
      | false => exact ih table hrest
      | true =>
        refine (actionMethods_ends hP accounts hd).bind fun actions hactions => ?_
        refine (ih _ hrest).imp (fun table' htable' entry hentry => ?_) fun _ hfault => hfault
        rcases htable' entry hentry with hentry | listed
        · split at hentry
          · exact .inl hentry
          · rcases Assoc.mem_insert hentry with hentry | rfl
            · exact .inl hentry
            · exact .inr ⟨⟨d, hd, .inl rfl⟩, hactions⟩
        · exact .inr listed

/-- A collection comes to an end, and lists classes with the property. -/
lemma collect_ends (follows : Follows tree F) (accounts : Accounts tree places P F) (base : String)
    {roots : List Path}
    (hF : ∀ root ∈ roots, tree.locate root = .error .nameTooLong → F (.file .nameTooLong)) :
    Ends tree (Knows places P) (collect roots base)
      (fun table => ∀ entry ∈ table, ListedBy P entry) F := by
  refine (classesBelow_ends hP follows hF).bind fun names hnames => ?_
  refine (addControllers_ends hP accounts base [] hnames).bind fun table htable => ?_
  refine (Ends.note _).bind fun _ _ => .pure fun entry hentry => ?_
  exact (htable entry hentry).resolve_left List.not_mem_nil

/-- A default action that cannot be told is replaced by the usual one. -/
lemma defaultActionOf_ends (className : String) :
    Ends tree (Knows places P) (defaultActionOf className) (fun _ => True) F := by
  have accounts : Accounts tree places P fun _ => True := fun _ _ _ _ _ => trivial
  refine Ends.bind (R := fun _ => True) (Ends.orElse (G := fun _ => True) ?_ ?_)
    fun declared _ => ?_
  · refine (findClass_ends hP fun _ _ _ => trivial).bind fun found hfound => ?_
    cases found with
    | none => exact .pure trivial
    | some d =>
      have hd := (hfound d rfl).1
      exact (members_ends hP accounts _ hd).bind fun _ _ => .pure trivial
  · exact (Ends.note _).bind fun _ _ => .pure trivial
  · cases declared with
    | none => exact .pure trivial
    | some name => exact .pure trivial

/-- An index is built to an end, with some default action for each class. -/
lemma buildRoutes_ends (handles : HandleMap) (actions : ActionTable) :
    Ends tree (Knows places P) (buildRoutes handles actions)
      (fun index => ∃ default, index = .build handles actions default) F := by
  refine Ends.bind (R := fun _ => True) ?_ fun _ _ => .pure ⟨_, rfl⟩
  induction actions with
  | nil => exact .pure trivial
  | cons entry actions ih =>
    rw [defaultActions]
    split
    · exact ih
    · exact (defaultActionOf_ends hP entry.1).bind fun _ _ => ih.bind fun _ _ => .pure trivial

end Found

/-! ## Whole runs -/

/-- The autoload table that a run goes by. -/
def autoloadOf (tree : FileTree) (c : CheckConfig) : Autoload :=
  match c.autoload, tree.rootOf? (Path.ofString c.config) with
  | some autoload, _ => autoload
  | none, some root => (tree.table root).toOption.getD []
  | none, none => []

/-- Where a run looks for classes. -/
def placesOf (tree : FileTree) (c : CheckConfig) : ClassTable :=
  .ofAutoload (autoloadOf tree c)

/-- The paths that a run asks for, besides those of the files with the handles. -/
inductive Asked (tree : FileTree) (c : CheckConfig) : Path → Prop
  /-- Classes are collected, and a path is tried for one that is mentioned. -/
  | mentioned {name : String} {p : Path} : c.scanPaths ≠ [] → Mentioned tree name →
    p ∈ (placesOf tree c).candidates (Source.ClassName.bare name) → Asked tree c p
  /-- The controllers of a handle may be in a directory. -/
  | directory {s s' : Session} {handles : Handles} {space : String}
    {entry : String × List String} {p : Path} :
    resolveHandles (Path.ofString c.config) (Assoc.ofList c.handles) true c.coreNamespace tree s =
      .ok handles s' →
    space ∈ handles.map.values → entry ∈ autoloadOf tree c →
    p ∈ directoriesUnder space entry.1 entry.2 → Asked tree c p
  | scanned {root : String} : root ∈ c.scanPaths → Asked tree c (Path.ofString root)
  | templates {root : String} : root ∈ c.templates → Asked tree c (Path.ofString root)

/-- What breaks off a run. -/
inductive Obstacle (tree : FileTree) (c : CheckConfig) : Fault → Prop
  | table {root : Path} {fault : Fault} : c.autoload = none →
    tree.rootOf? (Path.ofString c.config) = some root → tree.table root = .error fault →
    Obstacle tree c fault
  | handles {fault : Fault} :
    HandlesObstacle tree (placesOf tree c) true (Path.ofString c.config) fault →
    Obstacle tree c fault
  | long {p : Path} : Asked tree c p → tree.locate p = .error .nameTooLong →
    Obstacle tree c (.file .nameTooLong)

namespace Ends

/-- The known classes may be replaced. -/
lemma restart {K : ClassTable → Prop} {x : Audit α} {table : ClassTable} (h : Ends tree K x Q F)
    (htable : K table) :
    Ends tree (fun _ => True)
      (do
        modify fun s => { s with classes := table }
        x) Q F := by
  intro s _
  rw [run_bind]
  show EndsIn _ Q F (x tree { s with classes := table })
  have h := h { s with classes := table } htable
  generalize x tree { s with classes := table } = r at h
  cases h with
  | ok _ ha => exact .ok trivial ha
  | error _ hfault => exact .error trivial hfault

/-- What an activity answers, it answers in some session. -/
lemma withRun {x : Audit α} (h : Ends tree J x Q F) :
    Ends tree J x (fun a => Q a ∧ ∃ s s', x tree s = .ok a s') F := by
  intro s hs
  have h := h s hs
  cases hrun : x tree s with
  | ok a s' =>
    rw [hrun] at h
    cases h with
    | ok hs' ha => exact .ok hs' ⟨ha, s, s', hrun⟩
  | error fault s' =>
    rw [hrun] at h
    cases h with
    | error hs' hfault => exact .error hs' hfault

end Ends

/-- A project was read: the classes of its controllers, but for those that the options list, stand
in files, and its index is that of the routes of the controllers. -/
structure Project.ReadFrom (tree : FileTree) (c : CheckConfig) (p : Project) : Prop where
  discovered : ∀ entry ∈ p.snapshot.discovered, ListedBy (·.StandsIn tree) entry
  actions : ∃ scanned : ActionTable, (∀ entry ∈ scanned, ListedBy (·.StandsIn tree) entry) ∧
    p.actions = ActionTable.merge (scanned ++ c.collected.getD []) p.snapshot.discovered
  index : ∃ default, p.index = .build p.snapshot.handles.map p.actions default

section Run

variable (follows : Follows tree F) {c : CheckConfig} (hF : ∀ fault, Obstacle tree c fault → F fault)
include follows hF

/-- The actions of a project are those that a scan lists, merged with the discovered ones. -/
lemma controllerActions_ends (snapshot : Snapshot) :
    Ends tree (Knows (placesOf tree c) (·.StandsIn tree)) (controllerActions snapshot c)
      (fun actions => ∃ scanned : ActionTable,
        (∀ entry ∈ scanned, ListedBy (·.StandsIn tree) entry) ∧
          actions = ActionTable.merge (scanned ++ c.collected.getD []) snapshot.discovered) F := by
  rw [controllerActions]
  split
  · exact .pure ⟨[], List.forall_mem_nil _, rfl⟩
  · next hscan =>
    have hscan : c.scanPaths ≠ [] := by simpa using hscan
    refine (collect_ends (fun _ h => h) follows (fun name hname p hp long => ?_) _
      fun root hroot long => ?_).bind fun scanned hscanned => .pure ⟨scanned, hscanned, rfl⟩
    · exact hF _ (.long (.mentioned hscan hname hp) long)
    · obtain ⟨name, hname, rfl⟩ := List.mem_map.1 hroot
      exact hF _ (.long (.scanned hname) long)

/-- Once the autoload table is known, the project is read. -/
lemma survey_ends :
    Ends tree (fun _ => True)
      (do
        modify fun s => { s with classes := placesOf tree c }
        let handles ← resolveHandles (Path.ofString c.config) (Assoc.ofList c.handles) true
          c.coreNamespace
        let autoload := autoloadOf tree c
        let discovered ← discover handles.map.values autoload c.baseController
        note (.snapshot handles.map.length autoload.length discovered.length)
        let snapshot : Snapshot := { handles, autoload, discovered }
        let actions ← controllerActions snapshot c
        let index ← buildRoutes snapshot.handles.map actions
        return ({ snapshot, actions, index } : Project))
      (Project.ReadFrom tree c) F := by
  have known : Knows (placesOf tree c) (·.StandsIn tree) (placesOf tree c) :=
    ⟨rfl, List.forall_mem_nil _, List.forall_mem_nil _⟩
  refine Ends.restart (K := Knows (placesOf tree c) (·.StandsIn tree)) ?_ known
  have handles : Ends tree (Knows (placesOf tree c) (·.StandsIn tree))
      (resolveHandles (Path.ofString c.config) (Assoc.ofList c.handles) true c.coreNamespace) _ _ :=
    resolveHandles_ends (fun _ h => h) _ _ _ _
  refine (handles.withRun.imp (fun _ h => h) fun _ h => hF _ (.handles h)).bind
    fun handles hhandles => ?_
  obtain ⟨-, s, s', run⟩ := hhandles
  refine (discover_ends (fun _ h => h) _ _ fun space hspace entry hentry p hp long => ?_).bind
    fun discovered hdiscovered => ?_
  · exact hF _ (.long (.directory run hspace hentry hp) long)
  refine (Ends.note _).bind fun _ _ => ?_
  refine (controllerActions_ends follows hF _).bind fun actions hactions => ?_
  refine (buildRoutes_ends (fun _ h => h) _ actions).bind fun index hindex => .pure ?_
  exact ⟨fun entry hentry => (hdiscovered entry hentry).1, hactions, hindex⟩

/-- A project is built to an end, or meets one of its obstacles. -/
lemma buildProject_ends :
    Ends tree (fun _ => True) (buildProject c) (Project.ReadFrom tree c) F := by
  rw [buildProject, takeSnapshot]
  rw [bind_assoc]
  refine (projectRoot_ends fun long => hF _ (.handles (.config long))).bind fun root? hroot => ?_
  have survey := survey_ends follows hF
  rw [placesOf] at survey
  cases hautoload : c.autoload with
  | some autoload =>
    have hsame : autoloadOf tree c = autoload := by
      rw [autoloadOf, hautoload]
    rw [hsame] at survey
    simp only [bind_assoc, pure_bind]
    exact survey
  | none =>
    simp only [bind_assoc, pure_bind]
    cases root? with
    | none =>
      have hsame : autoloadOf tree c = [] := by
        rw [autoloadOf, hautoload, ← hroot]
      rw [hsame] at survey
      exact survey
    | some root =>
      have table : Tells tree (loadAutoload (some root)) (tree.table root) :=
        loadAutoload_tells root
      have load := (table fun _ => True).imp (G := F) (fun _ h => h) fun _ h =>
        hF _ (.table hautoload hroot.symm h)
      refine load.bind fun autoload htable => ?_
      have hsame : autoloadOf tree c = autoload := by
        rw [autoloadOf, hautoload, ← hroot]
        dsimp only
        rw [htable]
        rfl
      rw [hsame] at survey
      exact survey

end Run

/-- There are two kinds of obstacle. -/
lemma Obstacle.kind {c : CheckConfig} {fault : Fault} (h : Obstacle tree c fault) :
    fault = .file .nameTooLong ∨ fault = .source .overlong := by
  cases h with
  | table _ _ h => exact FileTree.optionalReturn_fault (FileTree.optionalReturn_of_map h)
  | long => exact .inl rfl
  | handles h =>
    cases h with
    | config => exact .inl rfl
    | plugins _ h => exact FileTree.optionalReturn_fault (FileTree.optionalReturn_of_map h)
    | module => exact .inl rfl
    | @key key _ fault _ h =>
      cases key with
      | text s => cases h
      | index n =>
        rw [HandleMap.handleOf, Source.decimalText] at h
        split at h <;> cases h
        exact .inr rfl

end Audit
end RouteAudit
