import RouteAudit.Autoload
import RouteAudit.Project.Handles
import RouteAudit.Proofs.Ends

/-!
# Reading the files of a project

The autoload table, the plugin registry and the configuration of a project may be missing, and one
that cannot be evaluated is as good as missing, unless it holds an integer of too many digits
(`FileTree.optionalReturn`).  What breaks off the reading of the handles is told by
`Audit.HandlesObstacle`.
-/

namespace RouteAudit
open Source (Declaration Value Key)

namespace FileTree

/-- The value of a file that may be missing; one that cannot be evaluated has none. -/
def optionalReturn (tree : FileTree) (path : Path) : Except Fault (Option Value) :=
  if tree.locate path = .error .nameTooLong then .error (.file .nameTooLong)
  else
    match tree.readReturn path with
    | .ok v => .ok (some v)
    | .error (.source .overlong) => .error (.source .overlong)
    | .error _ => .ok none

/-- The autoload table of the project in a directory. -/
def table (tree : FileTree) (root : Path) : Except Fault Autoload :=
  (tree.optionalReturn (root.join Autoload.file)).map fun v => (v.map Autoload.ofValue).getD []

/-- The plugins of the project in a directory. -/
def plugins (tree : FileTree) (root : Path) : Except Fault (List (String × String)) :=
  (tree.optionalReturn (root.join HandleMap.registryFile)).map fun v =>
    (v.map HandleMap.plugins).getD []

/-- The value of a configuration, or why there is none. -/
def configuration (tree : FileTree) (path : Path) : Except Cause Value :=
  if path.extension = ".json" then (tree.readJson path).map Value.ofJson
  else tree.readReturn path

/-- The root of the project with a configuration, if there is one. -/
def rootOf? (tree : FileTree) (config : Path) : Option Path :=
  if tree.isFile config = .ok true then some (tree.absolute config).parent.parent else none

/-- The definitions of modules in the configuration of a project. -/
def modules (tree : FileTree) (config : Path) : List (Key × Value) :=
  match tree.rootOf? config, tree.configuration config with
  | some _, .ok v => HandleMap.definitions v
  | _, _ => []

variable {tree : FileTree} {path : Path}

/-- What is no file cannot be read. -/
lemma read_of_isFile_false (h : tree.isFile path = .ok false) :
    ∃ fault, tree.read path = .error fault := by
  rw [isFile] at h
  rw [FileTree.read]
  cases hlocate : tree.locate path with
  | error fault => exact ⟨fault, rfl⟩
  | ok found =>
    obtain ⟨names, node⟩ := found
    rw [hlocate] at h
    cases node with
    | file content => cases h
    | directory => exact ⟨_, rfl⟩
    | link target => exact ⟨_, rfl⟩

/-- Where there is no file, there is no value. -/
lemma optionalReturn_of_isFile_false (h : tree.isFile path = .ok false) :
    tree.optionalReturn path = .ok none := by
  have short : tree.locate path ≠ .error .nameTooLong := by
    rcases tree.isFile_cases path with ⟨_, -, short⟩ | ⟨long, -⟩
    · exact short
    · rw [h] at long
      cases long
  obtain ⟨fault, hfault⟩ := read_of_isFile_false h
  rw [optionalReturn, if_neg short, readReturn, hfault]

/-- Where there is a file it has its value, or none if it cannot be evaluated, but for long numbers.
-/
lemma optionalReturn_of_isFile (h : tree.isFile path = .ok true) :
    tree.optionalReturn path =
      match tree.readReturn path with
      | .ok v => .ok (some v)
      | .error (.source .overlong) => .error (.source .overlong)
      | .error _ => .ok none := by
  rw [optionalReturn, if_neg]
  intro long
  rw [isFile, long] at h
  cases h

/-- A script fails to be read only for a path or a number that is too long. -/
lemma optionalReturn_fault {path : Path} {fault : Fault}
    (h : tree.optionalReturn path = .error fault) :
    fault = .file .nameTooLong ∨ fault = .source .overlong := by
  rw [optionalReturn] at h
  split at h
  · cases h
    exact .inl rfl
  · split at h <;> cases h
    exact .inr rfl

/-- A fault in what is made of a value is a fault of its reading. -/
lemma optionalReturn_of_map {path : Path} {β : Type} {f : Option Value → β} {fault : Fault}
    (h : (tree.optionalReturn path).map f = .error fault) :
    tree.optionalReturn path = .error fault := by
  cases hreturn : tree.optionalReturn path with
  | ok v =>
    rw [hreturn] at h
    cases h
  | error e =>
    rw [hreturn] at h
    cases h
    rfl

end FileTree

namespace Audit

variable {α β : Type} {tree : FileTree} {J : ClassTable → Prop} {Q : α → Prop} {F : Fault → Prop}
  {places : ClassTable} {P : Declaration → Prop}

/-- An activity answers as it is told beforehand, and learns nothing about classes. -/
def Tells (tree : FileTree) (x : Audit α) (answer : Except Fault α) : Prop :=
  ∀ J, Ends tree J x (answer = .ok ·) (answer = .error ·)

/-! ## Files that may be missing -/

/-- A script that is there is read to its value. -/
lemma readReturn_tells {path : Path} (h : tree.isFile path = .ok true) (onFailure : Cause → Note) :
    Tells tree (readReturn path onFailure) (tree.optionalReturn path) := by
  intro J
  obtain ⟨bytes, hread⟩ := FileTree.read_of_isFile h
  rw [readReturn, FileTree.optionalReturn_of_isFile h, FileTree.readReturn, hread]
  refine .read ?_
  rw [FileTree.readReturn, hread]
  dsimp only
  cases Source.Script.evaluate tree.workingDirectory (some path) (sourceText bytes) with
  | ok v => exact .pure rfl
  | error fault =>
    cases fault with
    | overlong => exact .throw rfl
    | noReturn file => exact (Ends.note _).bind fun _ _ => .pure rfl

/-- The value of a file that may be missing is put to use. -/
lemma optional_tells {path : Path} {onFailure : Cause → Note} {found : Option Value → Audit α}
    {missing : Audit α} (use : Option Value → α)
    (hfound : ∀ v J F, Ends tree J (found v) (· = use v) F)
    (hmissing : ∀ J F, Ends tree J missing (· = use none) F) :
    Tells tree
      (do
        if ← ofAccess ((← read).isFile path) then found (← readReturn path onFailure)
        else missing)
      ((tree.optionalReturn path).map use) := by
  intro J
  refine .read ((Ends.isFile fun long => ?_).bind fun isFile hfile => ?_)
  · rw [FileTree.optionalReturn, if_pos long]
    rfl
  · cases isFile with
    | false =>
      refine (hmissing J _).imp (fun a ha => ?_) fun _ h => h
      rw [FileTree.optionalReturn_of_isFile_false hfile, ha]
      rfl
    | true =>
      have value := (readReturn_tells hfile onFailure J).imp (G := fun fault =>
        (tree.optionalReturn path).map use = .error fault) (fun _ h => h) ?_
      · refine value.bind fun v hv => (hfound v J _).imp (fun a ha => ?_) fun _ h => h
        rw [hv, ha]
        rfl
      · intro fault hfault
        rw [hfault]
        rfl

/-- The autoload table is read to what the tree has. -/
lemma loadAutoload_tells (root : Path) :
    Tells tree (loadAutoload (some root)) (tree.table root) := by
  refine optional_tells (fun v => (v.map Autoload.ofValue).getD []) (fun v J F => ?_) fun J F => ?_
  · cases v with
    | none => exact .pure rfl
    | some v => exact .pure rfl
  · exact (Ends.note _).bind fun _ _ => .pure rfl

/-- The registry is read to what the tree has. -/
lemma loadPlugins_tells (root : Path) : Tells tree (loadPlugins root) (tree.plugins root) := by
  refine optional_tells (fun v => (v.map HandleMap.plugins).getD []) (fun v J F => ?_) fun J F => ?_
  · exact .pure rfl
  · exact .pure rfl

/-- The root is told unless the path of the configuration is too long. -/
lemma projectRoot_ends {config : Path}
    (hF : tree.locate config = .error .nameTooLong → F (.file .nameTooLong)) :
    Ends tree J (projectRoot config) (· = tree.rootOf? config) F := by
  refine .read ((Ends.isFile hF).bind fun isFile hfile => ?_)
  cases isFile with
  | false =>
    refine .pure ?_
    rw [FileTree.rootOf?, hfile]
    rfl
  | true =>
    refine .pure ?_
    rw [FileTree.rootOf?, hfile]
    rfl

/-- A configuration without a value is as good as an empty one. -/
lemma loadConfig_ends (path : Path) :
    Ends tree J (loadConfig path) (· = ((tree.configuration path).toOption.getD .null)) F := by
  refine .read ?_
  rw [FileTree.configuration]
  dsimp only
  split
  · next h =>
    rw [h]
    exact .pure rfl
  · next h =>
    rw [h]
    exact (Ends.note _).bind fun _ _ => .pure rfl

/-! ## Handles -/

open HandleMap

/-- What breaks off the reading of the handles of a project. -/
inductive HandlesObstacle (tree : FileTree) (places : ClassTable) (lookUp : Bool) (config : Path) :
    Fault → Prop
  | config : tree.locate config = .error .nameTooLong →
    HandlesObstacle tree places lookUp config (.file .nameTooLong)
  | plugins {root : Path} {fault : Fault} : tree.rootOf? config = some root →
    tree.plugins root = .error fault → HandlesObstacle tree places lookUp config fault
  /-- A path at which the class of a module may be. -/
  | module {key : Key} {name : String} {p : Path} : lookUp = true →
    (key, .text name) ∈ tree.modules config → name.contains '\\' = false →
    p ∈ places.candidates (Source.ClassName.bare name) → tree.locate p = .error .nameTooLong →
    HandlesObstacle tree places lookUp config (.file .nameTooLong)
  /-- The key of a module. -/
  | key {key : Key} {definition : Value} {fault : Source.Fault} :
    (key, definition) ∈ tree.modules config → handleOf key = .error fault →
    HandlesObstacle tree places lookUp config (.source fault)

/-- The class of a module is told unless a file that may declare it has a path that is too long. -/
lemma moduleClass?_ends (hP : ∀ d, d.StandsIn tree → P d) (lookUp : Bool) {definition : Value}
    (hF : ∀ name, definition = .text name → lookUp = true → name.contains '\\' = false →
      ∀ p ∈ places.candidates (Source.ClassName.bare name),
        tree.locate p = .error .nameTooLong → F (.file .nameTooLong)) :
    Ends tree (Knows places P) (moduleClass? lookUp definition) (fun _ => True) F := by
  cases definition with
  | text name =>
    rw [moduleClass?]
    split
    · exact .pure trivial
    · split
      · exact .pure trivial
      · next hname =>
        split
        · next hlookUp =>
          have short := hF name rfl hlookUp (by simpa using hname)
          exact (findClass_ends hP short).bind fun _ _ => .pure trivial
        · exact .pure trivial
  | _ => exact .pure trivial

/-- Modules are added one by one; if there are none, the map stays as it is. -/
lemma addModules_ends (hP : ∀ d, d.StandsIn tree → P d) (lookUp : Bool) (handles : HandleMap)
    {definitions : List (Key × Value)}
    (hF : ∀ key name, (key, .text name) ∈ definitions → lookUp = true →
      name.contains '\\' = false → ∀ p ∈ places.candidates (Source.ClassName.bare name),
        tree.locate p = .error .nameTooLong → F (.file .nameTooLong))
    (hkey : ∀ key v fault, (key, v) ∈ definitions → handleOf key = .error fault →
      F (.source fault)) :
    Ends tree (Knows places P) (addModules lookUp handles definitions)
      (fun modules => definitions = [] → modules = handles) F := by
  induction definitions generalizing handles with
  | nil => exact .pure fun _ => rfl
  | cons entry rest ih =>
    obtain ⟨key, definition⟩ := entry
    have goOn (handles : HandleMap) : Ends tree (Knows places P) (addModules lookUp handles rest)
        (fun modules => (key, definition) :: rest = [] → modules = handles) F := by
      refine (ih handles (fun key name h => hF key name (List.mem_cons_of_mem _ h))
        fun key v fault h => hkey key v fault (List.mem_cons_of_mem _ h)).imp ?_ fun _ h => h
      exact fun _ _ h => nomatch h
    refine (moduleClass?_ends hP lookUp fun name h => ?_).bind fun className? _ => ?_
    · subst h
      exact hF key name List.mem_cons_self
    · cases className? with
      | none => exact (Ends.note _).bind fun _ _ => goOn handles
      | some className =>
        dsimp only
        cases hhandle : handleOf key with
        | error fault => exact .throw (hkey key definition fault List.mem_cons_self hhandle)
        | ok handle =>
          refine (goOn (handles.insert handle (controllerNamespace className))).imp ?_ fun _ h => h
          exact fun _ _ h => nomatch h

/-- The handles of a project are read, unless there is an obstacle.  If the configuration lists no
modules and the registry no plugins, nothing is added to what is asked for. -/
lemma resolveHandles_ends (hP : ∀ d, d.StandsIn tree → P d) (config : Path)
    (overrides : HandleMap) (lookUp : Bool) (core : String) :
    Ends tree (Knows places P) (resolveHandles config overrides lookUp core)
      (fun handles => tree.modules config = [] →
        (∀ root, tree.rootOf? config = some root → tree.plugins root = .ok []) →
        handles.map = HandleMap.override [(coreHandle, core)] overrides)
      (HandlesObstacle tree places lookUp config) := by
  refine (projectRoot_ends HandlesObstacle.config).bind fun root? hroot => ?_
  cases root? with
  | none =>
    exact (Ends.note _).bind fun _ _ => .pure fun _ _ => rfl
  | some root =>
    refine (loadConfig_ends config).bind ?_
    rintro v rfl
    have hmodules : tree.modules config =
        definitions ((tree.configuration config).toOption.getD .null) := by
      rw [FileTree.modules, ← hroot]
      cases tree.configuration config with
      | ok v => rfl
      | error cause => rfl
    rw [← hmodules]
    refine (addModules_ends hP lookUp _ (fun key name h hlookUp hname p hp long => ?_)
      fun key v fault h hhandle => ?_).bind fun modules hnone => ?_
    · exact .module hlookUp h hname hp long
    · exact .key h hhandle
    · have plugins : Tells tree (loadPlugins root) (tree.plugins root) := loadPlugins_tells root
      have read := (plugins (Knows places P)).imp
        (G := HandlesObstacle tree places lookUp config) (fun _ h => h)
        fun fault h => .plugins hroot.symm h
      refine read.bind fun plugins hplugins => .pure fun hempty hnoPlugins => ?_
      have := hnoPlugins root hroot.symm
      rw [hplugins] at this
      cases this
      rw [hnone hempty]
      rfl

end Audit
end RouteAudit
