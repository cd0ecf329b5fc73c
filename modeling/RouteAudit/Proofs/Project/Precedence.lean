import RouteAudit.Proofs.Project.Assembly

/-!
# Which source a handle is from

A handle has the namespace that the user asks for, or else that of the last plugin with this handle,
or else that of the module with this key, or else that of the core framework if it is the empty one
(`resolveHandles_precedence`).  What cannot be resolved counts for nothing.
-/

namespace RouteAudit
open Source (Value Key)

namespace Audit
open HandleMap

variable {tree : FileTree} {lookUp : Bool} {s s' : Session} {definition : Value}

/-- The definition of a module names a class: by a name in a namespace, by that of a class that is
found, or in its description. -/
inductive NamesClass (tree : FileTree) (lookUp : Bool) (s : Session) : Value → String → Prop
  | spaced {name : String} : '\\' ∈ name.toList → NamesClass tree lookUp s (.text name) name
  | found {name : String} {d : Source.Declaration} {s' : Session} : lookUp = true → name ≠ "" →
    findClass name tree s = .ok (some d) s' → NamesClass tree lookUp s (.text name) name
  | described {description : Value} {className : String} :
    description.get? "class" = some (.text className) →
    NamesClass tree lookUp s description className

/-- A text names the class that it is, with a backslash or where the class is found. -/
lemma namesClass_text {name className : String} :
    NamesClass tree lookUp s (.text name) className ↔
      className = name ∧ ('\\' ∈ name.toList ∨ lookUp = true ∧ name ≠ "" ∧
        ∃ d s', findClass name tree s = .ok (some d) s') := by
  constructor
  · intro h
    cases h with
    | spaced h => exact ⟨rfl, .inl h⟩
    | found hlookUp hname hfound => exact ⟨rfl, .inr ⟨hlookUp, hname, _, _, hfound⟩⟩
    | described h => cases h
  · rintro ⟨rfl, h | ⟨hlookUp, hname, d, s', hfound⟩⟩
    · exact .spaced h
    · exact .found hlookUp hname hfound

/-- Any other definition names the class that stands in it. -/
lemma namesClass_described {className : String} (h : ∀ name, definition ≠ .text name) :
    NamesClass tree lookUp s definition className ↔
      (definition.get? "class").bind Value.text? = some className := by
  constructor
  · intro names
    cases names with
    | spaced => exact absurd rfl (h _)
    | found => exact absurd rfl (h _)
    | described hclass =>
      rw [hclass]
      rfl
  · intro hclass
    obtain ⟨v, hentry, htext⟩ := Option.bind_eq_some_iff.1 hclass
    cases v <;> cases htext
    exact .described hentry

/-- What a definition is taken for is the class that it names. -/
lemma moduleClass?_names {class? : Option String}
    (run : moduleClass? lookUp definition tree s = .ok class? s') (className : String) :
    NamesClass tree lookUp s definition className ↔ class? = some className := by
  cases definition with
  | text name =>
    rw [namesClass_text]
    rw [moduleClass?, String.contains_char_eq] at run
    by_cases hname : name = ""
    · subst hname
      cases run
      simp
    · rw [if_neg (by simpa using hname)] at run
      by_cases hspaced : '\\' ∈ name.toList
      · rw [if_pos (by simpa using hspaced)] at run
        cases run
        simp [hspaced, eq_comm]
      · rw [if_neg (by simpa using hspaced)] at run
        cases lookUp with
        | false =>
          cases run
          simp [hspaced]
        | true =>
          rw [if_pos rfl, run_bind] at run
          cases hfind : findClass name tree s with
          | error fault s₁ =>
            rw [hfind] at run
            cases run
          | ok found s₁ =>
            rw [hfind] at run
            cases run
            cases found with
            | none => simp [hspaced]
            | some d => simp [hspaced, hname, eq_comm]
  | _ =>
    cases run
    exact namesClass_described fun name h => by cases h

/-- The modules that name a class, with their handles.  Each definition is looked at with the
classes that are known by then. -/
inductive Resolves (tree : FileTree) (lookUp : Bool) :
    Session → List (Key × Value) → List (String × String) → Prop
  | nil {s : Session} : Resolves tree lookUp s [] []
  | resolved {s s' : Session} {key : Key} {definition : Value} {className : String}
    {rest : List (Key × Value)} {found : List (String × String)} :
    NamesClass tree lookUp s definition className →
    moduleClass? lookUp definition tree s = .ok (some className) s' →
    Resolves tree lookUp s' rest found →
    Resolves tree lookUp s ((key, definition) :: rest) ((key.written, className) :: found)
  | skipped {s s' : Session} {key : Key} {definition : Value} {rest : List (Key × Value)}
    {found : List (String × String)} :
    (∀ className, ¬NamesClass tree lookUp s definition className) →
    moduleClass? lookUp definition tree s = .ok none s' →
    Resolves tree lookUp { s' with notes := s'.notes ++ [.moduleSkipped key] } rest found →
    Resolves tree lookUp s ((key, definition) :: rest) found

/-- Without a search for classes, those are found that definitions name by themselves. -/
lemma Resolves.eq_named {entries : List (Key × Value)} {found : List (String × String)}
    (h : Resolves tree false s entries found) :
    found = (named entries).map fun entry => (entry.1.written, entry.2) := by
  have names {s : Session} {definition : Value} {className : String} :
      NamesClass tree false s definition className ↔ named? definition = some className := by
    cases definition with
    | text name =>
      rw [namesClass_text, named?]
      by_cases hspaced : '\\' ∈ name.toList <;> simp [hspaced, eq_comm]
    | _ => exact namesClass_described fun name h => by cases h
  induction h with
  | nil => rfl
  | resolved hnames _ _ ih =>
    rw [named_cons_some (names.1 hnames), List.map_cons, ih]
  | skipped hnames _ _ ih =>
    rw [named_cons_none (Option.eq_none_iff_forall_ne_some.2 fun c hc => hnames c (names.2 hc)), ih]

/-- Every handle is the key of a definition. -/
lemma Resolves.sublist {entries : List (Key × Value)} {found : List (String × String)}
    (h : Resolves tree lookUp s entries found) :
    (Assoc.keys found).Sublist (entries.map fun entry => entry.1.written) := by
  induction h with
  | nil => exact .slnil
  | resolved _ _ _ ih => exact ih.cons_cons _
  | skipped _ _ _ ih => exact ih.cons _

/-- The modules that are added are those that name a class. -/
lemma addModules_resolves {entries : List (Key × Value)} {handles modules : HandleMap}
    (run : addModules lookUp handles entries tree s = .ok modules s') :
    ∃ found, Resolves tree lookUp s entries found ∧ modules = handles.addClasses found := by
  induction entries generalizing handles s with
  | nil =>
    cases run
    exact ⟨[], .nil, rfl⟩
  | cons entry rest ih =>
    obtain ⟨key, definition⟩ := entry
    rw [addModules, run_bind] at run
    cases hclass : moduleClass? lookUp definition tree s with
    | error fault s₁ =>
      rw [hclass] at run
      cases run
    | ok class? s₁ =>
      have names := moduleClass?_names hclass
      rw [hclass] at run
      cases class? with
      | none =>
        obtain ⟨found, resolves, rfl⟩ := ih run
        refine ⟨found, .skipped (fun className hnames => ?_) hclass resolves, rfl⟩
        cases (names className).1 hnames
      | some className =>
        dsimp only at run
        cases hhandle : handleOf key with
        | error fault =>
          rw [hhandle] at run
          cases run
        | ok handle =>
          rw [hhandle] at run
          obtain ⟨found, resolves, rfl⟩ := ih run
          obtain rfl := handleOf_eq hhandle
          exact ⟨_, .resolved ((names className).2 rfl) hclass resolves, rfl⟩

/-! ## Precedence -/

/-- The namespace that some classes give a handle comes before the one in a map. -/
lemma get?_addClasses (handles : HandleMap) (classes : List (String × String)) (h : String) :
    Assoc.get? (handles.addClasses classes) h =
      ((Assoc.latest? classes h).map controllerNamespace).or (Assoc.get? handles h) :=
  Assoc.get?_foldl_insert controllerNamespace classes handles h

/-- An override counts before what was there. -/
lemma get?_override (handles : HandleMap) (spaces : List (String × String)) (h : String) :
    Assoc.get? (handles.override spaces) h =
      (Assoc.latest? spaces h).or (Assoc.get? handles h) := by
  have := Assoc.get?_foldl_insert id spaces handles h
  rwa [Option.map_id] at this

/-- What the core framework gives a handle. -/
def coreSpace? (core h : String) : Option String :=
  if h = coreHandle then some core else none

/-- The core handle has the core namespace. -/
lemma get?_core (core h : String) : Assoc.get? [(coreHandle, core)] h = coreSpace? core h := by
  by_cases hh : h = coreHandle
  · simp [Assoc.get?, coreSpace?, hh]
  · simp [Assoc.get?, coreSpace?, hh, Ne.symm hh]

variable {config : Path} {overrides : HandleMap} {core : String} {handles : Handles}

/-- **Which source a handle is from.**  If there is no configuration, the handles are what the user
asks for, and the core handle.  Otherwise the last plugin with a handle comes next, and then the
module with the handle as its key, of which there is no more than one. -/
theorem resolveHandles_precedence
    (run : resolveHandles config overrides lookUp core tree s = .ok handles s') :
    (Assoc.get? handles.map coreHandle).isSome ∧
    (tree.rootOf? config = none → ∀ h, Assoc.get? handles.map h =
      (Assoc.latest? overrides h).or (coreSpace? core h)) ∧
    ∀ root, tree.rootOf? config = some root → ∃ plugins found s₀,
      tree.plugins root = .ok plugins ∧ s₀.classes = s.classes ∧
      Resolves tree lookUp s₀ (tree.modules config) found ∧ (Assoc.keys found).Nodup ∧
      ∀ h, Assoc.get? handles.map h =
        (Assoc.latest? overrides h).or
          (((Assoc.latest? plugins h).map controllerNamespace).or
            (((Assoc.get? found h).map controllerNamespace).or (coreSpace? core h))) := by
  obtain ⟨root?, s₁, hroot, run⟩ := run_bind_eq_ok run
  obtain ⟨hs₁, rfl⟩ := (projectRoot_ends (J := (· = s.classes)) (F := fun _ => True)
    fun _ => trivial).of_ok rfl hroot
  cases hroot? : tree.rootOf? config with
  | none =>
    rw [hroot?] at run
    cases run
    have tells (h : String) :
        Assoc.get? (HandleMap.override [(coreHandle, core)] overrides) h =
          (Assoc.latest? overrides h).or (coreSpace? core h) := by
      rw [get?_override, get?_core]
    refine ⟨?_, fun _ => tells, nofun⟩
    rw [tells]
    cases Assoc.latest? overrides coreHandle <;> rfl
  | some root =>
    rw [hroot?] at run
    obtain ⟨v, s₂, hconfig, run⟩ := run_bind_eq_ok run
    obtain ⟨hs₂, rfl⟩ := (loadConfig_ends (J := (· = s.classes)) (F := fun _ => True)
      config).of_ok hs₁ hconfig
    obtain ⟨modules, s₃, hmodules, run⟩ := run_bind_eq_ok run
    obtain ⟨plugins, s₄, hplugins, run⟩ := run_bind_eq_ok run
    obtain ⟨-, told⟩ := (loadPlugins_tells root fun _ => True).of_ok trivial hplugins
    obtain ⟨found, resolves, rfl⟩ := addModules_resolves hmodules
    cases run
    rw [← FileTree.modules_eq hroot?] at resolves
    have nodup : (Assoc.keys found).Nodup := (tree.nodup_modules config).sublist resolves.sublist
    have tells (h : String) :
        Assoc.get? (((HandleMap.addClasses [(coreHandle, core)] found).addClasses
          plugins).override overrides) h =
          (Assoc.latest? overrides h).or
            (((Assoc.latest? plugins h).map controllerNamespace).or
              (((Assoc.get? found h).map controllerNamespace).or (coreSpace? core h))) := by
      rw [get?_override, get?_addClasses, get?_addClasses, get?_core, Assoc.latest?_of_nodup nodup]
    refine ⟨?_, nofun, ?_⟩
    · rw [tells]
      cases Assoc.latest? overrides coreHandle with
      | some space => rfl
      | none =>
        cases Assoc.latest? plugins coreHandle with
        | some className => rfl
        | none => cases Assoc.get? found coreHandle <;> rfl
    · intro root' hroot'
      cases hroot'
      exact ⟨plugins, found, s₂, told, hs₂, resolves, nodup, tells⟩

open Source.Grammar

/-- Three modules, of which one has the handle of a plugin, and the last names no class. -/
def sampleModules : Phrase :=
  arrayOf [(modulesName, arrayOf [shopModule,
    (blogName, quoted "a\\Blog" (by decide) (by decide)),
    (quoted "bare" (by decide) (by decide), quoted "Bare" (by decide) (by decide))])]

/-- The tree of the modules and the plugin. -/
def precedenceTree : FileTree :=
  writtenProject sampleModules (sampleRegistry [])

/-- The modules of the sample. -/
lemma modules_precedenceTree : precedenceTree.modules configPath =
    [(.text "shop", .text "a\\Shop"), (.text "blog", .text "a\\Blog"),
      (.text "bare", .text "Bare")] := by
  have value : precedenceTree.configuration configPath = .ok (.keyed [(.text "modules", .keyed
      [(.text "shop", .text "a\\Shop"), (.text "blog", .text "a\\Blog"),
        (.text "bare", .text "Bare")])]) :=
    configuration_writtenProject (by decide +kernel) rfl
  have root : precedenceTree.rootOf? configPath = some topRoot := rootOf?_projectOf _ _
  rw [FileTree.modules_eq root, value]
  rfl

/-- The plugins of the sample. -/
lemma plugins_precedenceTree :
    precedenceTree.plugins topRoot = .ok [("blog", "b\\Blog")] := by
  have value : precedenceTree.optionalReturn (topRoot.join registryFile) =
      .ok (some (registryValue [])) :=
    optionalReturn_writtenProject (by decide +kernel) rfl
  rw [FileTree.plugins, value]
  rfl

/-- The core handle is overridden, one module comes before, the other behind a plugin, and the third
is left out. -/
theorem resolveHandles_precedence_sample :
    ∃ handles s', resolveHandles configPath [("", "own")] false coreNamespace precedenceTree {} =
        .ok handles s' ∧
      Assoc.get? handles.map "" = some "own" ∧
      Assoc.get? handles.map "shop" = some "a\\controllers" ∧
      Assoc.get? handles.map "blog" = some "b\\controllers" ∧
      Assoc.get? handles.map "bare" = none := by
  have root : precedenceTree.rootOf? configPath = some topRoot := rootOf?_projectOf _ _
  obtain ⟨s', run⟩ := resolveHandles_answers root [("", "own")] coreNamespace {}
  rw [modules_precedenceTree, plugins_precedenceTree] at run
  obtain ⟨-, -, sources⟩ := resolveHandles_precedence run
  obtain ⟨plugins, found, s₀, hplugins, -, resolves, -, tells⟩ := sources topRoot root
  rw [plugins_precedenceTree] at hplugins
  cases hplugins
  -- the first two modules name classes, and the last does not
  have hfound : found = [("shop", "a\\Shop"), ("blog", "a\\Blog")] := by
    rw [resolves.eq_named, modules_precedenceTree]
    rfl
  subst hfound
  exact ⟨_, s', run, tells "", tells "shop", tells "blog", tells "bare"⟩

end Audit

end RouteAudit
