import RouteAudit.Proofs.Json.Distinct
import RouteAudit.Proofs.Project.Reading
import RouteAudit.Proofs.Source.Grammar.Row
import RouteAudit.Proofs.Text.Ascii

/-!
# How handles are put together

The modules in a configuration have different keys.  If no classes are looked up, the handles of a
project are put together from what its files hold, and nothing else counts
(`Audit.resolveHandles_answers`).
-/

namespace RouteAudit
open Source (Value Key)

/-- What is found in a distinct value is distinct. -/
lemma Source.Value.Distinct.get? {v w : Value} (h : v.Distinct) {name : String}
    (hw : v.get? name = some w) : w.Distinct := by
  cases v with
  | keyed entries => exact (Value.distinct_keyed_iff.1 h).2 _ (Assoc.mem_of_get? hw)
  | _ => cases hw

namespace FileTree

variable {tree : FileTree} {path : Path} {v : Value}

/-- A value that a script returns is distinct. -/
lemma readReturn_distinct (h : tree.readReturn path = .ok v) : v.Distinct := by
  rw [readReturn] at h
  split at h
  · cases h
  · split at h
    · next hv =>
      cases h
      exact Source.Script.evaluate_distinct hv
    · cases h

/-- A document that is read is distinct. -/
lemma readJson_distinct {j : Json} (h : tree.readJson path = .ok j) : j.Distinct := by
  rw [readJson] at h
  split at h
  · cases h
  · split at h
    · next hj =>
      cases h
      obtain ⟨cs, -, hparse⟩ := Option.bind_eq_some_iff.1 hj
      exact Json.parse?_distinct hparse
    · cases h

/-- The arrays in a configuration have different keys. -/
lemma configuration_distinct (h : tree.configuration path = .ok v) : v.Distinct := by
  rw [configuration] at h
  split at h
  · cases hj : tree.readJson path with
    | error cause =>
      rw [hj] at h
      cases h
    | ok j =>
      rw [hj] at h
      cases h
      exact readJson_distinct hj
  · exact readReturn_distinct h

/-- The modules of a project are those that its configuration defines. -/
lemma modules_eq {root : Path} (hroot : tree.rootOf? path = some root) :
    tree.modules path =
      HandleMap.definitions ((tree.configuration path).toOption.getD .null) := by
  rw [modules, hroot]
  cases tree.configuration path <;> rfl

/-- A value that a script may return is distinct. -/
lemma optionalReturn_distinct (h : tree.optionalReturn path = .ok (some v)) : v.Distinct := by
  rw [optionalReturn] at h
  split at h
  · cases h
  · split at h <;> cases h
    next hv => exact readReturn_distinct hv

end FileTree

namespace HandleMap

/-! ## The definitions of modules -/

/-- Definitions in a distinct value have different keys. -/
lemma nodup_definitionsIn {v : Value} (h : v.Distinct) :
    ((definitionsIn v).map fun entry => entry.1.written).Nodup := by
  cases v with
  | keyed entries => exact (Value.distinct_keyed_iff.1 h).1
  | list items =>
    have positions : ((definitionsIn (.list items)).map fun entry => entry.1.written) =
        (items.zipIdx.map Prod.snd).map Nat.repr := by
      rw [definitionsIn, List.map_map, List.map_map]
      rfl
    rw [positions, List.zipIdx_map_snd]
    exact (List.nodup_range' (s := 0)).map fun _ _ h => Nat.repr_injective h
  | _ => exact List.nodup_nil

/-- The definitions in a configuration have keys that are written differently. -/
lemma nodup_definitions {v : Value} (h : v.Distinct) :
    ((definitions v).map fun entry => entry.1.written).Nodup := by
  rw [definitions]
  split
  · next modules hmodules =>
    rw [sharedModules?] at hmodules
    split at hmodules
    · cases hmodules
    · obtain ⟨shared, hshared, hmodules⟩ := Option.bind_eq_some_iff.1 hmodules
      exact nodup_definitionsIn ((h.get? hshared).get? hmodules)
  · cases hmodules : v.get? "modules" with
    | none => exact List.nodup_nil
    | some modules => exact nodup_definitionsIn (h.get? hmodules)

end HandleMap

/-- The modules of a project have keys that are written differently. -/
lemma FileTree.nodup_modules (tree : FileTree) (config : Path) :
    ((tree.modules config).map fun entry => entry.1.written).Nodup := by
  rw [modules]
  split
  · next hv => exact HandleMap.nodup_definitions (configuration_distinct hv)
  · exact List.nodup_nil

namespace HandleMap

/-- A key is taken for a handle as it is written. -/
lemma handleOf_eq {key : Key} {handle : String} (h : handleOf key = .ok handle) :
    handle = key.written := by
  cases key with
  | index n =>
    rw [handleOf, Source.decimalText] at h
    split at h <;> cases h
    rfl
  | text s =>
    cases h
    rfl

/-! ## Handles without a search for classes -/

/-- The class that the definition of a module names by itself. -/
def named? : Value → Option String
  | .text name => if '\\' ∈ name.toList then some name else none
  | definition => (definition.get? "class").bind Value.text?

/-- The classes that the definitions of modules name by themselves. -/
def named (entries : List (Key × Value)) : List (Key × String) :=
  entries.filterMap fun (key, definition) => (named? definition).map (key, ·)

/-- A definition that names no class is passed over. -/
lemma named_cons_none {key : Key} {definition : Value} (h : named? definition = none)
    (rest : List (Key × Value)) : named ((key, definition) :: rest) = named rest := by
  simp [named, h]

/-- A definition that names a class has it. -/
lemma named_cons_some {key : Key} {definition : Value} {className : String}
    (h : named? definition = some className) (rest : List (Key × Value)) :
    named ((key, definition) :: rest) = (key, className) :: named rest := by
  simp [named, h]

/-- The map with the modules of the given classes, unless a key cannot be written. -/
def addNamed (handles : HandleMap) : List (Key × String) → Except Fault HandleMap
  | [] => .ok handles
  | (key, className) :: rest =>
    match handleOf key with
    | .error fault => .error (.source fault)
    | .ok handle => addNamed (handles.insert handle (controllerNamespace className)) rest

/-- The handles of a project, from the classes that its modules and its plugins name. -/
def assemble (core : String) (overrides : HandleMap) (modules : List (Key × String))
    (plugins : Except Fault (List (String × String))) : Except Fault HandleMap := do
  let handles ← addNamed [(coreHandle, core)] modules
  return (handles.addClasses (← plugins)).override overrides

end HandleMap

namespace Audit
open HandleMap

variable {tree : FileTree} {config root : Path}

/-- Without a look-up a definition has the class that it names. -/
lemma moduleClass?_false (definition : Value) :
    moduleClass? false definition = return named? definition := by
  cases definition with
  | text name =>
    rw [moduleClass?, named?, String.contains_char_eq]
    by_cases hname : name = ""
    · subst hname
      rfl
    · by_cases hspaced : '\\' ∈ name.toList <;> simp [hname, hspaced]
  | _ => rfl

/-- Without a look-up the modules are those that are named. -/
lemma addModules_answers (handles : HandleMap) (entries : List (Key × Value)) :
    Answers tree (addModules false handles entries) (addNamed handles (named entries)) := by
  induction entries generalizing handles with
  | nil => exact .pure handles
  | cons entry rest ih =>
    obtain ⟨key, definition⟩ := entry
    rw [addModules, moduleClass?_false]
    refine (Answers.pure (named? definition)).ok_bind ?_
    cases hnamed : named? definition with
    | none =>
      rw [named_cons_none hnamed]
      exact (Answers.note _).ok_bind (ih handles)
    | some className =>
      rw [named_cons_some hnamed, addNamed]
      dsimp only
      cases handleOf key with
      | error fault => exact .throw _
      | ok handle => exact ih _

/-- Where there is a root, it is found. -/
lemma projectRoot_answers (h : tree.rootOf? config = some root) :
    Answers tree (projectRoot config) (.ok (some root)) := by
  rw [FileTree.rootOf?] at h
  split at h
  · next hfile =>
    cases h
    have isFile : Answers tree (ofAccess (tree.isFile config)) (.ok true) := by
      rw [hfile]
      exact .pure true
    exact Answers.read.ok_bind (isFile.ok_bind (.pure _))
  · cases h

/-- Without a search for classes, the handles of a project are assembled from what its files
hold. -/
lemma resolveHandles_answers (hroot : tree.rootOf? config = some root) (overrides : HandleMap)
    (core : String) :
    Answers tree (resolveHandles config overrides false core)
      ((assemble core overrides (named (tree.modules config)) (tree.plugins root)).map
        fun map => { map, root := some root }) := by
  have load : Answers tree (loadConfig config)
      (.ok ((tree.configuration config).toOption.getD .null)) :=
    Ends.answers ((loadConfig_ends (F := fun _ => False) config).imp (fun _ h => h ▸ rfl) nofun)
  have plugins : Answers tree (loadPlugins root) (tree.plugins root) :=
    Ends.answers (loadPlugins_tells root _)
  have modules : Answers tree (addModules false [(coreHandle, core)] (tree.modules config))
      (addNamed [(coreHandle, core)] (named (tree.modules config))) :=
    addModules_answers _ _
  rw [FileTree.modules_eq hroot] at modules ⊢
  refine (projectRoot_answers hroot).ok_bind (load.ok_bind ?_)
  rw [assemble]
  generalize addNamed [(coreHandle, core)] (named (definitions
    ((tree.configuration config).toOption.getD .null))) = added at modules ⊢
  cases added with
  | error fault => exact modules.error_bind _
  | ok handles =>
    refine modules.ok_bind ?_
    generalize tree.plugins root = told at plugins ⊢
    cases told with
    | error fault => exact plugins.error_bind _
    | ok pairs => exact plugins.ok_bind (.pure _)

end Audit

/-! ## Projects that are written out -/

namespace Audit
open HandleMap Source.Grammar Source.Token

/-- A script that returns an expression of the grammar. -/
def script (p : Phrase) : List Char :=
  render (returnTokens returnKeyword p.tokens)

/-- Whether a source can be stored as it is. -/
def isPlain (cs : List Char) : Bool :=
  cs.all fun c => c.toNat < 0x80 && c != '\r'

/-- A file that returns an expression of the grammar holds its value. -/
lemma readReturn_script {tree : FileTree} {path : Path} {p : Phrase} {v : Value}
    (hread : tree.read path = .ok (Text.ascii (script p))) (plain : isPlain (script p) = true)
    (hv : p.expr.eval { file := some (tree.workingDirectory.join path) } = .ok v) :
    tree.readReturn path = .ok v := by
  have stand : AllStand (returnTokens returnKeyword p.tokens) := by
    simp [returnTokens, p.allStand, operators]
  have value : Source.Script.evaluate tree.workingDirectory (some path) (script p) = .ok v := by
    rw [script, evaluate_returning (scan_render stand), p.separate.1]
    exact hv
  have ascii : ∀ c ∈ script p, c.toNat < 0x80 ∧ c ≠ '\r' := by
    simpa [isPlain] using plain
  rw [FileTree.readReturn, hread]
  dsimp only
  rw [sourceText_ascii ascii, value]

/-- A project with a configuration and a registry of plugins. -/
def projectOf (config registry : List UInt8) : FileTree :=
  { entries := [(["config"], .directory), (["config", "app.php"], .file config),
      (["vendor"], .directory), (["vendor", "craftcms"], .directory),
      (["vendor", "craftcms", "plugins.php"], .file registry)] }

/-- Where the configuration stands. -/
def configPath : Path :=
  Path.ofString "config/app.php"

/-- The root of a project in the working directory. -/
def topRoot : Path :=
  { slashes := 1 }

/-- The root of the project is the root of the tree. -/
lemma rootOf?_projectOf (config registry : List UInt8) :
    (projectOf config registry).rootOf? configPath = some topRoot := by
  cbv

/-- A project whose configuration and registry return expressions of the grammar. -/
def writtenProject (config registry : Phrase) : FileTree :=
  projectOf (Text.ascii (script config)) (Text.ascii (script registry))

variable {config registry : Phrase} {v : Value}

/-- The configuration has the value of its expression. -/
lemma configuration_writtenProject (plain : isPlain (script config) = true)
    (hv : config.expr.eval { file := some (topRoot.join configPath) } = .ok v) :
    (writtenProject config registry).configuration configPath = .ok v := by
  have hread {config registry : List UInt8} :
      (projectOf config registry).read configPath = .ok config := by
    cbv
  rw [FileTree.configuration, if_neg (by decide)]
  exact readReturn_script hread plain hv

/-- The registry has the value of its expression. -/
lemma optionalReturn_writtenProject (plain : isPlain (script registry) = true)
    (hv : registry.expr.eval { file := some (topRoot.join registryFile) } = .ok v) :
    (writtenProject config registry).optionalReturn (topRoot.join registryFile) =
      .ok (some v) := by
  have hread {config registry : List UInt8} :
      (projectOf config registry).read (topRoot.join registryFile) = .ok registry := by
    cbv
  have hfile {config registry : List UInt8} :
      (projectOf config registry).isFile (topRoot.join registryFile) = .ok true := by
    cbv
  rw [writtenProject, FileTree.optionalReturn_of_isFile hfile, readReturn_script hread plain hv]

/-- The text between quotes, as it is written. -/
def quoted (value : String)
    (stands : Source.Lexer.Stands .string ("\x27" ++ value ++ "\x27").toList)
    (reads : Source.Token.stringValue? ⟨.string, "\x27" ++ value ++ "\x27", 0⟩ = some value) :
    Phrase :=
  .operand (.atom (.string ⟨⟨_, stands⟩, value, reads⟩))

/-- An array of entries with keys. -/
def arrayOf (entries : List (Phrase × Phrase)) : Phrase :=
  .operand (.brackets (entries.foldr (fun entry rest => .more (.keyed entry.1 entry.2) rest) .done))

/-- The key of the modules. -/
def modulesName : Phrase :=
  quoted "modules" (by decide) (by decide)

/-- The name of a module. -/
def blogName : Phrase :=
  quoted "blog" (by decide) (by decide)

/-- A module with its class. -/
def shopModule : Phrase × Phrase :=
  (quoted "shop" (by decide) (by decide), quoted "a\\Shop" (by decide) (by decide))

/-- A registry of one plugin with further entries. -/
def sampleRegistry (further : List (Phrase × Phrase)) : Phrase :=
  arrayOf [(quoted "p" (by decide) (by decide), arrayOf (further ++
    [(quoted "handle" (by decide) (by decide), blogName),
      (quoted "class" (by decide) (by decide), quoted "b\\Blog" (by decide) (by decide))]))]

/-- The value of the registry. -/
def registryValue (further : List (Key × Value)) : Value :=
  .keyed [(.text "p", .keyed (further ++
    [(.text "handle", .text "blog"), (.text "class", .text "b\\Blog")]))]

end Audit

end RouteAudit
