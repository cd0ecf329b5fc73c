import RouteAudit.Proofs.Project.Assembly

/-!
# Unresolved entries are missing entries

Without a search for classes, the handles of a project do not change when each entry that is not
resolved is left out of the arrays in its configuration and its registry (`resolveHandles_prune`).
There is one exception: if the modules for all environments are not resolved, they take the place of
the other modules all the same, and these come back when the entry is left out.
-/

namespace RouteAudit
open Source (Value Key)

namespace Source.Value

mutual

/-- The value without the unresolved entries of the keyed arrays in it. -/
def prune : Value → Value
  | .list items => .list (pruneItems items)
  | .keyed entries => .keyed (pruneEntries entries)
  | v => v

/-- Values without the unresolved entries of the keyed arrays in them. -/
def pruneItems : List Value → List Value
  | [] => []
  | v :: items => v.prune :: pruneItems items

/-- The entries that are resolved, without the unresolved entries of the keyed arrays in them. -/
def pruneEntries : List (Key × Value) → List (Key × Value)
  | [] => []
  | (_, .unresolved) :: entries => pruneEntries entries
  | (key, v) :: entries => (key, v.prune) :: pruneEntries entries

end

/-- What is left of the value of an entry. -/
def kept? : Value → Option Value
  | .unresolved => none
  | v => some v.prune

/-- Items are pruned one by one. -/
lemma pruneItems_eq_map (items : List Value) : pruneItems items = items.map prune := by
  induction items with
  | nil => rfl
  | cons v items ih => rw [pruneItems, ih, List.map_cons]

/-- Entries are pruned one by one, and those that are not kept are left out. -/
lemma pruneEntries_eq_filterMap (entries : List (Key × Value)) :
    pruneEntries entries = entries.filterMap fun entry => entry.2.kept?.map (entry.1, ·) := by
  induction entries with
  | nil => rfl
  | cons entry entries ih =>
    obtain ⟨key, v⟩ := entry
    cases v <;> simp [pruneEntries, kept?, ih]

/-- The keys of a distinct value are different. -/
lemma nodup_keys {entries : List (Key × Value)} (h : (keyed entries).Distinct) :
    (Assoc.keys entries).Nodup := by
  have written : ((Assoc.keys entries).map Key.written).Nodup := by
    rw [Assoc.keys, List.map_map]
    exact (distinct_keyed_iff.1 h).1
  exact written.of_map Key.written

/-- An entry is found in a pruned value if it is resolved. -/
lemma get?_prune {v : Value} (h : v.Distinct) (name : String) :
    v.prune.get? name = (v.get? name).bind kept? := by
  cases v with
  | keyed entries =>
    rw [prune, get?, pruneEntries_eq_filterMap]
    exact Assoc.get?_filterMap kept? (nodup_keys h) (.text name)
  | _ => rfl

/-- The entries of a value that is kept are those that are kept of its entries. -/
lemma get?_kept? {v : Value} (h : v.Distinct) (name : String) :
    v.kept?.bind (·.get? name) = (v.get? name).bind kept? := by
  cases v with
  | unresolved => rfl
  | _ => exact get?_prune h name

/-- The texts among the entries stay as they are. -/
lemma text?_prune {v : Value} (h : v.Distinct) (name : String) :
    (v.prune.get? name).bind text? = (v.get? name).bind text? := by
  have text (w : Value) : w.kept?.bind text? = w.text? := by
    cases w <;> rfl
  rw [get?_prune h, Option.bind_assoc]
  simp only [text]

end Source.Value

namespace HandleMap
open Source.Value

/-- A pruned definition names the same class. -/
lemma named?_prune {definition : Value} (h : definition.Distinct) :
    named? definition.prune = named? definition := by
  cases definition with
  | text name => rfl
  | _ => exact text?_prune h "class"

/-- A pruned descriptor has the same plugin. -/
lemma plugin?_prune {descriptor : Value} (h : descriptor.Distinct) :
    plugin? descriptor.prune = plugin? descriptor := by
  have texts (v : Value) : plugin? v = ((v.get? "handle").bind text?).bind fun handle =>
      ((v.get? "class").bind text?).bind fun className => some (handle, className) := by
    simp only [Option.bind_assoc]
    rfl
  rw [texts, texts, text?_prune h, text?_prune h]

/-- What an unresolved entry gives is what a missing one gives. -/
lemma filterMap_pruneEntries {α : Type} {f : Key × Value → Option α} {entries : List (Key × Value)}
    (unresolved : ∀ key, f (key, .unresolved) = none)
    (prune : ∀ entry ∈ entries, f (entry.1, entry.2.prune) = f entry) :
    (pruneEntries entries).filterMap f = entries.filterMap f := by
  rw [pruneEntries_eq_filterMap, List.filterMap_filterMap]
  apply List.filterMap_congr
  rintro ⟨key, v⟩ hentry
  rw [Option.bind_map]
  cases v with
  | unresolved => exact (unresolved key).symm
  | _ => exact prune _ hentry

/-- Without unresolved entries the same classes are named. -/
lemma named_prune {v : Value} (h : v.Distinct) :
    named (definitionsIn v.prune) = named (definitionsIn v) := by
  cases v with
  | keyed entries =>
    refine filterMap_pruneEntries (fun _ => rfl) fun entry hentry => ?_
    simp only [named?_prune ((distinct_keyed_iff.1 h).2 entry hentry)]
  | list items =>
    rw [prune, pruneItems_eq_map, definitionsIn, List.zipIdx_map, definitionsIn, named, named,
      List.map_map, List.filterMap_map, List.filterMap_map]
    apply List.filterMap_congr
    rintro ⟨item, i⟩ hitem
    have hitem : item ∈ items := List.fst_mem_of_mem_zipIdx hitem
    simp only [Function.comp, Prod.map, named?_prune (distinct_list_iff.1 h item hitem), id]
  | _ => rfl

/-- Without unresolved entries the same plugins are listed. -/
lemma plugins_prune {v : Value} (h : v.Distinct) : plugins v.prune = plugins v := by
  cases v with
  | keyed entries =>
    refine filterMap_pruneEntries (fun _ => rfl) fun entry hentry => ?_
    exact plugin?_prune ((distinct_keyed_iff.1 h).2 entry hentry)
  | list items =>
    rw [prune, pruneItems_eq_map, plugins, plugins, List.filterMap_map]
    exact List.filterMap_congr fun item hitem =>
      plugin?_prune (distinct_list_iff.1 h item hitem)
  | _ => rfl

/-- The modules for all environments, if there are any. -/
def shared? (config : Value) : Option Value :=
  (config.get? "*").bind (·.get? "modules")

/-- The modules for all environments are not resolved, and hide those of the top level. -/
def Hidden (config : Value) : Prop :=
  shared? config = some .unresolved

/-- The classes that the modules of the top level name. -/
def topNamed (config : Value) : List (Key × String) :=
  named (definitionsIn ((config.get? "modules").getD .null))

/-- The shared part of a pruned configuration is the pruned shared part. -/
lemma shared?_prune {config : Value} (h : config.Distinct) :
    shared? config.prune = (shared? config).bind kept? := by
  rw [shared?, shared?, get?_prune h]
  cases hshared : config.get? "*" with
  | none => rfl
  | some shared => exact get?_kept? (h.get? hshared) "modules"

/-- A pruned configuration names the same modules at its top. -/
lemma topNamed_prune {config : Value} (h : config.Distinct) :
    topNamed config.prune = topNamed config := by
  rw [topNamed, topNamed, get?_prune h]
  cases hmodules : config.get? "modules" with
  | none => rfl
  | some modules =>
    have modulesDistinct := h.get? hmodules
    cases modules with
    | unresolved => rfl
    | _ => exact named_prune modulesDistinct

/-- The modules for all environments come before those of the top level, if they are set. -/
lemma named_definitions (config : Value) :
    named (definitions config) =
      match shared? config with
      | none | some .null => topNamed config
      | some modules => named (definitionsIn modules) := by
  rw [definitions, sharedModules?, ← shared?]
  cases shared? config with
  | none => rfl
  | some modules => cases modules <;> rfl

/-- Where they are resolved, the same classes are named without unresolved entries. -/
lemma named_definitions_prune {config : Value} (h : config.Distinct) (hidden : ¬Hidden config) :
    named (definitions config.prune) = named (definitions config) := by
  rw [named_definitions, named_definitions, shared?_prune h, topNamed_prune h]
  cases hshared : shared? config with
  | none => rfl
  | some modules =>
    have modulesDistinct : modules.Distinct := by
      obtain ⟨shared, hentry, hmodules⟩ := Option.bind_eq_some_iff.1 hshared
      exact (h.get? hentry).get? hmodules
    cases modules with
    | unresolved => exact absurd hshared hidden
    | null => rfl
    | list items => exact named_prune modulesDistinct
    | keyed entries => exact named_prune modulesDistinct
    | _ => rfl

/-- Where they are not resolved, they name no classes, and those of the top level come back. -/
lemma named_definitions_hidden {config : Value} (h : config.Distinct) (hidden : Hidden config) :
    named (definitions config) = [] ∧ named (definitions config.prune) = topNamed config := by
  have hshared : shared? config = some .unresolved := hidden
  rw [named_definitions, named_definitions, shared?_prune h, topNamed_prune h, hshared]
  exact ⟨rfl, rfl⟩

end HandleMap

namespace Audit
open HandleMap Source.Value

variable {tree pruned : FileTree} {config config' root root' : Path} {v : Value}
  {registry : Option Value}

/-- **Unresolved entries are missing entries.**  Of two projects, let the second hold what is left
of the values of the first without their unresolved entries.  Then both have the same handles,
unless the modules for all environments are not resolved.  If these are not, the first project has
no modules, and the second has those of the top level. -/
theorem resolveHandles_prune (hroot : tree.rootOf? config = some root)
    (hroot' : pruned.rootOf? config' = some root')
    (hv : tree.configuration config = .ok v) (hv' : pruned.configuration config' = .ok v.prune)
    (hr : tree.optionalReturn (root.join registryFile) = .ok registry)
    (hr' : pruned.optionalReturn (root'.join registryFile) = .ok (registry.map prune))
    (overrides : HandleMap) (core : String) :
    (¬Hidden v → ∃ answer : Except Fault HandleMap,
      Answers tree (resolveHandles config overrides false core)
        (answer.map ({ map := ·, root := some root })) ∧
      Answers pruned (resolveHandles config' overrides false core)
        (answer.map ({ map := ·, root := some root' }))) ∧
    (Hidden v →
      let handles (modules : List (Key × String)) :=
        assemble core overrides modules (.ok ((registry.map plugins).getD []))
      Answers tree (resolveHandles config overrides false core)
        ((handles []).map ({ map := ·, root := some root })) ∧
      Answers pruned (resolveHandles config' overrides false core)
        ((handles (topNamed v)).map ({ map := ·, root := some root' }))) := by
  have distinct : v.Distinct := FileTree.configuration_distinct hv
  have samePlugins : (registry.map prune).map plugins = registry.map plugins := by
    cases registry with
    | none => rfl
    | some r => exact congrArg some (plugins_prune (FileTree.optionalReturn_distinct hr))
  have answers := resolveHandles_answers hroot overrides core
  have answers' := resolveHandles_answers hroot' overrides core
  rw [FileTree.modules_eq hroot, FileTree.plugins, hv, hr] at answers
  rw [FileTree.modules_eq hroot', FileTree.plugins, hv', hr'] at answers'
  simp only [Except.toOption, Option.getD_some, Except.map, samePlugins] at answers answers'
  constructor
  · intro hidden
    rw [named_definitions_prune distinct hidden] at answers'
    exact ⟨_, answers, answers'⟩
  · intro hidden
    obtain ⟨none, top⟩ := named_definitions_hidden distinct hidden
    rw [none] at answers
    rw [top] at answers'
    exact ⟨answers, answers'⟩

open Source.Grammar

/-- A variable without a value. -/
def unassigned : Phrase :=
  .operand (.atom (.variable ⟨"$x", by decide⟩))

/-- A configuration with one module, and with further entries for all environments. -/
def sampleConfiguration (further : List (Phrase × Phrase)) : Phrase :=
  arrayOf [(quoted "*" (by decide) (by decide), arrayOf (further ++
      [(quoted "id" (by decide) (by decide), quoted "a" (by decide) (by decide))])),
    (modulesName, arrayOf [shopModule])]

/-- The value of the configuration. -/
def configurationValue (further : List (Key × Value)) : Value :=
  .keyed [(.text "*", .keyed (further ++ [(.text "id", .text "a")])),
    (.text "modules", .keyed [(.text "shop", .text "a\\Shop")])]

/-- A project whose configuration and plugin have further entries. -/
def sampleTreeOf (shared plugin : List (Phrase × Phrase)) : FileTree :=
  writtenProject (sampleConfiguration shared) (sampleRegistry plugin)

/-- An entry whose value is not known. -/
def unassignedNote : Phrase × Phrase :=
  (quoted "note" (by decide) (by decide), unassigned)

/-- Modules whose value is not known. -/
def unassignedModules : Phrase × Phrase :=
  (modulesName, unassigned)

/-- Entries that are not resolved are as good as missing, but for the modules for all
environments. -/
theorem resolveHandles_prune_sample :
    let handles (shared plugin : List (Phrase × Phrase)) :=
      Answers (sampleTreeOf shared plugin) (resolveHandles configPath [] false "core")
    (∃ answer, handles [unassignedNote] [unassignedNote] answer ∧ handles [] [] answer) ∧
    ∃ hidden plain, handles [unassignedModules] [] (.ok hidden) ∧ handles [] [] (.ok plain) ∧
      Assoc.get? hidden.map "shop" = none ∧
      Assoc.get? plain.map "shop" = some "a\\controllers" := by
  intro handles
  have root (shared plugin : List (Phrase × Phrase)) :
      (sampleTreeOf shared plugin).rootOf? configPath = some topRoot :=
    rootOf?_projectOf _ _
  have strict : (sampleTreeOf [] []).configuration configPath = .ok (configurationValue []) :=
    configuration_writtenProject (by decide +kernel) rfl
  have strictRegistry (shared : List (Phrase × Phrase)) :
      (sampleTreeOf shared []).optionalReturn (topRoot.join registryFile) =
        .ok (some (registryValue [])) :=
    optionalReturn_writtenProject (by decide +kernel) rfl
  constructor
  · have loose : (sampleTreeOf [unassignedNote] [unassignedNote]).configuration configPath =
        .ok (configurationValue [(.text "note", .unresolved)]) :=
      configuration_writtenProject (by decide +kernel) rfl
    have looseRegistry :
        (sampleTreeOf [unassignedNote] [unassignedNote]).optionalReturn
          (topRoot.join registryFile) = .ok (some (registryValue [(.text "note", .unresolved)])) :=
      optionalReturn_writtenProject (by decide +kernel) rfl
    have seen : ¬Hidden (configurationValue [(.text "note", .unresolved)]) := by
      have shared : shared? (configurationValue [(.text "note", .unresolved)]) = none := rfl
      rw [Hidden, shared]
      exact nofun
    obtain ⟨answer, before, after⟩ := (resolveHandles_prune (root _ _) (root [] []) loose strict
      looseRegistry (strictRegistry []) [] "core").1 seen
    exact ⟨_, before, after⟩
  · have hides : (sampleTreeOf [unassignedModules] []).configuration configPath =
        .ok (configurationValue [(.text "modules", .unresolved)]) :=
      configuration_writtenProject (by decide +kernel) rfl
    obtain ⟨before, after⟩ := (resolveHandles_prune (root _ _) (root [] []) hides strict
      (strictRegistry _) (strictRegistry []) [] "core").2 rfl
    exact ⟨_, _, before, after, rfl, rfl⟩

end Audit

end RouteAudit
