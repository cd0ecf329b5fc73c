import RouteAudit.CommandLine.Run
import RouteAudit.Proofs.Project.Check
import RouteAudit.Proofs.Text.Cut

/-!
# How the commands agree

Both commands are given a project by the same options, whatever else they are given.  What is wrong
with these refuses both, and a check finds nothing wrong just where the references of the templates
are among the routes that the other command lists (`commands_agree`).
-/

namespace RouteAudit.CommandLine

/-! ## Settings that are written with their values -/

/-- The name that a setting is given with. -/
def Setting.name : Setting → String
  | .config => "--config"
  | .handle => "--handle"
  | .scanPath => "--scan-path"
  | .collected => "--collected"
  | .templates => "--templates"
  | .ending => "--extension"
  | .format => "--format"

/-- The argument that gives a setting its value. -/
def Setting.assign (s : Setting) (value : String) : String :=
  s.name ++ "=" ++ value

/-- The name of a setting holds no equals sign. -/
lemma Setting.equals_notMem_name (s : Setting) : '=' ∉ s.name.toList := by
  cases s <;> decide

/-- A setting with its value behind an equals sign is no text without one. -/
lemma Setting.assign_ne {s : Setting} {value text : String} (h : '=' ∉ text.toList) :
    s.assign value ≠ text := by
  rintro rfl
  apply h
  simp [Setting.assign]

/-- A setting with its value starts with a hyphen, like any option. -/
lemma Setting.assign_startsWith (s : Setting) (value : String) :
    Text.startsWith (s.assign value) "-" = true := by
  have dash : ∃ rest, s.name = "-" ++ rest := by
    rw [← Text.startsWith_iff]
    cases s <;> decide
  obtain ⟨rest, hrest⟩ := dash
  rw [Text.startsWith_iff, Setting.assign, hrest]
  exact ⟨rest ++ "=" ++ value, by simp only [String.append_assoc]⟩

/-- An argument with an equals sign is the setting before it, with the value behind. -/
lemma Argument.ofString_assign {table : OptionTable}
    (plain : ∀ name ∈ table.keys, '=' ∉ name.toList) {s : Setting}
    (h : table.get? s.name = some (.setting s)) (value : String) :
    Argument.ofString table (s.assign value) = .setting s (some value) := by
  have whole : table.get? (s.assign value) = none := by
    rw [Assoc.get?_eq_none]
    intro hmem
    exact Setting.assign_ne (plain _ hmem) rfl
  have dash : (s.assign value = "-" || !Text.startsWith (s.assign value) "-") = false := by
    rw [s.assign_startsWith, decide_eq_false (Setting.assign_ne (by decide))]
    rfl
  have cut : Text.cut? '=' (s.assign value) = some (s.name, value) :=
    Text.cut?_append s.equals_notMem_name value
  have assigned :
      Argument.ofAssignment? table (s.assign value) = some (.setting s (some value)) := by
    rw [Argument.ofAssignment?, cut]
    simp only [Option.bind_eq_bind, Option.bind_some, h]
    rfl
  rw [Argument.ofString, whole]
  simp only [dash, Bool.false_eq_true, if_false, assigned]

/-- The name of a command. -/
def Command.name : Command → String
  | .check => "check"
  | .routes => "routes"

/-- Settings with their values. -/
abbrev Settings := List (Setting × String)

namespace Settings

/-- The arguments that give settings their values. -/
def written (settings : Settings) : List String :=
  settings.map fun (s, value) => s.assign value

/-- What these arguments are. -/
def arguments (settings : Settings) : List Argument :=
  settings.map fun (s, value) => .setting s (some value)

/-- Settings that are written out are taken for themselves. -/
lemma ofStrings_written {table : OptionTable} (plain : ∀ name ∈ table.keys, '=' ∉ name.toList)
    {settings : Settings} (h : ∀ p ∈ settings, table.get? p.1.name = some (.setting p.1)) :
    Argument.ofStrings table settings.written = settings.arguments := by
  induction settings with
  | nil => rfl
  | cons p settings ih =>
    rw [List.forall_mem_cons] at h
    have word : p.1.assign p.2 ≠ "--" := Setting.assign_ne (by decide)
    rw [written, List.map_cons, Argument.ofStrings, if_neg word,
      Argument.ofString_assign plain h.1]
    exact congrArg (_ :: ·) (ih h.2)

/-- A command reads its settings when they are written with their values. -/
lemma parse_written (command : Command) (settings : Settings)
    (known : ∀ p ∈ settings, command.options.get? p.1.name = some (.setting p.1)) :
    Command.parse (command.name :: settings.written) =
      (Options.read {} settings.arguments).map fun o => (command, o) := by
  have plain : ∀ name ∈ command.options.keys, '=' ∉ name.toList := by
    cases command <;> decide
  have clear : settings.arguments.contains .ambiguous = false := by
    simp [arguments]
  have options : Options.parse command settings.written = Options.read {} settings.arguments := by
    rw [Options.parse, ofStrings_written plain known]
    simp only [clear, Bool.false_eq_true, if_false]
  have name : Argument.ofString Command.helpOptions command.name = .word command.name ∧
      command.name ≠ "--" ∧ Command.ofName? command.name = some command := by
    cases command <;> decide
  rw [Command.parse, Command.read, if_neg name.2.1, name.1]
  simp only [name.2.2, options]
  cases Options.read {} settings.arguments <;> rfl

/-- Settings of one kind, whose values add up, are read as one row. -/
lemma read_row {s : Setting} (add : Options → List String → Options)
    (set : ∀ (o : Options) value, o.set s value = .ok (add o [value])) (nil : ∀ o, add o [] = o)
    (cons : ∀ o value values, add (add o [value]) values = add o (value :: values))
    (o : Options) (values : List String) (rest : List Argument) :
    o.read (arguments (values.map (s, ·)) ++ rest) = (add o values).read rest := by
  induction values generalizing o with
  | nil => rw [nil]; rfl
  | cons value values ih =>
    rw [List.map_cons, arguments, List.map_cons, List.cons_append, Options.read, set]
    exact (ih (add o [value])).trans (by rw [cons])

end Settings

/-! ## The options that both commands know -/

namespace Options

/-- The options without those that only a check knows. -/
def projectOnly (o : Options) : Options :=
  { config := o.config, handles := o.handles, scanPaths := o.scanPaths, collected := o.collected }

/-- The settings that say which project is meant. -/
def projectSettings (o : Options) : Settings :=
  [(Setting.config, o.config)] ++ o.handles.map (Setting.handle, ·) ++
    o.scanPaths.map (Setting.scanPath, ·) ++ o.collected.toList.map (Setting.collected, ·)

/-- The routes command knows the settings of the project. -/
lemma known_of_mem_projectSettings {o : Options} {p : Setting × String}
    (h : p ∈ o.projectSettings) :
    Command.routes.options.get? p.1.name = some (.setting p.1) := by
  have known {s : Setting} (hs : s ∈ [Setting.config, .handle, .scanPath, .collected]) :
      Command.routes.options.get? s.name = some (.setting s) := by
    revert s
    decide
  apply known
  simp only [projectSettings, List.mem_append, List.mem_singleton, List.mem_map] at h
  obtain ((rfl | ⟨_, -, rfl⟩) | ⟨_, -, rfl⟩) | ⟨_, -, rfl⟩ := h <;> simp

/-- The settings of the project are read back. -/
lemma read_projectSettings (o : Options) :
    Options.read {} o.projectSettings.arguments = .ok o.projectOnly := by
  have handles (o' : Options) := Settings.read_row (s := .handle)
    (fun o values => { o with handles := o.handles ++ values }) (fun _ _ => rfl) (by simp) (by simp)
    o' o.handles
  have scanPaths (o' : Options) := Settings.read_row (s := .scanPath)
    (fun o values => { o with scanPaths := o.scanPaths ++ values }) (fun _ _ => rfl) (by simp)
    (by simp) o' o.scanPaths
  rw [projectSettings, Settings.arguments, List.map_append, List.map_append, List.map_append,
    List.append_assoc, List.append_assoc]
  refine (handles { config := o.config } _).trans ?_
  refine (scanPaths { config := o.config, handles := [] ++ o.handles } _).trans ?_
  cases h : o.collected <;> simp [projectOnly, h, read, set]

/-- The other command understands the options of the project when they are written out. -/
lemma parse_routes (o : Options) :
    Command.parse ("routes" :: o.projectSettings.written) = .ok (.routes, o.projectOnly) := by
  refine (Settings.parse_written .routes o.projectSettings fun p hp =>
    known_of_mem_projectSettings hp).trans ?_
  rw [read_projectSettings]
  rfl

/-! ## What is wrong with options -/

/-- An option for a handle has a namespace behind an equals sign. -/
def NamesHandle (value : String) : Prop :=
  ∃ handle space, value = handle ++ "=" ++ space ∧ space ≠ ""

/-- A file of collected actions holds an object of lists of texts. -/
def ListsActions (tree : FileTree) (file : String) : Prop :=
  ∃ members, tree.readJson (Path.ofString file) = .ok (.object members) ∧
    ∀ member ∈ members, ∃ names : List String, member.2 = .array (names.map .string)

/-- Every handle and the file of collected actions, if one is named, are as they should be. -/
structure Valid (tree : FileTree) (o : Options) : Prop where
  handles : ∀ value ∈ o.handles, NamesHandle value
  collected : ∀ file ∈ o.collected, file ≠ "" → ListsActions tree file

/-- A handle option is accepted just if it names a handle. -/
lemma parseHandle_iff {value : String} :
    (∃ pair, parseHandle value = .ok pair) ↔ NamesHandle value := by
  rw [parseHandle, HandleOption.parse?]
  constructor
  · intro h
    cases hcut : Text.cut? '=' value with
    | none => simp [hcut] at h
    | some parts =>
      obtain ⟨handle, space⟩ := parts
      have whole := Text.eq_of_cut? hcut
      by_cases hspace : space = ""
      · simp [hcut, hspace] at h
      · exact ⟨handle, space, whole, hspace⟩
  · rintro ⟨handle, space, rfl, hspace⟩
    obtain ⟨front, back, hcut, hback⟩ := Text.exists_cut? '=' handle hspace
    have hcut : Text.cut? '=' (handle ++ "=" ++ space) = some (front, back) := hcut
    simp [hcut, hback]

/-- A list of texts is taken for method names. -/
lemma methods?_strings (names : List String) :
    Audit.methods? (.array (names.map .string)) = some names := by
  rw [Audit.methods?]
  induction names with
  | nil => rfl
  | cons name names ih =>
    rw [List.map_cons, List.mapM_cons, ih]
    rfl

/-- Only a list of texts is read as names. -/
lemma eq_of_methods? {value : Json} {names : List String} (h : Audit.methods? value = some names) :
    value = .array (names.map .string) := by
  cases value with
  | array items =>
    rw [Audit.methods?] at h
    congr 1
    induction items generalizing names with
    | nil =>
      cases h
      rfl
    | cons item items ih =>
      rw [List.mapM_cons] at h
      obtain ⟨name, hname, h⟩ := Option.bind_eq_some_iff.1 h
      obtain ⟨rest, hrest, h⟩ := Option.bind_eq_some_iff.1 h
      cases h
      rw [ih hrest, List.map_cons]
      cases item <;> cases hname
      rfl
  | _ => cases h

/-- Only a list of texts is taken for method names. -/
lemma methods?_iff {value : Json} :
    (∃ names, Audit.methods? value = some names) ↔
      ∃ names : List String, value = .array (names.map .string) := by
  constructor
  · rintro ⟨names, h⟩
    exact ⟨names, eq_of_methods? h⟩
  · rintro ⟨names, rfl⟩
    exact ⟨names, methods?_strings names⟩

/-- A table is accepted just if every class in it has a list of texts. -/
lemma tableOf_iff {path : Path} {members : List (String × Json)} :
    (∃ table, Audit.tableOf path members = .ok table) ↔
      ∀ member ∈ members, ∃ names : List String, member.2 = .array (names.map .string) := by
  induction members with
  | nil => simp [Audit.tableOf]
  | cons member members ih =>
    rw [List.forall_mem_cons, ← methods?_iff, ← ih, Audit.tableOf]
    cases Audit.methods? member.2 with
    | none => simp
    | some names => cases Audit.tableOf path members <;> simp [Except.map]

/-- A file of collected actions is accepted just if it lists actions. -/
lemma loadCollected_iff {tree : FileTree} {file : String} :
    (∃ table, Audit.loadCollected tree (Path.ofString file) = .ok table) ↔
      ListsActions tree file := by
  rw [Audit.loadCollected, ListsActions]
  cases tree.readJson (Path.ofString file) with
  | error cause => simp
  | ok document => cases document <;> simp [tableOf_iff]

/-- Where collected actions are asked for, they are accepted just if their file lists actions. -/
lemma loadActions_iff {tree : FileTree} {collected : Option String} :
    (∃ table, loadActions tree collected = .ok table) ↔
      ∀ file ∈ collected, file ≠ "" → ListsActions tree file := by
  cases collected with
  | none => simp [loadActions]
  | some file =>
    rw [loadActions]
    by_cases hfile : file = ""
    · simp [hfile]
    · rw [if_neg (by simpa using hfile)]
      simp only [Option.mem_some_iff, forall_eq', hfile, ne_eq, not_false_eq_true, true_implies,
        ← loadCollected_iff]
      cases Audit.loadCollected tree (Path.ofString file) <;> simp [Except.map]

/-- Handle options are accepted just if each of them names a handle. -/
lemma mapM_parseHandle_iff {values : List String} :
    (∃ handles, values.mapM parseHandle = .ok handles) ↔ ∀ value ∈ values, NamesHandle value := by
  induction values with
  | nil => exact iff_of_true ⟨[], rfl⟩ (List.forall_mem_nil _)
  | cons value values ih =>
    rw [List.forall_mem_cons, ← ih, ← parseHandle_iff, List.mapM_cons]
    cases parseHandle value with
    | error fault => simp [bind, Except.bind]
    | ok pair => cases values.mapM parseHandle <;> simp [bind, Except.bind, pure, Except.pure]

/-- Options can be met if nothing is wrong with them. -/
lemma checkConfig_iff {tree : FileTree} {o : Options} :
    (∃ c, o.checkConfig tree = .ok c) ↔ o.Valid tree := by
  have parts : o.Valid tree ↔ (∃ handles, o.handles.mapM parseHandle = .ok handles) ∧
      ∃ table, loadActions tree o.collected = .ok table := by
    rw [mapM_parseHandle_iff, loadActions_iff]
    exact ⟨fun ⟨handles, collected⟩ => ⟨handles, collected⟩, fun h => ⟨h.1, h.2⟩⟩
  rw [parts, checkConfig]
  cases o.handles.mapM parseHandle with
  | error fault => simp [bind, Except.bind]
  | ok handles =>
    cases loadActions tree o.collected <;> simp [bind, Except.bind, pure, Except.pure]

/-- Apart from what only a check knows, the options of the project decide what is asked for. -/
lemma checkConfig_projectOnly {tree : FileTree} {o : Options} {c : CheckConfig}
    (h : o.checkConfig tree = .ok c) :
    ∃ c₀, o.projectOnly.checkConfig tree = .ok c₀ ∧
      c = { c₀ with
        templates := if o.templates.isEmpty then ["templates"] else o.templates
        ending := o.ending } := by
  rw [checkConfig] at h
  rw [checkConfig, projectOnly]
  cases hhandles : o.handles.mapM parseHandle with
  | error fault =>
    rw [hhandles] at h
    cases h
  | ok handles =>
    cases htable : loadActions tree o.collected with
    | error fault =>
      rw [hhandles, htable] at h
      cases h
    | ok table =>
      rw [hhandles, htable] at h
      cases h
      exact ⟨_, rfl, rfl⟩

/-- Which handle holds half a character is up to the settings of the project. -/
lemma holdHalf_projectOnly (tree : FileTree) (o : Options) :
    o.projectOnly.holdHalf tree = o.holdHalf tree :=
  rfl

/-- Whether options are valid is up to the settings of the project. -/
lemma valid_projectOnly {tree : FileTree} {o : Options} :
    o.projectOnly.Valid tree ↔ o.Valid tree :=
  ⟨fun h => ⟨h.handles, h.collected⟩, fun h => ⟨h.handles, h.collected⟩⟩

/-- The roots of the templates. -/
def roots (o : Options) : List Path :=
  (if o.templates.isEmpty then ["templates"] else o.templates).map Path.ofString

end Options

/-! ## What the commands come to -/

/-- A request is refused with a line that says why, and nothing else. -/
structure Outcome.Refuses (outcome : Outcome) : Prop where
  exitCode : outcome.exitCode = 1
  output : outcome.output = ""
  error : ∃ message, outcome.errorOutput = "Error: " ++ message ++ "\n"

variable {tree : FileTree} {args : List String} {command : Command} {o : Options}

/-- A command with options that are not valid is refused. -/
lemma run_refuses (h : Command.parse args = .ok (command, o)) (hinvalid : ¬o.Valid tree) :
    (run tree args).Refuses := by
  rw [← Options.checkConfig_iff] at hinvalid
  rw [run, h]
  cases hc : o.checkConfig tree with
  | ok c => exact absurd ⟨c, hc⟩ hinvalid
  | error fault =>
    simp only [hc]
    exact ⟨rfl, rfl, fault.message, by simp [Outcome.errorOutput, Outcome.errorLinesWith,
      Fault.message]⟩

/-- A command that is understood and can be met does what it should in a new session. -/
lemma run_perform (h : Command.parse args = .ok (command, o)) {c : CheckConfig}
    (hc : o.checkConfig tree = .ok c) :
    ∃ shown : Session → List Note, run tree args =
      match command.perform o.format c (o.holdHalf tree) tree {} with
      | .ok (output, success) s => .finished output success (shown s)
      | .error fault s => .aborted fault (shown s) := by
  refine ⟨fun s => if o.verbose then s.notes else [], ?_⟩
  rw [run, h]
  simp only [hc]
  rfl

/-- A command whose output holds no half of a character puts out its answer. -/
lemma perform_whole (command : Command) (format : Format) (c : CheckConfig) :
    command.perform format c false = command.answer format c := by
  show command.answer format c >>= pure = _
  exact bind_pure _

/-- Where the index can be built, the routes are listed. -/
lemma run_routes (h : Command.parse args = .ok (.routes, o)) {c : CheckConfig}
    (hc : o.checkConfig tree = .ok c) (whole : o.holdHalf tree = false) {project : Project}
    {s : Session} (built : Audit.buildProject c tree {} = .ok project s) :
    ∃ notes, run tree args = .finished project.listing true notes := by
  obtain ⟨shown, run⟩ := run_perform h hc
  have listed : Command.routes.answer o.format c tree {} = .ok (project.listing, true) s := by
    rw [Command.answer, Audit.run_bind, built]
    rfl
  rw [whole, perform_whole] at run
  rw [run, listed]
  exact ⟨shown s, rfl⟩

/-- Where the index can be built, a check sums up what a visit of the templates finds. -/
lemma check_sums {c : CheckConfig} (hc : o.checkConfig tree = .ok c) {project : Project}
    {s : Session} (built : Audit.buildProject c tree {} = .ok project s) :
    ∃ s', Audit.check c tree {} = Audit.finish (Audit.past (tree.obstacles o.ending o.roots)
      (Audit.resultOf project (tree.readable o.ending o.roots))) s' := by
  obtain ⟨s', summed⟩ := Audit.sum_answers tree project o.roots o.ending s
  obtain ⟨c₀, -, rfl⟩ := Options.checkConfig_projectOnly hc
  refine ⟨s', ?_⟩
  rw [Audit.check, Audit.run_bind, built]
  exact summed

/-- Where the index can be built, a check tells whether a reference is not in it, unless the visit
of the templates breaks off. -/
lemma run_check (h : Command.parse args = .ok (.check, o)) {c : CheckConfig}
    (hc : o.checkConfig tree = .ok c) (whole : o.holdHalf tree = false) {project : Project}
    {s : Session} (built : Audit.buildProject c tree {} = .ok project s) :
    (tree.Open o.ending o.roots → (run tree args).exitCode =
      if ∀ reference ∈ (tree.readable o.ending o.roots).flatten, reference.route ∈ project.index
      then 0 else 1) ∧
    (¬tree.Open o.ending o.roots → ∃ fault notes, run tree args = .aborted fault notes) := by
  obtain ⟨shown, run⟩ := run_perform h hc
  obtain ⟨s', checked⟩ := check_sums hc built
  have ok := (Audit.covers_resultOf built (tree.readable o.ending o.roots)).ok
  rw [whole, perform_whole] at run
  rw [← FileTree.obstacles_eq_nil, run, Command.answer, Audit.run_bind, checked]
  cases tree.obstacles o.ending o.roots with
  | nil =>
    refine ⟨fun _ => ?_, fun hne => absurd rfl hne⟩
    rw [← if_congr ok rfl rfl]
    rfl
  | cons fault more =>
    refine ⟨fun hnil => absurd hnil (List.cons_ne_nil fault more), fun _ => ?_⟩
    exact ⟨.file fault, shown s', rfl⟩

/-- **The commands agree.**  For a check and a listing with the same options of the project, however
these are written, either something is wrong with the options and both are refused, or the check
succeeds just if every reference is among the routes that are listed.  That takes documents without
halves of characters, a project whose index can be built, and a visit of the templates that comes to
its end; else the check breaks off. -/
theorem commands_agree (h : Command.parse args = .ok (.check, o)) :
    Command.parse ("routes" :: o.projectSettings.written) = .ok (.routes, o.projectOnly) ∧
    ∀ args' o', Command.parse args' = .ok (.routes, o') → o'.projectOnly = o.projectOnly →
      (¬o.Valid tree → (run tree args).Refuses ∧ (run tree args').Refuses) ∧
      (o.Valid tree → o.holdHalf tree = false → ∃ c, o.checkConfig tree = .ok c ∧
        ∀ project s, Audit.buildProject c tree {} = .ok project s →
          (∃ notes, run tree args' = .finished project.listing true notes) ∧
          (tree.Open o.ending o.roots → (run tree args).exitCode =
            if ∀ reference ∈ (tree.readable o.ending o.roots).flatten,
              reference.route ∈ project.index then 0 else 1) ∧
          (¬tree.Open o.ending o.roots →
            ∃ fault notes, run tree args = .aborted fault notes)) := by
  refine ⟨o.parse_routes, fun args' o' h' same => ?_⟩
  have valid : o'.Valid tree ↔ o.Valid tree := by
    rw [← Options.valid_projectOnly, same, Options.valid_projectOnly]
  refine ⟨fun hinvalid => ⟨run_refuses h hinvalid, run_refuses h' (valid.not.2 hinvalid)⟩, ?_⟩
  intro hvalid whole
  have whole' : o'.holdHalf tree = false := by
    rw [← Options.holdHalf_projectOnly, same, Options.holdHalf_projectOnly, whole]
  obtain ⟨c, hc⟩ := Options.checkConfig_iff.2 hvalid
  obtain ⟨c', hc'⟩ := Options.checkConfig_iff.2 (valid.2 hvalid)
  refine ⟨c, hc, fun project s built => ⟨?_, run_check h hc whole built⟩⟩
  apply run_routes h' hc' whole'
  -- what only a check knows does not count when a project is built
  obtain ⟨c₀, h₀, rfl⟩ := Options.checkConfig_projectOnly hc
  obtain ⟨c₁, h₁, rfl⟩ := Options.checkConfig_projectOnly hc'
  rw [same, h₀] at h₁
  cases h₁
  exact built

open Audit (sampleTree sampleProject nameOfLength)

/-- The only template refers to an action that is not listed, and no page does.  A handle without a
namespace is refused, and a root that is too long breaks off a check. -/
theorem commands_agree_sample :
    (run sampleTree ["check", "--format", "json"]).exitCode = 1 ∧
      (run sampleTree ["check", "--extension", ".html"]).exitCode = 0 ∧
      (∃ notes, run sampleTree ["routes"] = .finished sampleProject.listing true notes) ∧
      (run sampleTree ["check", "--handle", "blog"]).Refuses ∧
      ∃ fault notes, run sampleTree ["check", Setting.templates.assign (nameOfLength 300)] =
        .aborted fault notes := by
  have routes : Command.parse ["routes"] = .ok (.routes, {}) := rfl
  have agree {args : List String} {o : Options} (h : Command.parse args = .ok (.check, o))
      (plain : o.projectOnly = {}) (found : List (List Reference))
      (hfound : sampleTree.readable o.ending o.roots = found) :
      (∃ notes, run sampleTree ["routes"] = .finished sampleProject.listing true notes) ∧
        (sampleTree.Open o.ending o.roots → (run sampleTree args).exitCode =
          if ∀ reference ∈ found.flatten, reference.route ∈ sampleProject.index then 0 else 1) ∧
        (¬sampleTree.Open o.ending o.roots →
          ∃ fault notes, run sampleTree args = .aborted fault notes) := by
    have valid : o.Valid sampleTree := by
      rw [← Options.valid_projectOnly, plain]
      exact ⟨List.forall_mem_nil _, nofun⟩
    have whole : o.holdHalf sampleTree = false := by
      rw [← Options.holdHalf_projectOnly, plain]
      rfl
    obtain ⟨c, hc, built⟩ := ((commands_agree h).2 ["routes"] {} routes plain.symm).2 valid whole
    obtain ⟨c₀, h₀, rfl⟩ := Options.checkConfig_projectOnly hc
    rw [plain] at h₀
    cases h₀
    subst hfound
    exact built _ _ (Audit.buildProject_page _ (.inl rfl) _ o.ending)
  have noPage : sampleTree.Open ".html" [Path.ofString "templates"] := by
    rw [← FileTree.obstacles_eq_nil]
    cbv
  have json : Command.parse ["check", "--format", "json"] = .ok (.check, { format := .json }) := rfl
  have html : Command.parse ["check", "--extension", ".html"] =
      .ok (.check, { ending := ".html" }) := rfl
  have handle : Command.parse ["check", "--handle", "blog"] =
      .ok (.check, { handles := ["blog"] }) := rfl
  obtain ⟨listed, success, -⟩ := agree html rfl [] (by cbv)
  refine ⟨?_, success noPage, listed, ?_, ?_⟩
  · exact (agree json rfl _ Audit.readable_sampleTree).2.1 Audit.open_sampleTree
  · refine (((commands_agree handle).2 ["routes", "--handle", "blog"] { handles := ["blog"] }
      rfl rfl).1 fun valid => ?_).1
    obtain ⟨pair, hpair⟩ := Options.parseHandle_iff.2 (valid.handles "blog" List.mem_cons_self)
    have refused : parseHandle "blog" = .error (.handleOption "blog") := rfl
    rw [refused] at hpair
    cases hpair
  · have long : Command.parse ["check", Setting.templates.assign (nameOfLength 300)] =
        .ok (.check, { templates := [nameOfLength 300] }) :=
      Settings.parse_written .check [(.templates, nameOfLength 300)] (by decide)
    refine (agree long rfl _ rfl).2.2 fun visit => ?_
    exact visit.short _ List.mem_cons_self (Audit.locate_nameOfLength rfl (by decide) (by decide))

end RouteAudit.CommandLine
