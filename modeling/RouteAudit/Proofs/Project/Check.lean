import RouteAudit.Proofs.Diagnostic
import RouteAudit.Proofs.Project.Maps
import RouteAudit.Proofs.Template.Visit

/-!
# What a check reports

A check reports each reference that is not in the index of the project, and a scan of the same
templates with this index reports the same (`check_reports`).  Both come to an answer if no template
root is too long, whether the roots exist or not; a root that is too long ends both with its fault.
-/

namespace RouteAudit

/-- What a check says of a project, given the references of each template that can be read. -/
structure CheckResult.Covers (project : Project) (found : List (List Reference))
    (r : CheckResult) : Prop where
  diagnostics : Diagnostic.StableSort
    ((found.flatten.filter fun reference => reference.route ∉ project.index).map
      (Diagnostic.ofReference project.index)) r.diagnostics
  references : r.references = found.flatten.length
  templates : r.templates = found.length
  routes : r.routes = project.index.routes.length
  handles : project.snapshot.handles.map.keys.Nodup ∧
    r.handles = project.snapshot.handles.map.keys.length
  controllers : project.actions.keys.Nodup ∧
    r.controllers = (project.actions.keys.filter fun className =>
      ∃ handle ∈ project.snapshot.handles.map,
        Text.startsWith className (handle.2 ++ "\\")).length
  ok : r.ok ↔ ∀ reference ∈ found.flatten, reference.route ∈ project.index

namespace Audit

/-! ## What a visit adds up to -/

/-- A check adds up the reports, the templates and the references. -/
lemma foldl_addTemplate (index : RouteIndex) (r : CheckResult)
    (visited : List (Option (List Reference))) :
    visited.foldl (addTemplate index) r =
      { r with
        diagnostics := r.diagnostics ++ Diagnostic.check index (visited.filterMap id).flatten
        templates := r.templates + (visited.filterMap id).length
        references := r.references + (visited.filterMap id).flatten.length } := by
  induction visited generalizing r with
  | nil => simp [Diagnostic.check]
  | cons references? visited ih =>
    rw [List.foldl_cons, ih]
    cases references? with
    | none => rfl
    | some references =>
      simp [addTemplate, Diagnostic.check_append, Int.add_assoc, Int.add_comm 1]

/-- The diagnostics are those of all references that are found, file by file. -/
lemma foldl_addReports (index : RouteIndex) (before : List Diagnostic)
    (visited : List (Option (List Reference))) :
    visited.foldl (addReports index) before =
      before ++ Diagnostic.check index (visited.filterMap id).flatten := by
  induction visited generalizing before with
  | nil => simp [Diagnostic.check]
  | cons references? visited ih =>
    rw [List.foldl_cons, ih]
    rcases references? with _ | _ | ⟨r, rs⟩
    · rfl
    · rfl
    · rw [addReports, List.append_assoc, ← Diagnostic.check_append]
      rfl

variable {c : CheckConfig} {tree : FileTree} {s s₁ : Session} {project : Project}

/-- The result of a check whose visit comes to its end. -/
def resultOf (project : Project) (found : List (List Reference)) : CheckResult :=
  { untouched project with
    diagnostics := Diagnostic.sort (Diagnostic.check project.index found.flatten)
    templates := found.length
    references := found.flatten.length }

/-- A class has an owner if the namespace of a handle begins its name. -/
lemma owners_isEmpty (handles : HandleMap) (className : String) :
    (!(HandleMap.owners handles className).isEmpty) =
      decide (∃ handle ∈ handles, Text.startsWith className (handle.2 ++ "\\")) := by
  rw [Bool.eq_iff_iff, decide_eq_true_eq, HandleMap.owners]
  simp

/-- There are no diagnostics just if every reference is a route. -/
lemma check_eq_nil {index : RouteIndex} {references : List Reference} :
    Diagnostic.check index references = [] ↔ ∀ r ∈ references, r.route ∈ index := by
  rw [Diagnostic.check, List.map_eq_nil_iff, List.filter_eq_nil_iff]
  simp

/-- A result covers the project and what was found. -/
lemma covers_resultOf (built : buildProject c tree s = .ok project s₁)
    (found : List (List Reference)) : (resultOf project found).Covers project found where
  diagnostics := Diagnostic.sort_stable _
  references := rfl
  templates := rfl
  routes := rfl
  handles :=
    ⟨(buildProject_nodup c s project s₁ built).1, by simp [resultOf, untouched, Assoc.keys]⟩
  controllers := by
    refine ⟨(buildProject_nodup c s project s₁ built).2, ?_⟩
    simp only [resultOf, untouched, owners_isEmpty, Assoc.keys, List.filter_map, List.length_map,
      List.countP_eq_length_filter]
    rfl
  ok := by
    have perm := (Diagnostic.sort_stable (Diagnostic.check project.index found.flatten)).perm
    rw [CheckResult.ok, List.isEmpty_iff, ← check_eq_nil]
    constructor
    · intro h
      exact (perm.symm.trans (.of_eq h)).eq_nil
    · intro h
      exact (perm.trans (.of_eq h)).eq_nil

/-- The references of the templates that can be read, in the order of the visit. -/
lemma filterMap_visited (ending : String) (roots : List Path) :
    ((tree.templates ending roots).map fun path => (tree.references path).toOption).filterMap id =
      tree.readable ending roots := by
  rw [List.filterMap_map]
  rfl

/-- A scan reports what the visit finds, or stops where the visit does. -/
lemma scan_answers (tree : FileTree) (roots : List Path) (index : RouteIndex) (ending : String) :
    Answers tree (scan roots index ending)
      (past (tree.obstacles ending roots)
        (Diagnostic.sort (Diagnostic.check index (tree.readable ending roots).flatten))) := by
  have visit := gatherTemplates_answers tree ending (addReports index) [] roots
  rw [foldl_addReports, filterMap_visited] at visit
  exact visit.past_map Diagnostic.sort

/-- A check of a project sums up what the visit finds, or stops where the visit does. -/
lemma sum_answers (tree : FileTree) (project : Project) (roots : List Path) (ending : String) :
    Answers tree
      (do
        let result ← gatherTemplates ending (addTemplate project.index) (untouched project) roots
        return { result with diagnostics := Diagnostic.sort result.diagnostics })
      (past (tree.obstacles ending roots) (resultOf project (tree.readable ending roots))) := by
  have visit :=
    gatherTemplates_answers tree ending (addTemplate project.index) (untouched project) roots
  rw [foldl_addTemplate, filterMap_visited] at visit
  have sum := visit.past_map fun r => { r with diagnostics := Diagnostic.sort r.diagnostics }
  rwa [untouched, List.nil_append, Int.zero_add, Int.zero_add] at sum

/-- **A check reports the references that match no route, as a scan does.**  Where a visit of the
templates comes to its end, the check and a scan with its index report the same.  Where it does not,
both end in one fault, though the index of the project could be built. -/
theorem check_reports (built : buildProject c tree s = .ok project s₁) :
    let roots := c.templates.map Path.ofString
    (tree.Open c.ending roots →
      ∃ r, (∃ s₂, check c tree s = .ok r s₂) ∧ r.Covers project (tree.readable c.ending roots) ∧
        Answers tree (scan roots project.index c.ending) (.ok r.diagnostics)) ∧
    (¬tree.Open c.ending roots →
      ∃ fault, (∃ s₂, check c tree s = .error fault s₂) ∧
        Answers tree (scan roots project.index c.ending) (.error fault)) := by
  intro roots
  have scanned := scan_answers tree roots project.index c.ending
  obtain ⟨s₂, summed⟩ := sum_answers tree project roots c.ending s₁
  -- a check is the building of the project and then the visit
  have run : check c tree s = finish (past (tree.obstacles c.ending roots)
      (resultOf project (tree.readable c.ending roots))) s₂ := by
    rw [check, run_bind, built]
    exact summed
  -- the same obstacles stand in the way of the check and of the scan
  rw [← FileTree.obstacles_eq_nil]
  cases h : tree.obstacles c.ending roots with
  | nil =>
    rw [h] at run scanned
    refine ⟨fun _ => ?_, fun hne => absurd rfl hne⟩
    exact ⟨_, ⟨s₂, run⟩, covers_resultOf built _, scanned⟩
  | cons fault more =>
    rw [h] at run scanned
    refine ⟨fun hnil => absurd hnil (List.cons_ne_nil fault more), fun _ => ?_⟩
    exact ⟨.file fault, ⟨s₂, run⟩, scanned⟩

/-- A project without controllers, whose only template refers to an action. -/
def sampleTree : FileTree :=
  { entries := [(["templates"], .directory),
      (["templates", "page.twig"], .file (Text.Utf8.encode "actionInput('blog/save')"))] }

/-- What is built of a project without controllers. -/
def sampleProject : Project :=
  { snapshot :=
      { handles := { map := [(HandleMap.coreHandle, HandleMap.coreNamespace)] }
        autoload := []
        discovered := [] }
    actions := []
    index := {} }

/-- What is remembered when it is built. -/
def sampleSession : Session :=
  { classes := ClassTable.ofAutoload []
    notes := [.configMissing (Path.ofString "config/app.php"), .snapshot 1 0 0] }

/-- A configuration with just the roots of templates. -/
def sampleConfig (roots : List String) : CheckConfig :=
  { autoload := some [], templates := roots }

/-- The project is built whatever stands in the template, and whatever is visited. -/
lemma buildProject_page (page : List UInt8) {autoload : Option Autoload}
    (nothing : autoload = none ∨ autoload = some []) (templates : List String) (ending : String) :
    buildProject { autoload, templates, ending }
        { entries := [(["templates"], .directory), (["templates", "page.twig"], .file page)] } {} =
      .ok sampleProject sampleSession := by
  rcases nothing with rfl | rfl <;> cbv

/-- The templates of the sample can be visited. -/
lemma open_sampleTree : sampleTree.Open ".twig" [Path.ofString "templates"] := by
  rw [← FileTree.obstacles_eq_nil]
  cbv

/-- The one template of the sample has one reference. -/
lemma readable_sampleTree : sampleTree.readable ".twig" [Path.ofString "templates"] =
    [[⟨"blog/save", "/templates/page.twig", 1⟩]] := by
  cbv

/-- A name of a number of letters. -/
def nameOfLength (n : Nat) : String :=
  String.ofList (List.replicate n 'a')

/-- The name has as many bytes. -/
lemma utf8ByteSize_nameOfLength (n : Nat) : (nameOfLength n).utf8ByteSize = n := by
  induction n with
  | zero => rfl
  | succ n ih =>
    rw [nameOfLength, List.replicate_succ, String.ofList_cons, String.utf8ByteSize_append,
      ← nameOfLength, ih, Nat.add_comm]
    rfl

/-- Where the name is too long, it is not looked for. -/
lemma locate_nameOfLength {tree : FileTree} (hroot : tree.workingDirectory.parts = []) {n : Nat}
    (hlong : FileTree.nameLimit < n) (hshort : n ≤ FileTree.pathLimit) :
    tree.locate (Path.ofString (nameOfLength n)) = .error .nameTooLong := by
  have chars {c : Char} (h : c ∈ (nameOfLength n).toList) : c = 'a' := by
    rw [nameOfLength, String.toList_ofList] at h
    exact List.eq_of_mem_replicate h
  have other {s : String} (h : s.utf8ByteSize < FileTree.nameLimit) : nameOfLength n ≠ s := by
    rintro rfl
    rw [utf8ByteSize_nameOfLength] at h
    exact Nat.lt_asymm h hlong
  have size : (nameOfLength n).utf8ByteSize = n := utf8ByteSize_nameOfLength n
  rw [Path.ofString_name (fun h => nomatch chars h) (other (by decide)) (other (by decide))]
  exact FileTree.locate_of_long hroot (fun h => nomatch chars h) (other (by decide))
    (by rwa [size]) (by rwa [size])

/-- The reference in the only template is reported, and a second root that is too long ends both the
check and the scan. -/
theorem check_reports_sample :
    (∃ r, (∃ s, check (sampleConfig ["templates"]) sampleTree {} = .ok r s) ∧
      r.Covers sampleProject [[⟨"blog/save", "/templates/page.twig", 1⟩]]) ∧
    ∃ fault s,
      check (sampleConfig ["templates", nameOfLength 300]) sampleTree {} = .error fault s := by
  have built (roots : List String) :
      buildProject (sampleConfig roots) sampleTree {} = .ok sampleProject sampleSession :=
    buildProject_page _ (.inr rfl) _ _
  constructor
  · obtain ⟨r, run, covers, -⟩ := (check_reports (built ["templates"])).1 open_sampleTree
    exact ⟨r, run, readable_sampleTree ▸ covers⟩
  · have noVisit {n : Nat} (hlong : FileTree.nameLimit < n) (hshort : n ≤ FileTree.pathLimit) :
        ¬sampleTree.Open ".twig" [Path.ofString "templates", Path.ofString (nameOfLength n)] :=
      fun visit => visit.short _ (List.mem_cons_of_mem _ List.mem_cons_self)
        (locate_nameOfLength rfl hlong hshort)
    obtain ⟨fault, run, -⟩ := (check_reports (built ["templates", nameOfLength 300])).2
      (noVisit (by decide) (by decide))
    exact ⟨fault, run⟩

end Audit

end RouteAudit
