import RouteAudit.Proofs.Project.Check

/-!
# The order of template roots

A scan reports the references below its roots sorted by file, line and route.  Roots in another
order have the same templates below them, so the reports are the same (`scan_perm`).
-/

namespace RouteAudit

namespace FileTree

variable {tree : FileTree} {ending : String} {roots roots' : List Path}

/-- Reordered roots have the same templates in another order. -/
lemma templates_perm (perm : roots.Perm roots') :
    (tree.templates ending roots).Perm (tree.templates ending roots') :=
  perm.flatMap_right _

/-- Whether a visit comes to its end does not depend on the order of the roots. -/
lemma Open.perm (h : tree.Open ending roots) (perm : roots.Perm roots') :
    tree.Open ending roots' where
  short root hroot := h.short root (perm.mem_iff.2 hroot)
  valid path hpath := h.valid path ((templates_perm perm).mem_iff.2 hpath)

end FileTree

namespace Audit

variable {tree : FileTree} {ending : String} {roots roots' : List Path}

/-- A scan whose visit comes to its end reports the references in order. -/
lemma scan_of_open (index : RouteIndex) (visit : tree.Open ending roots) :
    Answers tree (scan roots index ending)
      (.ok (Diagnostic.sort (Diagnostic.check index (tree.readable ending roots).flatten))) := by
  have scanned := scan_answers tree roots index ending
  rwa [FileTree.obstacles_eq_nil.2 visit] at scanned

/-- A scan whose visit does not come to its end stops with one of the obstacles. -/
lemma scan_of_not_open (index : RouteIndex) (noVisit : ¬tree.Open ending roots) :
    ∃ fault ∈ tree.obstacles ending roots,
      Answers tree (scan roots index ending) (.error (.file fault)) := by
  have scanned := scan_answers tree roots index ending
  cases h : tree.obstacles ending roots with
  | nil => exact absurd (FileTree.obstacles_eq_nil.1 h) noVisit
  | cons fault more =>
    rw [h] at scanned
    exact ⟨fault, List.mem_cons_self, scanned⟩

/-- **The order of the roots has no part in what a scan reports.**  Where a visit of the templates
comes to its end it does so in every order, with the same reports.  Where it does not, a scan ends
in a fault in every order; of files as they are, this is one fault, and a root is too long. -/
theorem scan_perm (tree : FileTree) (index : RouteIndex) (ending : String)
    (perm : roots.Perm roots') :
    (tree.Open ending roots →
      ∃ reports, Answers tree (scan roots index ending) (.ok reports) ∧
        Answers tree (scan roots' index ending) (.ok reports)) ∧
    (¬tree.Open ending roots →
      ∃ fault fault', Answers tree (scan roots index ending) (.error fault) ∧
        Answers tree (scan roots' index ending) (.error fault') ∧
        (tree.Clean → fault = .file .nameTooLong ∧ fault' = .file .nameTooLong)) ∧
    (tree.Clean →
      (tree.Open ending roots ↔ ∀ root ∈ roots, tree.locate root ≠ .error .nameTooLong)) := by
  refine ⟨fun visit => ?_, fun noVisit => ?_, fun clean => FileTree.open_iff clean⟩
  · have found : (tree.readable ending roots).flatten.Perm (tree.readable ending roots').flatten :=
      ((FileTree.templates_perm perm).filterMap _).flatten
    have same := Diagnostic.sort_check_perm index found
    exact ⟨_, scan_of_open index visit, same ▸ scan_of_open index (visit.perm perm)⟩
  · have noVisit' : ¬tree.Open ending roots' := fun visit' => noVisit (visit'.perm perm.symm)
    obtain ⟨fault, hfault, scanned⟩ := scan_of_not_open index noVisit
    obtain ⟨fault', hfault', scanned'⟩ := scan_of_not_open index noVisit'
    refine ⟨_, _, scanned, scanned', fun clean => ?_⟩
    obtain ⟨rfl, -⟩ := FileTree.long_of_mem_obstacles clean hfault
    obtain ⟨rfl, -⟩ := FileTree.long_of_mem_obstacles clean hfault'
    exact ⟨rfl, rfl⟩

/-- Of two roots one within the other the template is found twice, and the reports are the same in
either order; with a root that is too long there are none in either order. -/
theorem scan_perm_sample :
    (∃ reports, reports.length = 2 ∧
      Answers sampleTree
        (scan [Path.ofString ".", Path.ofString "templates"] {} ".twig") (.ok reports) ∧
      Answers sampleTree
        (scan [Path.ofString "templates", Path.ofString "."] {} ".twig") (.ok reports)) ∧
    ∃ fault, Answers sampleTree
      (scan [Path.ofString (nameOfLength 300), Path.ofString "templates"] {} ".twig")
      (.error fault) := by
  have swapped (p q : Path) : List.Perm [p, q] [q, p] := .swap q p []
  constructor
  · have visit : sampleTree.Open ".twig" [Path.ofString ".", Path.ofString "templates"] := by
      rw [← FileTree.obstacles_eq_nil]
      cbv
    obtain ⟨reports, scanned, scanned'⟩ := (scan_perm sampleTree {} ".twig" (swapped _ _)).1 visit
    refine ⟨reports, ?_, scanned, scanned'⟩
    have found :
        (sampleTree.readable ".twig" [Path.ofString ".", Path.ofString "templates"]).flatten =
          List.replicate 2 ⟨"blog/save", "/templates/page.twig", 1⟩ := by
      cbv
    obtain ⟨s, run⟩ := scanned {}
    obtain ⟨s', run'⟩ := scan_of_open {} visit {}
    rw [run, found] at run'
    obtain rfl : reports = _ := (EStateM.Result.ok.inj run').1
    exact (Diagnostic.sort_stable _).perm.length_eq
  · have noVisit {n : Nat} (hlong : FileTree.nameLimit < n) (hshort : n ≤ FileTree.pathLimit) :
        ¬sampleTree.Open ".twig" [Path.ofString (nameOfLength n), Path.ofString "templates"] :=
      fun visit => visit.short _ List.mem_cons_self (locate_nameOfLength rfl hlong hshort)
    obtain ⟨fault, -, scanned, -⟩ := (scan_perm sampleTree {} ".twig" (swapped _ _)).2.1
      (noVisit (by decide : FileTree.nameLimit < 300) (by decide))
    exact ⟨fault, scanned⟩

end Audit

end RouteAudit
