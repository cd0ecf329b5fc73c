import RouteAudit.Proofs.Project.Check
import RouteAudit.Proofs.Project.Discovery
import RouteAudit.Proofs.Report.Lines
import RouteAudit.Proofs.Route.Suggestion
import RouteAudit.Proofs.Template.Extraction

/-!
# The lines of a report on a project

Where the names of files have no line feeds, a report on a project has further lines only for the
routes that it quotes.  Those that are referred to are whatever stands between the quotes in a
template.  Those that are suggested come from the handles and from the names of classes and methods;
such as stand in files have no line feeds (`check_lines`).
-/

namespace RouteAudit
open Text (lineFeeds)
open Source (Declaration)

namespace FileTree

variable {tree : FileTree}

/-- No entry has a line feed in its name. -/
def OneLine (tree : FileTree) : Prop :=
  ∀ entry ∈ tree.entries, ∀ name ∈ entry.1, '\n' ∉ name.toList

/-- The names of an entry have no line feeds. -/
lemma OneLine.node? (h : tree.OneLine) {names : List String} {node : Node}
    (entry : tree.node? names = some node) : ∀ name ∈ names, '\n' ∉ name.toList := by
  rw [FileTree.node?] at entry
  split at entry
  · next hempty =>
    rw [List.isEmpty_iff.1 hempty]
    exact List.forall_mem_nil _
  · exact h _ (Assoc.mem_of_get? entry)

/-- Names on the way to an entry have no line feeds. -/
lemma OneLine.known (h : tree.OneLine) {names : List String} (known : tree.Known names) :
    ∀ name ∈ names, '\n' ∉ name.toList := by
  obtain ⟨whole, node, entry, onTheWay⟩ := known
  exact fun name hname => h.node? entry name (onTheWay.subset hname)

/-- A strict real path has no line feeds. -/
lemma OneLine.toString_realPath (h : tree.OneLine) {p real : Path}
    (run : tree.realPath true p = .ok real) : lineFeeds real.toString = 0 := by
  obtain ⟨names, rfl, known⟩ := known_of_realPath run
  have text :
      Path.toString { slashes := 1, parts := names } = "/" ++ "/".intercalate names := by
    rw [Path.toString, if_neg (by simp)]
    rfl
  rw [text, Text.lineFeeds_append, Text.lineFeeds_eq_zero.2, Text.lineFeeds_eq_zero.2]
  · rw [Path.mem_intercalate (by decide)]
    rintro ⟨name, hname, feed⟩
    exact h.known known name hname feed
  · decide

/-- What is found in a template is said of a file without line feeds in its name. -/
lemma OneLine.file (h : tree.OneLine) {ending : String} {roots : List Path} {r : Reference}
    (hr : r ∈ (tree.readable ending roots).flatten) : lineFeeds r.file = 0 := by
  obtain ⟨references, hreadable, hr⟩ := List.mem_flatten.1 hr
  obtain ⟨path, -, hpath⟩ := List.mem_filterMap.1 hreadable
  have found : tree.references path = .ok references := by
    cases hfound : tree.references path with
    | error fault =>
      rw [hfound] at hpath
      cases hpath
    | ok references' =>
      rw [hfound] at hpath
      cases hpath
      rfl
  rw [FileTree.references] at found
  cases hreal : tree.realPath true path with
  | error fault =>
    rw [hreal] at found
    cases found
  | ok real =>
    cases hbytes : tree.read real with
    | error fault =>
      rw [hreal] at found
      simp only [bind, Except.bind, hbytes] at found
      cases found
    | ok bytes =>
      rw [hreal] at found
      simp only [bind, Except.bind, hbytes] at found
      cases found
      obtain ⟨sites, -, extracted⟩ := Reference.scan_reportedFrom real.toString 0 [] bytes
      have extracted : Reference.extract real.toString bytes =
          sites.map (Reference.Site.reference real.toString bytes) := extracted
      rw [extracted] at hr
      obtain ⟨site, -, rfl⟩ := List.mem_map.1 hr
      exact h.toString_realPath hreal

end FileTree

namespace Diagnostic

/-- A diagnostic of a check is about a reference. -/
lemma mem_check {index : RouteIndex} {references : List Reference} {d : Diagnostic}
    (h : d ∈ sort (check index references)) : ∃ r ∈ references, d = ofReference index r := by
  rw [(sort_stable _).perm.mem_iff] at h
  obtain ⟨r, hr, rfl⟩ := List.mem_map.1 h
  exact ⟨r, (List.mem_filter.1 hr).1, rfl⟩

/-- A tip quotes a route of the index. -/
lemma exists_of_mem_tipFor {index : RouteIndex} {route tip : String}
    (h : tipFor index route = some tip) :
    ∃ r ∈ index, tip = "Did you mean \"" ++ r ++ "\"?" := by
  obtain ⟨r, hr, rfl⟩ := Option.map_eq_some_iff.1 h
  have found := Option.eq_some_of_filter_eq_some hr
  obtain ⟨best, hbest, kept⟩ := RouteIndex.found_closest? index route suggestionDistance
  rw [found] at hbest
  refine ⟨r, ?_, rfl⟩
  cases kept with
  | none => cases hbest
  | some nearest =>
    cases hbest
    exact nearest.mem

/-- The diagnostic of a reference breaks lines only in what it quotes. -/
lemma quotes_ofReference (index : RouteIndex) {r : Reference} (hfile : lineFeeds r.file = 0) :
    (ofReference index r).Quotes where
  file := hfile
  identifier := by
    have name : lineFeeds "craftcms.invalidActionInput" = 0 := by decide
    exact name
  message := by
    have words : lineFeeds "Action route \"" = 0 ∧
        lineFeeds "\" does not match any controller action." = 0 := by
      decide
    have message : (ofReference index r).message =
        "Action route \"" ++ r.route ++ "\" does not match any controller action." := rfl
    rw [message, Text.lineFeeds_append, Text.lineFeeds_append, words.1, words.2, Nat.zero_add,
      Nat.add_zero]
    rfl
  tip htip := by
    obtain ⟨route, -, empty⟩ := exists_of_mem_tipFor htip
    have words := congrArg String.toList empty
    simp [String.toList_append] at words

end Diagnostic

namespace Audit

variable {tree : FileTree} {c : CheckConfig} {s s₁ s₂ : Session} {project : Project}
  {r : CheckResult}

/-- The result of a check that ends in one. -/
lemma eq_resultOf (built : buildProject c tree s = .ok project s₁)
    (run : check c tree s = .ok r s₂) :
    r = resultOf project (tree.readable c.ending (c.templates.map Path.ofString)) := by
  obtain ⟨s₃, summed⟩ := sum_answers tree project (c.templates.map Path.ofString) c.ending s₁
  rw [check, run_bind, built] at run
  have same := run.symm.trans summed
  cases hobstacles : tree.obstacles c.ending (c.templates.map Path.ofString) with
  | nil =>
    rw [hobstacles] at same
    cases same
    rfl
  | cons fault more =>
    rw [hobstacles] at same
    cases same

/-- No class and no method that was collected has a line feed in its name. -/
def OneLineNames (collected : List (String × List String)) : Prop :=
  ∀ className method, ActionTable.Lists collected className method →
    '\n' ∉ className.toList ∧ '\n' ∉ method.toList

/-- What stands in files has no line feed in its name. -/
lemma oneLineNames_of_listedBy {table : ActionTable}
    (h : ∀ entry ∈ table, ListedBy (·.StandsIn tree) entry) : OneLineNames table := by
  have sign : Text.isSign '\n' = true := by decide
  rintro className method ⟨methods, hentry, hmethod⟩
  have listed := (h _ hentry).imp fun _ => isLettered_of_standsIn
  obtain ⟨hname, hmethods⟩ := listed.lettered
  exact ⟨Text.lettered_iff.1 hname _ sign, Text.lettered_iff.1 (hmethods method hmethod).2 _ sign⟩

/-- The routes of a project have a line feed only if a handle has, or what was collected. -/
lemma lineFeeds_of_mem_index (built : buildProject c tree s = .ok project s₁)
    (handles : ∀ entry ∈ project.snapshot.handles.map, '\n' ∉ entry.1.toList)
    (collected : OneLineNames (c.collected.getD [])) {route : String} (h : route ∈ project.index) :
    lineFeeds route = 0 := by
  have ends : Ends tree (fun _ => True) (buildProject c) (Project.ReadFrom tree c) fun _ => True :=
    buildProject_ends (fun _ _ _ _ => trivial) fun _ _ => trivial
  obtain ⟨discovered, ⟨scanned, hscanned, hactions⟩, default, hindex⟩ :=
    (ends.of_ok trivial built).2
  rw [hindex] at h
  refine Text.lineFeeds_eq_zero.2 fun feed => ?_
  rcases RouteIndex.mem_of_mem_route (by decide) (by decide) (by decide) h feed with
    ⟨entry, hentry, feed⟩ | ⟨className, method, lists, feed⟩
  · exact handles entry hentry feed
  · have names : '\n' ∉ className.toList ∧ '\n' ∉ method.toList := by
      rw [hactions] at lists
      rcases ActionTable.lists_merge lists with ⟨methods, hentry, hmethod⟩ | lists
      · rcases List.mem_append.1 hentry with hentry | hentry
        · exact oneLineNames_of_listedBy hscanned className method ⟨methods, hentry, hmethod⟩
        · exact collected className method ⟨methods, hentry, hmethod⟩
      · exact oneLineNames_of_listedBy discovered className method lists
    exact feed.elim names.1 names.2

/-- **A report on a project has a line for each report, one for each tip and two at the end, and one
more for each line feed in a route that it quotes.**  It consists of these lines exactly if no
quoted route has a line feed.  A suggested route has one only if what was collected has. -/
theorem check_lines (oneLine : tree.OneLine) (built : buildProject c tree s = .ok project s₁)
    (handles : ∀ entry ∈ project.snapshot.handles.map, '\n' ∉ entry.1.toList)
    (run : check c tree s = .ok r s₂) :
    (∃ pieces, Text.split '\n' r.text = pieces ++ [""] ∧
      pieces.length = r.diagnostics.length + r.tips + 2 + r.quotedFeeds ∧
      (pieces = r.lines ↔ r.quotedFeeds = 0)) ∧
    (OneLineNames (c.collected.getD []) →
      r.quotedFeeds = (r.diagnostics.map fun d => lineFeeds d.route).sum) := by
  obtain rfl := eq_resultOf built run
  have reported {d : Diagnostic} (hd : d ∈ (resultOf project
      (tree.readable c.ending (c.templates.map Path.ofString))).diagnostics) :=
    Diagnostic.mem_check hd
  constructor
  · refine CheckResult.text_lines fun d hd => ?_
    obtain ⟨reference, hreference, rfl⟩ := reported hd
    exact Diagnostic.quotes_ofReference _ (oneLine.file hreference)
  · intro collected
    rw [CheckResult.quotedFeeds]
    refine congrArg List.sum (List.map_congr_left fun d hd => ?_)
    obtain ⟨reference, -, rfl⟩ := reported hd
    rw [Diagnostic.quotedFeeds, Nat.add_eq_left]
    cases htip : (Diagnostic.ofReference project.index reference).tip with
    | none => rfl
    | some tip =>
      obtain ⟨route, hroute, rfl⟩ := Diagnostic.exists_of_mem_tipFor htip
      have words : lineFeeds "Did you mean \"" = 0 ∧ lineFeeds "\"?" = 0 := by decide
      rw [Option.map_some, Option.getD_some, Text.lineFeeds_append, Text.lineFeeds_append, words.1,
        words.2, lineFeeds_of_mem_index built handles collected hroute]

/-- A check ends in a result where nothing stands in the way of the visit. -/
lemma exists_check (built : buildProject c tree s = .ok project s₁)
    (visit : tree.obstacles c.ending (c.templates.map Path.ofString) = []) :
    ∃ r s₂, check c tree s = .ok r s₂ := by
  obtain ⟨s₂, summed⟩ := sum_answers tree project (c.templates.map Path.ofString) c.ending s₁
  rw [visit] at summed
  refine ⟨resultOf project (tree.readable c.ending (c.templates.map Path.ofString)), s₂, ?_⟩
  rw [check, run_bind, built]
  exact summed

/-- A project without controllers, whose only template refers to an action over two lines. -/
def brokenTree : FileTree :=
  { entries := [(["templates"], .directory),
      (["templates", "page.twig"], .file (Text.Utf8.encode "actionInput('blog/\nsave')"))] }

/-- The names in the sample have no line feeds. -/
lemma oneLine_brokenTree : brokenTree.OneLine := by
  intro entry hentry
  rcases List.mem_pair.1 hentry with rfl | rfl
  · exact List.forall_mem_singleton.2 (by decide)
  · exact List.forall_mem_cons.2 ⟨by decide, List.forall_mem_singleton.2 (by decide)⟩

/-- The one template of the sample has one reference, with a line feed in it. -/
lemma readable_brokenTree : brokenTree.readable ".twig" [Path.ofString "templates"] =
    [[⟨"blog/\nsave", "/templates/page.twig", 1⟩]] := by
  cbv

/-- Nothing is in the way of the visit. -/
lemma obstacles_brokenTree : brokenTree.obstacles ".twig" [Path.ofString "templates"] = [] := by
  cbv

/-- The project of the sample. -/
lemma buildProject_brokenTree :
    buildProject (sampleConfig ["templates"]) brokenTree {} = .ok sampleProject sampleSession :=
  buildProject_page _ (.inr rfl) _ _

/-- There is one report without a tip, but the text form has four lines. -/
theorem check_lines_brokenTree :
    ∃ r s pieces, check (sampleConfig ["templates"]) brokenTree {} = .ok r s ∧
      Text.split '\n' r.text = pieces ++ [""] ∧ r.lines.length = 3 ∧ pieces.length = 4 ∧
      pieces ≠ r.lines := by
  have handles : ∀ entry ∈ sampleProject.snapshot.handles.map, '\n' ∉ entry.1.toList :=
    List.forall_mem_singleton.2 (by decide)
  obtain ⟨r, s, run⟩ := exists_check buildProject_brokenTree obstacles_brokenTree
  obtain ⟨⟨pieces, hsplit, hlength, hlines⟩, hquoted⟩ :=
    check_lines oneLine_brokenTree buildProject_brokenTree handles run
  have reports : r.diagnostics =
      [Diagnostic.ofReference sampleProject.index ⟨"blog/\nsave", "/templates/page.twig", 1⟩] := by
    rw [eq_resultOf buildProject_brokenTree run]
    change Diagnostic.sort (Diagnostic.check sampleProject.index
      (brokenTree.readable ".twig" [Path.ofString "templates"]).flatten) = _
    rw [readable_brokenTree]
    exact List.mergeSort_singleton _
  have feeds : r.quotedFeeds = 1 := by
    rw [CheckResult.quotedFeeds, reports]
    decide
  have tips : r.tips = 0 := by
    rw [CheckResult.tips, reports]
    decide
  rw [feeds, reports, tips] at hlength
  rw [feeds] at hlines
  refine ⟨r, s, pieces, run, hsplit, ?_, hlength, fun same => ?_⟩
  · rw [CheckResult.length_lines, reports, tips]
    rfl
  · exact absurd (hlines.1 same) (by decide)

end Audit

end RouteAudit
