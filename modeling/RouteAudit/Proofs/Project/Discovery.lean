import RouteAudit.Proofs.Project.Collection
import RouteAudit.Proofs.Project.Obstacles
import RouteAudit.Proofs.Route.Segment
import RouteAudit.Proofs.Source.Declaration.Letters

/-!
# Routes of discovered controllers

A class that is discovered stands in a file, so its name and those of its methods have no slashes
and no hyphens, and its file says that it ends like all controllers.  Under handles that leave no
gap, the routes of what is discovered have a gap only if the class is called just like that end
(`World.discovered_segments`).
-/

namespace RouteAudit
open Source (Declaration)
open Text (Lettered)

namespace Audit

variable {tree : FileTree} {places : ClassTable} {α : Type}

/-- A declaration of a file is in letters. -/
lemma isLettered_of_standsIn {d : Declaration} (h : d.StandsIn tree) : d.IsLettered := by
  obtain ⟨path, bytes, -, hd⟩ := h
  exact Declaration.lettered_of_mem_parse hd

/-- Names of one class have signs together. -/
lemma lettered_of_key {name name' : String} (h : Lettered name)
    (same : Text.lower name = Source.ClassName.key name') : Lettered name' := by
  have kept (c : Char) (sign : Text.isSign c = true) :
      (c == Source.ClassName.separator) = false := by
    rw [beq_eq_false_iff_ne]
    rintro rfl
    exact absurd sign (by decide)
  have lowered := Text.lettered_lower.2 h
  rw [same, Source.ClassName.key, Text.lettered_lower, Source.ClassName.bare] at lowered
  exact (Text.lettered_trim kept).1 lowered

/-- What lists an entry may have any weaker property. -/
lemma ListedBy.imp {P Q : Declaration → Prop} {entry : String × List String}
    (h : ListedBy P entry) (hPQ : ∀ d, P d → Q d) : ListedBy Q entry where
  name := h.name.imp fun d hd => hd.imp_left (hPQ d)
  methods m hm := (h.methods m hm).imp_right fun declares =>
    declares.imp fun d hd => hd.imp_left (hPQ d)

/-- What declarations without signs account for has none. -/
lemma ListedBy.lettered {entry : String × List String}
    (h : ListedBy Declaration.IsLettered entry) :
    Lettered entry.1 ∧ ∀ m ∈ entry.2, Identifier.isAction m = true ∧ Lettered m := by
  refine ⟨?_, fun m hm => ?_⟩
  · obtain ⟨d, hd, hname | hkey⟩ := h.name
    · exact hname ▸ hd.name
    · exact lettered_of_key hd.name hkey
  · obtain ⟨action, d, hd, declares⟩ := h.methods m hm
    exact ⟨action, hd.methods m declares⟩

/-- A class for which a file of a controller is there ends like all controllers. -/
lemma endsWith_of_mem_candidateClasses {space className : String} {directory : Path}
    (h : className ∈ candidateClasses tree space directory) :
    Text.endsWith (Source.ClassName.short className) Identifier.controllerSuffix = true := by
  obtain ⟨file, hfile, rfl⟩ := List.mem_map.1 h
  have hend : Text.endsWith file controllerFileEnd = true := by
    rw [controllerFiles] at hfile
    split at hfile
    · exact (List.mem_filter.1 hfile).2
    · cases hfile
  obtain ⟨front, rfl⟩ := Text.endsWith_iff.1 hend
  have stem : front ++ controllerFileEnd = front ++ Identifier.controllerSuffix ++ ".php" := by
    rw [String.append_assoc]
    rfl
  rw [stem, Text.dropLast_append]
  refine Text.endsWith_afterLast (by decide) (Text.endsWith_iff.2 ⟨space ++ "\\" ++ front, ?_⟩)
  simp only [String.append_assoc]

/-- The names in a table make segments of routes. -/
def MakesSegments (table : ActionTable) : Prop :=
  ∀ entry ∈ table, Identifier.NamesController entry.1 ∧ ∀ m ∈ entry.2, Identifier.NamesAction m

/-- A table of lettered classes among candidates makes segments. -/
lemma makesSegments {table : ActionTable}
    (h : ∀ entry ∈ table, ListedBy Declaration.IsLettered entry ∧
      ∃ space directory, entry.1 ∈ candidateClasses tree space directory) :
    MakesSegments table := by
  have absent {name : String} (hname : Lettered name) : '/' ∉ name.toList ∧ '-' ∉ name.toList :=
    ⟨Text.lettered_iff.1 hname '/' (by decide), Text.lettered_iff.1 hname '-' (by decide)⟩
  intro entry hentry
  obtain ⟨listed, space, directory, hclass⟩ := h entry hentry
  obtain ⟨hname, hmethods⟩ := listed.lettered
  have hshort : Lettered (Source.ClassName.short entry.1) :=
    fun c hc => hname c (Text.mem_of_mem_afterLast hc)
  refine ⟨?_, fun m hm => ?_⟩
  · exact Identifier.namesController (endsWith_of_mem_candidateClasses hclass) (absent hshort).1
      (absent hshort).2
  · obtain ⟨action, hmethod⟩ := hmethods m hm
    exact Identifier.namesAction action (absent hmethod).1 (absent hmethod).2

/-- The controllers whose class is called just like the end of all controllers. -/
def bareControllers (table : ActionTable) : ActionTable :=
  table.filter fun entry => Source.ClassName.short entry.1 = Identifier.controllerSuffix

/-- A route is full unless it is made by a controller that is called just like the suffix. -/
lemma MakesSegments.full_iff {table : ActionTable} (h : MakesSegments table) {handles : HandleMap}
    (hhandles : ∀ entry ∈ handles, entry.1 = HandleMap.coreHandle ∨ RouteIndex.Full entry.1)
    {default : String → String} {r : String} (hr : r ∈ RouteIndex.build handles table default) :
    RouteIndex.Full r ↔ r ∉ RouteIndex.build handles (bareControllers table) default := by
  have segmented : RouteIndex.Segmented handles table :=
    ⟨hhandles, fun entry hentry => (h entry hentry).1.1, fun entry hentry => (h entry hentry).2⟩
  have same : RouteIndex.unnamed table = bareControllers table := by
    refine List.filter_congr fun entry hentry => ?_
    rw [decide_eq_decide]
    exact (h entry hentry).1.2
  rw [segmented.full_iff_notMem_build hr, same]

namespace World

/-- Whatever was looked up and changed before, what is discovered has no signs in its names. -/
lemma listedBy_discover {autoload : Autoload} {events : List Event} {spaces : List String}
    {places : Autoload} {base : String} {table : ActionTable}
    (found : ((start autoload tree).after events).answer (discover spaces places base) =
      .ok table) :
    ∃ tree' : FileTree, ∀ entry ∈ table, ListedBy Declaration.IsLettered entry ∧
      ∃ space directory, entry.1 ∈ candidateClasses tree' space directory := by
  have nothing : Knows (.ofAutoload autoload) Declaration.IsLettered
      (start autoload tree).session.classes :=
    ⟨rfl, List.forall_mem_nil _, List.forall_mem_nil _⟩
  have known := knows_after (fun _ _ stands => isLettered_of_standsIn stands) nothing events
  have ends : Ends ((start autoload tree).after events).tree
      (Knows (.ofAutoload autoload) Declaration.IsLettered) (discover spaces places base) _
      fun _ => True :=
    discover_ends (fun _ stands => isLettered_of_standsIn stands) places base
      fun _ _ _ _ _ _ _ => trivial
  exact ⟨_, (ends.of_ok known (run_of_answer found)).2⟩

/-- **The names of controllers and actions make segments of routes.**  Whatever was looked up and
changed before, the routes of what is discovered have no gaps, but for those of a class that is
called just like the end of all controllers. -/
theorem discovered_segments (autoload : Autoload) (tree : FileTree) (events : List Event)
    (spaces : List String) (places : Autoload) (base : String) (table : ActionTable) :
    (∀ space stem : String, '\\' ∉ stem.toList → '/' ∉ stem.toList → '-' ∉ stem.toList →
      Text.endsWith stem Identifier.controllerSuffix = true →
      Identifier.NamesController (space ++ "\\" ++ stem)) ∧
    (∀ method : String, '/' ∉ method.toList → '-' ∉ method.toList →
      Identifier.isAction method = true → Identifier.NamesAction method) ∧
    (((start autoload tree).after events).answer (discover spaces places base) = .ok table →
      MakesSegments table ∧
      ∀ (handles : HandleMap) (default : String → String),
        (∀ entry ∈ handles, entry.1 = HandleMap.coreHandle ∨ RouteIndex.Full entry.1) →
        ∀ r ∈ RouteIndex.build handles table default,
          (RouteIndex.Full r ↔ r ∉ RouteIndex.build handles (bareControllers table) default)) := by
  refine ⟨fun space stem backslash slash hyphen hend => ?_, fun method slash hyphen action => ?_,
    fun found => ?_⟩
  · have short : Source.ClassName.short (space ++ "\\" ++ stem) = stem :=
      Text.afterLast_append backslash space
    apply Identifier.namesController <;> rwa [short]
  · exact Identifier.namesAction action slash hyphen
  · obtain ⟨_, listed⟩ := listedBy_discover found
    have segments := makesSegments listed
    exact ⟨segments, fun handles default hhandles r hr => segments.full_iff hhandles hr⟩

/-- An activity that ends well needs no other. -/
lemma run_orElse_of_ok {x : Audit α} {a : α} {s s' : Session} (h : x tree s = .ok a s')
    (y : Audit α) : orElse x y tree s = .ok a s' := by
  show EStateM.tryCatch (x tree) (fun _ => y tree) s = .ok a s'
  rw [EStateM.tryCatch, h]

section Sample

open Source.Grammar

/-- The one name stands. -/
lemma stands_controller : Source.Lexer.Stands .name "Controller".toList := by
  decide

/-- The other name stands. -/
lemma stands_postController : Source.Lexer.Stands .name "PostController".toList := by
  decide

/-- A controller whose class is called just like the end of all controllers. -/
def bareClass : ClassDecl :=
  { heirDecl letterC with
    name := ⟨"Controller", stands_controller⟩, isSimple := by decide, members := [actMember] }

/-- A controller with a name. -/
def postClass : ClassDecl :=
  { heirDecl letterC with
    name := ⟨"PostController", stands_postController⟩, isSimple := by decide,
    members := [actMember] }

/-- The file of both controllers. -/
def blogFile : ClassFile where
  front := []
  spaces := [⟨.line namespaceKeyword letterB, [.class bareClass, .class postClass]⟩]

/-- The path of the file. -/
def blogPath : Path :=
  Path.ofString "s/PostController.php"

/-- A tree with the files of two controllers, of which one declares both. -/
def blogTree (bytes : List UInt8) : FileTree :=
  { entries := [(["s"], .directory), (["s", "Controller.php"], .file []),
      (["s", "PostController.php"], .file bytes)] }

/-- The places of classes: one namespace in one directory. -/
def blogAutoload : Autoload :=
  [("B\\", ["s"])]

/-- A class of the file. -/
def blogController (name : String) : Declaration :=
  { name, kind := .class, parent := some "B\\C", methods := ["actionX"], path := some blogPath }

/-- What the tree answers, whatever is written in the file. -/
lemma blogTree_answers (bytes : List UInt8) :
    (blogTree bytes).identity blogPath =
      .ok { slashes := 1, parts := ["s", "PostController.php"] } ∧
    (blogTree bytes).read blogPath = .ok bytes ∧
    (blogTree bytes).isFile (Path.ofString "s/C.php") = .ok false ∧
    (∀ s, directoriesOf "B" blogAutoload (blogTree bytes) s = .ok [Path.ofString "s"] s) ∧
    candidateClasses (blogTree bytes) "B" (Path.ofString "s") =
      ["B\\Controller", "B\\PostController"] := by
  have located : (blogTree bytes).locate blogPath =
      .ok (["s", "PostController.php"], .file bytes) := by
    cbv
  refine ⟨(FileTree.identity_of_locate located).1, ?_, ?_, fun s => ?_, ?_⟩
  · rw [FileTree.read, located]
  · cbv
  · cbv
  · cbv

/-- The tree with the file written in it. -/
def writtenTree : FileTree :=
  blogTree (Text.ascii blogFile.source)

/-- The file declares both controllers. -/
lemma parse_blogFile :
    Declaration.parse (some blogPath) (sourceText (Text.ascii blogFile.source)) =
      [blogController "B\\Controller", blogController "B\\PostController"] := by
  have ascii : IsAscii blogFile.source := Source.Lexer.forall_mem_of_all (by decide +kernel)
  rw [sourceText_ascii ascii, Declaration.parse, texts_classFile]
  rfl

/-- The session that knows the file. -/
def blogSession : Session :=
  { classes := (ClassTable.ofAutoload blogAutoload).record
      { slashes := 1, parts := ["s", "PostController.php"] }
      [blogController "B\\Controller", blogController "B\\PostController"] }

/-- The session once the file is registered. -/
lemma after_register :
    (start blogAutoload writtenTree).after [.call (.register blogPath)] =
      ⟨writtenTree, blogSession⟩ := by
  have run : registerFile blogPath writtenTree (fresh blogAutoload) =
      .ok [blogController "B\\Controller", blogController "B\\PostController"] blogSession := by
    obtain ⟨identity, read, -⟩ := blogTree_answers (Text.ascii blogFile.source)
    rw [registerFile_eq, writtenTree, identity, read]
    dsimp only
    rw [parse_blogFile]
    rfl
  show World.mk writtenTree
    (sessionOf ((Call.register blogPath).perform writtenTree (fresh blogAutoload))) = _
  rw [Call.perform, run_bind_of_ok run]
  rfl

/-- The parent is not there. -/
lemma find_blogParent : find "B\\C" writtenTree blogSession = .ok none blogSession := by
  have unknown : blogSession.classes.get? (Source.ClassName.key "B\\C") = none := by decide
  have candidates : (ClassTable.ofAutoload blogAutoload).candidates
      (Source.ClassName.bare "B\\C") = [Path.ofString "s/C.php"] := by
    cbv
  have same : blogSession.classes.candidates = (ClassTable.ofAutoload blogAutoload).candidates :=
    rfl
  rw [find, run_bind, run_get]
  simp only [unknown, same, candidates]
  rw [findIn, run_bind, run_read]
  simp only [writtenTree, (blogTree_answers _).2.2.1]
  rfl

/-- Each controller has one action. -/
lemma candidateActions_blog {name : String}
    (known : blogSession.classes.get? (Source.ClassName.key name) = some (blogController name)) :
    candidateActions "B\\C" name writtenTree blogSession = .ok ["actionX"] blogSession := by
  have found : findClass name writtenTree blogSession =
      .ok (some (blogController name)) blogSession := by
    rw [run_findClass, find_of_known known]
    rfl
  have concrete : (blogController name).isAbstract = false := rfl
  have parent : (blogController name).parent = some "B\\C" := rfl
  have traits : (blogController name).traits = [] := rfl
  have reached : reach writtenTree blogSession =
      .ok (blogSession.classes.classes.length + writtenTree.size + 1) blogSession := rfl
  have controller : isController (blogController name) "B\\C" writtenTree blogSession =
      .ok true blogSession := by
    have target : Text.lower "B\\C" = Source.ClassName.key "B\\C" := by decide
    rw [isController, concrete, if_neg Bool.false_ne_true, isSubclassOf, run_bind_of_ok reached,
      parent, ascends, if_pos target]
    rfl
  have visited (n : Nat) (seen : List String) :
      visit (fun _ => false) n seen [] (some "B\\C") writtenTree blogSession =
        .ok [] blogSession := by
    rw [visit, run_bind_of_ok find_blogParent]
    rfl
  have actions : actionMethods (blogController name) writtenTree blogSession =
      .ok ["actionX"] blogSession := by
    rw [actionMethods, run_bind, publicMethods, run_bind, members, if_neg Bool.false_ne_true,
      run_bind_of_ok reached, run_cons, parent, traits, visited]
    rfl
  have inspected : inspect "B\\C" name writtenTree blogSession = .ok ["actionX"] blogSession := by
    rw [inspect, run_bind_of_ok found]
    dsimp only
    rw [run_bind_of_ok controller]
    exact actions
  exact run_orElse_of_ok inspected _

/-- What is discovered: both controllers, with their actions. -/
def blogTable : ActionTable :=
  [("B\\Controller", ["actionX"]), ("B\\PostController", ["actionX"])]

/-- The discovery comes to the table. -/
lemma discover_blog :
    ((start blogAutoload writtenTree).after [.call (.register blogPath)]).answer
      (discover ["B"] blogAutoload "B\\C") = .ok blogTable := by
  have known (name key : String) (h : Source.ClassName.key name = key)
      (hkey : blogSession.classes.get? key = some (blogController name)) :
      candidateActions "B\\C" name writtenTree blogSession = .ok ["actionX"] blogSession :=
    candidateActions_blog (h ▸ hkey)
  have bare := known "B\\Controller" "b\\controller" (by decide) (by decide)
  have post := known "B\\PostController" "b\\postcontroller" (by decide) (by decide)
  have offered : ¬ List.isEmpty blogAutoload = true := by decide
  have run : discover ["B"] blogAutoload "B\\C" writtenTree blogSession =
      .ok blogTable blogSession := by
    obtain ⟨-, -, -, directories, classes⟩ := blogTree_answers (Text.ascii blogFile.source)
    rw [discover, if_neg offered, addNamespaces, run_bind_of_ok (run_read _), writtenTree,
      run_bind_of_ok (directories _), List.flatMap_singleton, classes,
      ← writtenTree, run_bind, addCandidates, run_bind_of_ok bare, addCandidates,
      run_bind_of_ok post]
    rfl
  rw [after_register, answer, run]
  rfl

/-- The routes of the one controller have gaps, those of the other have none. -/
theorem discovered_segments_blog :
    Identifier.NamesController "B\\PostController" ∧ Identifier.NamesAction "actionX" ∧
      MakesSegments blogTable ∧
      RouteIndex.Full "blog/post/x" ∧ ¬RouteIndex.Full "blog//x" := by
  obtain ⟨controllers, actions, found⟩ := discovered_segments blogAutoload writtenTree
    [.call (.register blogPath)] ["B"] blogAutoload "B\\C" blogTable
  obtain ⟨segments, full⟩ := found discover_blog
  have handles : ∀ entry ∈ [("blog", "B")],
      entry.1 = HandleMap.coreHandle ∨ RouteIndex.Full entry.1 :=
    List.forall_mem_singleton.2 (.inr (by rw [RouteIndex.Full]; decide))
  have full := full [("blog", "B")] (fun _ => "x") handles
  refine ⟨?_, ?_, segments, ?_, ?_⟩
  · exact controllers "B" "PostController" (by decide) (by decide) (by decide) (by decide)
  · exact actions "actionX" (by decide) (by decide) (by decide)
  · exact (full "blog/post/x" (by decide +kernel)).2 (by decide +kernel)
  · exact fun gap => (full "blog//x" (by decide +kernel)).1 gap (by decide +kernel)

end Sample

end World

end Audit

end RouteAudit
