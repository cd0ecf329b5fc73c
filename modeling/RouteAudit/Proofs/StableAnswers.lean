import RouteAudit.Proofs.LookupHistory

/-!
# Answers that stay

Files may be written and removed while a session goes on.  A session forgets no class, and no file
that it was asked to read, whatever it is asked in between and whether or not that ends in a fault
(`World.keeps_after`).  So what it once answered it answers again (`answers_stay`).
-/

namespace RouteAudit
open Source (Declaration)

namespace ClassTable

/-- A table knows the classes that another does, and the files with what they declare. -/
structure Keeps (table table' : ClassTable) : Prop where
  classes : ∀ key d, table.get? key = some d → table'.get? key = some d
  files : ∀ file declarations, table.files.get? file = some declarations →
    table'.files.get? file = some declarations

variable {table table' table'' : ClassTable}

/-- A table keeps itself. -/
lemma Keeps.refl (table : ClassTable) : Keeps table table :=
  ⟨fun _ _ h => h, fun _ _ h => h⟩

/-- What is kept on is kept from the start. -/
lemma Keeps.trans (h : Keeps table table') (h' : Keeps table' table'') : Keeps table table'' :=
  ⟨fun key d hd => h'.classes key d (h.classes key d hd),
    fun file declarations hfile => h'.files file declarations (h.files file declarations hfile)⟩

/-- A file that was not read before may be recorded. -/
lemma keeps_record {file : Path} (hnew : table.files.get? file = none)
    (declarations : List Declaration) : Keeps table (table.record file declarations) where
  classes _ _ h := get?_foldl h declarations
  files file' known hknown := by
    have hne : file' ≠ file := by
      rintro rfl
      rw [hnew] at hknown
      cases hknown
    rw [record, Assoc.get?_insert_of_ne hne, hknown]

end ClassTable

namespace Audit

variable {tree : FileTree} {s : Session}

/-! ## Calls -/

/-- A file that was read before is not read again. -/
lemma registerFile_of_known {path file : Path} {declarations : List Declaration}
    (identity : tree.identity path = .ok file)
    (known : s.classes.files.get? file = some declarations) :
    registerFile path tree s = .ok declarations s := by
  rw [registerFile_eq, identity]
  simp only [known]

/-- To register a file keeps what is known. -/
lemma keeps_registerFile (path : Path) (s : Session) :
    s.classes.Keeps (sessionOf (registerFile path tree s)).classes := by
  rw [registerFile_eq]
  cases tree.identity path with
  | error fault => exact .refl _
  | ok file =>
    cases hfile : s.classes.files.get? file with
    | some known =>
      simp only [hfile]
      exact .refl _
    | none =>
      simp only [hfile]
      cases tree.read path <;> exact ClassTable.keeps_record hfile _

/-- A file that was registered is known with the answer, be it that nothing could be read. -/
lemma known_of_registerFile {path file : Path} {declarations : List Declaration} {s' : Session}
    (identity : tree.identity path = .ok file)
    (run : registerFile path tree s = .ok declarations s') :
    s'.classes.files.get? file = some declarations := by
  rw [registerFile_eq, identity] at run
  cases hfile : s.classes.files.get? file with
  | some known =>
    simp only [hfile] at run
    cases run
    exact hfile
  | none =>
    simp only [hfile] at run
    cases hread : tree.read path <;>
      · simp only [hread] at run
        cases run
        exact Assoc.get?_insert_self _ _ _

/-- To search through files keeps what is known. -/
lemma keeps_findIn (key : String) (paths : List Path) (s : Session) :
    s.classes.Keeps (sessionOf (findIn key paths tree s)).classes := by
  induction paths generalizing s with
  | nil => exact .refl _
  | cons path paths ih =>
    rw [findIn_cons]
    cases tree.isFile path with
    | error fault => exact .refl _
    | ok isFile =>
      cases isFile with
      | false => exact ih s
      | true =>
        have hregister : s.classes.Keeps (sessionOf (registerFile path tree s)).classes :=
          keeps_registerFile path s
        cases hrun : registerFile path tree s with
        | error fault s' =>
          rw [hrun] at hregister
          exact hregister
        | ok declarations s' =>
          rw [hrun] at hregister
          dsimp only
          cases s'.classes.get? key with
          | some d => exact hregister
          | none => exact hregister.trans (ih s')

/-- To look up a class keeps what is known. -/
lemma keeps_find (name : String) (s : Session) :
    s.classes.Keeps (sessionOf (find name tree s)).classes := by
  rw [find, run_bind, run_get]
  cases hknown : s.classes.get? (Source.ClassName.key name) with
  | some d =>
    simp only [hknown]
    exact .refl _
  | none =>
    simp only [hknown]
    exact keeps_findIn _ _ s

/-- A call lets the session forget nothing. -/
lemma Call.keeps (call : Call) (s : Session) :
    s.classes.Keeps (sessionOf (call.perform tree s)).classes := by
  cases call with
  | register path =>
    rw [perform, sessionOf_discard]
    exact keeps_registerFile path s
  | find name =>
    rw [perform, sessionOf_discard]
    exact keeps_find name s
  | findClass name =>
    have h : s.classes.Keeps (sessionOf (Audit.find name tree s)).classes := keeps_find name s
    rw [perform, sessionOf_discard, run_findClass]
    cases hrun : Audit.find name tree s <;>
      · rw [hrun] at h
        exact h

/-! ## Runs -/

/-- A session, and the files as they are at the time. -/
structure World where
  tree : FileTree
  session : Session

/-- What may happen to a world: a call, or a change of a file. -/
inductive Event where
  | call (call : Call)
  | write (path : Path) (content : List UInt8)
  | remove (path : Path)

namespace World

/-- The world in which nothing was looked up yet. -/
def start (autoload : Autoload) (tree : FileTree) : World :=
  ⟨tree, fresh autoload⟩

/-- The world after an event; a change that fails changes nothing. -/
def next (w : World) : Event → World
  | .call call => { w with session := sessionOf (call.perform w.tree w.session) }
  | .write path content => { w with tree := (w.tree.write path content).toOption.getD w.tree }
  | .remove path => { w with tree := (w.tree.remove path).toOption.getD w.tree }

/-- The world after some events. -/
def after (w : World) (events : List Event) : World :=
  events.foldl next w

/-- What an activity would answer now. -/
def answer {α : Type} (w : World) (x : Audit α) : Except Fault α :=
  answerOf (x w.tree w.session)

/-- An event keeps what is known. -/
lemma keeps_next (w : World) (event : Event) :
    w.session.classes.Keeps (w.next event).session.classes := by
  cases event with
  | call call => exact call.keeps w.session
  | write path content => exact .refl _
  | remove path => exact .refl _

/-- No events let the session forget anything. -/
theorem keeps_after (w : World) (events : List Event) :
    w.session.classes.Keeps (w.after events).session.classes := by
  induction events generalizing w with
  | nil => exact .refl _
  | cons event events ih => exact (w.keeps_next event).trans (ih (w.next event))

/-- An activity that answers leaves a session behind. -/
lemma run_of_answer {α : Type} {w : World} {x : Audit α} {a : α} (h : w.answer x = .ok a) :
    x w.tree w.session = .ok a (sessionOf (x w.tree w.session)) := by
  rw [answer] at h
  cases hrun : x w.tree w.session with
  | error fault s' =>
    rw [hrun] at h
    cases h
  | ok a' s' =>
    rw [hrun] at h
    cases h
    rfl

/-- A class that was found is known, whatever happens then. -/
lemma get?_after_find {w : World} {name : String} {d : Declaration}
    (found : w.answer (find name) = .ok (some d)) (later : List Event) :
    (w.after (.call (.find name) :: later)).session.classes.get? (Source.ClassName.key name) =
      some d := by
  have known := (find_found (run_of_answer found)).known d rfl
  refine (keeps_after (w.next (.call (.find name))) later).classes _ d ?_
  rwa [next, Call.perform, sessionOf_discard]

/-- A file that was registered is known, whatever happens then. -/
lemma files_after_register {w : World} {path file : Path} {declarations : List Declaration}
    (identity : w.tree.identity path = .ok file)
    (registered : w.answer (registerFile path) = .ok declarations) (later : List Event) :
    (w.after (.call (.register path) :: later)).session.classes.files.get? file =
      some declarations := by
  have known := known_of_registerFile identity (run_of_answer registered)
  refine (keeps_after (w.next (.call (.register path))) later).files _ _ ?_
  rwa [next, Call.perform, sessionOf_discard]

/-- **Answers stay.**  Whatever happened before: a class that was found is found again, by each
spelling of its name, and a file that was registered is answered the same by each path that is then
told to be it, whatever calls and changes of files come in between.  And each class is known under
its own name without regard to case. -/
theorem answers_stay (autoload : Autoload) (tree : FileTree) (before later : List Event) :
    let w := (start autoload tree).after before
    (∀ name d, w.answer (find name) = .ok (some d) →
      ∀ name', Source.ClassName.key name' = Source.ClassName.key name →
        (w.after (.call (.find name) :: later)).answer (find name') = .ok (some d)) ∧
    (∀ path file declarations, w.tree.identity path = .ok file →
      w.answer (registerFile path) = .ok declarations →
      ∀ path', (w.after (.call (.register path) :: later)).tree.identity path' = .ok file →
        (w.after (.call (.register path) :: later)).answer (registerFile path') =
          .ok declarations) ∧
    ∀ entry ∈ w.session.classes.classes, entry.1 = Text.lower entry.2.name := by
  intro w
  refine ⟨fun name d found name' same => ?_,
    fun path file declarations identity registered path' identity' => ?_,
    w.session.classes.keyed⟩
  · have known := get?_after_find found later
    rw [← same] at known
    rw [answer, find_of_known known]
    rfl
  · have known := files_after_register identity registered later
    rw [answer, registerFile_of_known identity' known]
    rfl

end World

section Sample

/-- A path at which a file comes late. -/
def latePath : Path :=
  Path.ofString "late.php"

/-- The file of the class is removed, and one that was missing is written. -/
def sampleChanges : List Event :=
  [.remove (Path.ofString "src/D.php"), .call (.findClass "E"),
    .write latePath (Text.Utf8.encode loneText)]

/-- The files after the changes. -/
def changedTree : FileTree :=
  { entries := [(["src"], .directory), (["late.php"], .file (Text.Utf8.encode loneText))] }

/-- The tree is changed. -/
lemma tree_after_sampleChanges (s : Session) :
    (World.after ⟨loneClass, s⟩ sampleChanges).tree = changedTree := by
  have removed : loneClass.remove (Path.ofString "src/D.php") =
      .ok { entries := [(["src"], .directory)] } := by
    cbv
  have written : FileTree.write { entries := [(["src"], .directory)] } latePath
      (Text.Utf8.encode loneText) = .ok changedTree := by
    cbv
  simp only [World.after, sampleChanges, List.foldl_cons, List.foldl_nil, World.next, removed,
    Except.toOption, Option.getD_some, written]

/-- The class stays although its file is gone, and the late file stays empty. -/
theorem answers_stay_sampleChanges :
    (World.start loneAutoload loneClass).answer (find "D") =
        .ok (some { name := "D", kind := .class, path := some (Path.ofString "src/D.php") }) ∧
      ((World.start loneAutoload loneClass).after (.call (.find "D") :: sampleChanges)).answer
          (find "\\d") =
        .ok (some { name := "D", kind := .class, path := some (Path.ofString "src/D.php") }) ∧
      (World.start loneAutoload loneClass).answer (registerFile latePath) = .ok [] ∧
      ((World.start loneAutoload loneClass).after
          (.call (.register latePath) :: sampleChanges)).answer
        (registerFile (Path.ofString "src/../late.php")) = .ok [] := by
  obtain ⟨classes, files, -⟩ := World.answers_stay loneAutoload loneClass [] sampleChanges
  obtain ⟨s, run⟩ := find_fresh loneClass loneAutoload "D"
  rw [search_loneClass] at run
  have found := congrArg answerOf run
  have registered : (World.start loneAutoload loneClass).answer (registerFile latePath) =
      .ok [] := by
    cbv
  have identity : loneClass.identity latePath = .ok { slashes := 1, parts := ["late.php"] } := by
    cbv
  have identity' : changedTree.identity (Path.ofString "src/../late.php") =
      .ok { slashes := 1, parts := ["late.php"] } := by
    cbv
  refine ⟨found, classes "D" _ found "\\d" (by decide), registered,
    files latePath _ [] identity registered _ ?_⟩
  exact (congrArg (FileTree.identity · _) (tree_after_sampleChanges _)).trans identity'

end Sample

end Audit
end RouteAudit
