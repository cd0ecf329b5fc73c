import RouteAudit.Project.Controllers
import RouteAudit.Proofs.DeclaredClasses

/-!
# Gathering the classes of files

All files at or below some roots are registered, one after the other, and the names of the classes
in them are told (`classesBelow_run`).  A session that began with nothing knows just these classes
then (`Gathered.knowsJust`).

There is one proviso.  A link may be told to be a file that it does not lead to.  If the link is
registered first, the classes of that file are missing; so no path may be told to be a file with
classes unless it can be read (`FileTree.Faithful`).
-/

namespace RouteAudit
open Source (Declaration)

namespace FileTree

/-- The PHP files at or below a path. -/
def phpFiles (tree : FileTree) (root : Path) : List Path :=
  match tree.isFile root with
  | .ok true => if root.extension = ".php" then [root] else []
  | _ => (tree.filesBelow Audit.skippedDirectories root).filter (Text.endsWith ·.name ".php")

/-- The PHP files at or below the given paths. -/
def sources (tree : FileTree) (roots : List Path) : List Path :=
  roots.flatMap tree.phpFiles

/-- A path that cannot be read is told to be no file that declares a class. -/
def Faithful (tree : FileTree) (paths : List Path) : Prop :=
  ∀ p ∈ paths, ∀ q ∈ paths, tree.identity p = tree.identity q →
    ∀ fault, tree.read p = .error fault → tree.declared q = []

variable {tree : FileTree} {paths : List Path} {p q root : Path}

/-- The files below some roots are those below the first and those below the others. -/
lemma sources_cons (root : Path) (roots : List Path) :
    tree.sources (root :: roots) = tree.phpFiles root ++ tree.sources roots :=
  List.flatMap_cons

/-- A file that cannot be read declares nothing. -/
lemma declared_of_error {fault : FileFault} (h : tree.read p = .error fault) :
    tree.declared p = [] := by
  rw [declared, h]

/-- What is told to be one file declares the same. -/
lemma Faithful.declared_congr (h : tree.Faithful paths) (hp : p ∈ paths) (hq : q ∈ paths)
    (same : tree.identity p = tree.identity q) :
    (tree.declared p).map Declaration.withoutPath =
      (tree.declared q).map Declaration.withoutPath := by
  cases hread : tree.read p with
  | error fault => rw [declared_of_error hread, h p hp q hq same fault hread]
  | ok bytes =>
    cases hread' : tree.read q with
    | error fault => rw [declared_of_error hread', h q hq p hp same.symm fault hread']
    | ok bytes' => exact FileTree.declared_congr hread hread' same

/-- The files below a root hold no null character in their paths. -/
lemma clean_of_mem_phpFiles (clean : tree.Clean) : ∀ p ∈ tree.phpFiles root, p.Clean := by
  intro p hp
  rw [phpFiles] at hp
  split at hp
  · next hfile =>
    obtain ⟨bytes, hread⟩ := read_of_isFile hfile
    split at hp
    · obtain rfl := List.mem_singleton.1 hp
      exact clean_of_read hread
    · cases hp
  · exact filesBelow_clean clean _ root p (List.mem_filter.1 hp).1

/-- Below a root that is too long there are no files. -/
lemma phpFiles_of_long (long : tree.locate root = .error .nameTooLong) :
    tree.phpFiles root = [] := by
  simp [phpFiles, isFile, filesBelow, long, FileFault.isAbsence]

end FileTree

namespace Audit

variable {tree : FileTree} {paths : List Path} {p root : Path} {s s' s₁ : Session}

/-! ## Registering files -/

/-- A table knows only classes of some files, and of the files that it remembers all classes. -/
structure Gathered (tree : FileTree) (paths : List Path) (table : ClassTable) : Prop where
  knows : Knows (.ofAutoload []) Declaration.Sound table
  declared : ∀ key d, table.get? key = some d → tree.Declares paths d.withoutPath
  remembers : ∀ file ds, table.files.get? file = some ds → ∀ p ∈ paths,
    tree.identity p = .ok file →
      ds.map Declaration.withoutPath = (tree.declared p).map Declaration.withoutPath
  complete : ∀ file ds, table.files.get? file = some ds → ∀ d ∈ ds, table.get? d.key ≠ none

namespace Gathered

/-- Nothing is gathered at the start. -/
lemma start : Gathered tree paths (fresh []).classes where
  knows := ⟨rfl, List.forall_mem_nil _, List.forall_mem_nil _⟩
  declared _ _ h := nomatch h
  remembers _ _ h := nomatch h
  complete _ _ h := nomatch h

/-- A file is gathered with the classes that it declares. -/
lemma record {table : ClassTable} (h : Gathered tree paths table) (faithful : tree.Faithful paths)
    (hp : p ∈ paths) {file : Path} (hid : tree.identity p = .ok file) :
    Gathered tree paths (table.record file (tree.declared p)) where
  knows := by
    refine h.knows.record file fun d hd => ?_
    obtain ⟨bytes, hread⟩ := FileTree.read_of_declared hd
    rw [FileTree.declared_of_read hread] at hd
    exact Declaration.sound_of_mem_parse hd
  declared key d hd := by
    rw [ClassTable.get?_record] at hd
    rcases Option.or_eq_some_iff.1 hd with hd | ⟨-, hd⟩
    · exact h.declared key d hd
    · exact ⟨p, hp, d, (Declaration.mem_of_first? hd).1, rfl⟩
  remembers file' ds hds q hq hid' := by
    by_cases hfile : file' = file
    · subst hfile
      rw [ClassTable.record, Assoc.get?_insert_self] at hds
      cases hds
      exact faithful.declared_congr hp hq (hid.trans hid'.symm)
    · rw [ClassTable.record, Assoc.get?_insert_of_ne hfile] at hds
      exact h.remembers file' ds hds q hq hid'
  complete file' ds hds d hd := by
    rw [ClassTable.get?_record]
    intro hnone
    obtain ⟨hold, hnew⟩ := Option.or_eq_none_iff.1 hnone
    by_cases hfile : file' = file
    · subst hfile
      rw [ClassTable.record, Assoc.get?_insert_self] at hds
      cases hds
      exact Declaration.first?_eq_none.1 hnew d hd rfl
    · rw [ClassTable.record, Assoc.get?_insert_of_ne hfile] at hds
      exact h.complete file' ds hds d hd hold

/-- Registering a file answers what it declares, whether it was registered before or cannot be
read. -/
lemma registerFile (h : Gathered tree paths s.classes) (faithful : tree.Faithful paths)
    (hp : p ∈ paths) (clean : p.Clean) :
    ∃ ds s', Audit.registerFile p tree s = .ok ds s' ∧ Gathered tree paths s'.classes ∧
      ds.map Declaration.withoutPath = (tree.declared p).map Declaration.withoutPath := by
  obtain ⟨file, hid⟩ : ∃ file, tree.identity p = .ok file := FileTree.exists_identity clean
  rw [registerFile_eq, hid]
  cases hfile : s.classes.files.get? file with
  | some ds =>
    simp only [hfile]
    exact ⟨ds, s, rfl, h, h.remembers file ds hfile p hp hid⟩
  | none =>
    have recorded := h.record faithful hp hid
    simp only [hfile]
    cases hread : tree.read p with
    | error fault =>
      rw [FileTree.declared_of_error hread] at recorded ⊢
      exact ⟨[], _, rfl, recorded, rfl⟩
    | ok bytes =>
      rw [FileTree.declared_of_read hread] at recorded ⊢
      exact ⟨_, _, rfl, recorded, rfl⟩

/-- Where all files are remembered, all classes are known. -/
lemma knowsJust (h : Gathered tree paths s.classes) (distinct : tree.Distinct paths)
    (files : ∀ p ∈ paths, ∃ file ds, tree.identity p = .ok file ∧
      s.classes.files.get? file = some ds) : KnowsJust tree paths s where
  knows := h.knows
  declared := h.declared
  all d hd := by
    obtain ⟨p, hp, e, he, rfl⟩ := hd
    obtain ⟨file, ds, hid, hds⟩ := files p hp
    have remembered : e.withoutPath ∈ ds.map Declaration.withoutPath :=
      h.remembers file ds hds p hp hid ▸ List.mem_map_of_mem he
    obtain ⟨e', he', heq⟩ := List.mem_map.1 remembered
    have key : e'.key = e.key :=
      (congrArg Declaration.key heq : e'.withoutPath.key = e.withoutPath.key)
    obtain ⟨f, known⟩ := Option.ne_none_iff_exists'.1 (h.complete file ds hds e' he')
    refine ⟨f, key ▸ known, ?_⟩
    exact distinct.unique (h.declared _ _ known) ⟨p, hp, e, he, rfl⟩
      ((ClassTable.key_of_get? known).trans key)

end Gathered

/-- Some files are registered, and the names of the classes in them were told. -/
structure Registered (tree : FileTree) (paths : List Path) (names : List String)
    (s s' : Session) : Prop where
  keeps : s.classes.Keeps s'.classes
  files : ∀ p ∈ paths, ∃ file ds, tree.identity p = .ok file ∧
    s'.classes.files.get? file = some ds
  names : ∀ name, name ∈ names ↔ ∃ d, tree.Declares paths d ∧ d.kind = .class ∧ d.name = name

namespace Registered

/-- No files are registered without a change. -/
lemma nil (s : Session) : Registered tree [] [] s s where
  keeps := .refl _
  files := List.forall_mem_nil _
  names name := by
    constructor
    · intro h
      cases h
    · rintro ⟨d, ⟨p, hp, -⟩, -⟩
      cases hp

/-- A file is registered with what was answered for it. -/
lemma single {ds : List Declaration} (clean : p.Clean)
    (run : registerFile p tree s = .ok ds s')
    (answer : ds.map Declaration.withoutPath = (tree.declared p).map Declaration.withoutPath) :
    Registered tree [p] ((ds.filter fun d => d.kind = .class).map (·.name)) s s' where
  keeps := by
    have keeps : s.classes.Keeps (sessionOf (registerFile p tree s)).classes :=
      keeps_registerFile p s
    rwa [run] at keeps
  files q hq := by
    obtain rfl := List.mem_singleton.1 hq
    obtain ⟨file, hid⟩ : ∃ file, tree.identity q = .ok file := FileTree.exists_identity clean
    exact ⟨file, ds, hid, known_of_registerFile hid run⟩
  names name := by
    constructor
    · intro h
      obtain ⟨d, hd, rfl⟩ := List.mem_map.1 h
      obtain ⟨hd, hkind⟩ := List.mem_filter.1 hd
      have here : d.withoutPath ∈ (tree.declared p).map Declaration.withoutPath :=
        answer ▸ List.mem_map_of_mem hd
      obtain ⟨e, he, same⟩ := List.mem_map.1 here
      exact ⟨d.withoutPath, ⟨p, List.mem_singleton_self p, e, he, same⟩, of_decide_eq_true hkind,
        rfl⟩
    · rintro ⟨-, ⟨q, hq, e, he, rfl⟩, hkind, rfl⟩
      obtain rfl := List.mem_singleton.1 hq
      have told : e.withoutPath ∈ ds.map Declaration.withoutPath :=
        answer ▸ List.mem_map_of_mem he
      obtain ⟨d, hd, same⟩ := List.mem_map.1 told
      have kind : d.kind = .class := (congrArg Declaration.kind same).trans hkind
      have name : d.name = e.name := congrArg (·.name) same
      exact List.mem_map.2 ⟨d, List.mem_filter.2 ⟨hd, decide_eq_true kind⟩, name⟩

/-- Files are registered one after the other. -/
lemma append {more : List Path} {names names' : List String}
    (h : Registered tree paths names s s₁) (h' : Registered tree more names' s₁ s') :
    Registered tree (paths ++ more) (names ++ names') s s' where
  keeps := h.keeps.trans h'.keeps
  files q hq := by
    rcases List.mem_append.1 hq with hq | hq
    · obtain ⟨file, ds, hid, known⟩ := h.files q hq
      exact ⟨file, ds, hid, h'.keeps.files _ _ known⟩
    · exact h'.files q hq
  names name := by
    simp only [List.mem_append, h.names, h'.names, FileTree.Declares, or_and_right, exists_or]

end Registered

/-! ## All files -/

/-- The files below a root that is not too long are listed. -/
lemma phpFiles_of_short (short : tree.locate root ≠ .error .nameTooLong) (s : Session) :
    phpFiles root tree s = .ok (tree.phpFiles root) s := by
  rw [phpFiles, run_bind_of_ok (run_read s), FileTree.phpFiles]
  rcases tree.isFile_cases root with ⟨_ | _, h, -⟩ | ⟨-, long⟩
  · have noFile : ofAccess (tree.isFile root) tree s = .ok false s := by
      rw [h, run_ofAccess]
      rfl
    rw [run_bind_of_ok noFile, if_neg Bool.false_ne_true, h]
    rcases tree.isDirectory_cases root with ⟨hdir, -⟩ | ⟨hdir, -, hnone⟩ | ⟨-, long⟩
    · rw [hdir]
      rfl
    · rw [hdir, hnone]
      rfl
    · exact absurd long short
  · rw [h]
    rfl
  · exact absurd long short

/-- A root that is too long ends the listing. -/
lemma phpFiles_of_long (long : tree.locate root = .error .nameTooLong) (s : Session) :
    phpFiles root tree s = .error (.file .nameTooLong) s := by
  rw [phpFiles, run_bind_of_ok (run_read s)]
  rcases tree.isFile_cases root with ⟨_, -, short⟩ | ⟨h, -⟩
  · exact absurd long short
  · rw [h]
    rfl

/-- All of some files are registered. -/
lemma declaredClasses_run (faithful : tree.Faithful paths) {more : List Path}
    (hmore : ∀ p ∈ more, p ∈ paths ∧ p.Clean) (h : Gathered tree paths s.classes) :
    ∃ names s', declaredClasses more tree s = .ok names s' ∧ Gathered tree paths s'.classes ∧
      Registered tree more names s s' := by
  induction more generalizing s with
  | nil => exact ⟨[], s, rfl, h, .nil s⟩
  | cons p more ih =>
    obtain ⟨⟨hp, clean⟩, hmore⟩ := List.forall_mem_cons.1 hmore
    obtain ⟨ds, s₁, run, gathered, answer⟩ := h.registerFile faithful hp clean
    obtain ⟨names, s', rest, gathered', registered⟩ := ih hmore gathered
    refine ⟨_, s', ?_, gathered', (Registered.single clean run answer).append registered⟩
    rw [declaredClasses, run_bind_of_ok run, run_bind_of_ok rest]
    rfl

/-- Below a root that is not too long all files are registered, and then comes what is below the
other roots. -/
lemma classesBelow_cons (clean : tree.Clean) (faithful : tree.Faithful paths)
    (here : ∀ p ∈ tree.phpFiles root, p ∈ paths)
    (short : tree.locate root ≠ .error .nameTooLong) (h : Gathered tree paths s.classes) :
    ∃ names s₁, Gathered tree paths s₁.classes ∧ Registered tree (tree.phpFiles root) names s s₁ ∧
      ∀ roots, classesBelow (root :: roots) tree s =
        (do return names ++ (← classesBelow roots) : Audit _) tree s₁ := by
  obtain ⟨names, s₁, run, gathered, registered⟩ := declaredClasses_run faithful
    (fun p hp => ⟨here p hp, FileTree.clean_of_mem_phpFiles clean p hp⟩) h
  refine ⟨names, s₁, gathered, registered, fun roots => ?_⟩
  rw [classesBelow, run_bind_of_ok (phpFiles_of_short short s), run_bind_of_ok run]

/-- Where no root is too long, all files are registered. -/
lemma classesBelow_run (clean : tree.Clean) (faithful : tree.Faithful paths) {roots : List Path}
    (sources : ∀ p ∈ tree.sources roots, p ∈ paths)
    (short : ∀ root ∈ roots, tree.locate root ≠ .error .nameTooLong)
    (h : Gathered tree paths s.classes) :
    ∃ names s', classesBelow roots tree s = .ok names s' ∧ Gathered tree paths s'.classes ∧
      Registered tree (tree.sources roots) names s s' := by
  induction roots generalizing s with
  | nil => exact ⟨[], s, rfl, h, .nil s⟩
  | cons root roots ih =>
    obtain ⟨hroot, hroots⟩ := List.forall_mem_cons.1 short
    obtain ⟨here, below⟩ := List.forall_mem_append.1 (FileTree.sources_cons root roots ▸ sources)
    obtain ⟨names, s₁, gathered, registered, step⟩ :=
      classesBelow_cons clean faithful here hroot h
    obtain ⟨names', s', rest, gathered', registered'⟩ := ih below hroots gathered
    refine ⟨names ++ names', s', ?_, gathered', registered.append registered'⟩
    rw [step, run_bind_of_ok rest]
    rfl

/-- A root that is too long ends the run, wherever it stands. -/
lemma classesBelow_of_long (clean : tree.Clean) (faithful : tree.Faithful paths)
    {roots : List Path} (sources : ∀ p ∈ tree.sources roots, p ∈ paths) (hroot : root ∈ roots)
    (long : tree.locate root = .error .nameTooLong) (h : Gathered tree paths s.classes) :
    ∃ s', classesBelow roots tree s = .error (.file .nameTooLong) s' := by
  induction roots generalizing s with
  | nil => cases hroot
  | cons first roots ih =>
    by_cases hfirst : tree.locate first = .error .nameTooLong
    · rw [classesBelow, run_bind, phpFiles_of_long hfirst]
      exact ⟨s, rfl⟩
    · obtain ⟨here, below⟩ := List.forall_mem_append.1 (FileTree.sources_cons first roots ▸ sources)
      obtain ⟨names, s₁, gathered, -, step⟩ := classesBelow_cons clean faithful here hfirst h
      have later : root ∈ roots := by
        rcases List.mem_cons.1 hroot with rfl | hroot
        · exact absurd long hfirst
        · exact hroot
      obtain ⟨s', rest⟩ := ih below later gathered
      refine ⟨s', ?_⟩
      rw [step, run_bind, rest]

end Audit
end RouteAudit
