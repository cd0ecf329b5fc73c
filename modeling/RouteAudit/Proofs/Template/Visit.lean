import RouteAudit.Proofs.Files.Clean
import RouteAudit.Proofs.Session
import RouteAudit.Template.Scan

/-!
# Visiting templates

A visit of the templates below some roots takes them in order, adds what is in those that can be
read, and stops at the first obstacle (`gatherTemplates_answers`).  An obstacle is a root whose name
is too long, or a template whose path no file can have.
-/

namespace RouteAudit

namespace FileTree

/-- The references in a template. -/
def references (tree : FileTree) (path : Path) : Except FileFault (List Reference) := do
  let real ← tree.realPath true path
  return Reference.extract real.toString (← tree.read real)

/-- The templates at or below a root. -/
def templatesBelow (tree : FileTree) (ending : String) (root : Path) : List Path :=
  (tree.filesBelow [] root).filter (Text.endsWith ·.name ending)

/-- The templates below the given roots, in the order of the visit. -/
def templates (tree : FileTree) (ending : String) (roots : List Path) : List Path :=
  roots.flatMap (tree.templatesBelow ending)

/-- The references of each template that can be read. -/
def readable (tree : FileTree) (ending : String) (roots : List Path) : List (List Reference) :=
  (tree.templates ending roots).filterMap fun path => (tree.references path).toOption

/-- A visit of the templates below the given roots comes to its end. -/
structure Open (tree : FileTree) (ending : String) (roots : List Path) : Prop where
  short : ∀ root ∈ roots, tree.locate root ≠ .error .nameTooLong
  valid : ∀ path ∈ tree.templates ending roots, tree.references path ≠ .error .invalidPath

/-! ## Obstacles -/

/-- What is in the way of a template: a path that no file can have. -/
def obstacleAt (tree : FileTree) (path : Path) : List FileFault :=
  if tree.references path = .error .invalidPath then [.invalidPath] else []

/-- What would stop a visit below a root, in order. -/
def obstaclesBelow (tree : FileTree) (ending : String) (root : Path) : List FileFault :=
  if tree.locate root = .error .nameTooLong then [.nameTooLong]
  else (tree.templatesBelow ending root).flatMap tree.obstacleAt

/-- What would stop a visit below the given roots, in order. -/
def obstacles (tree : FileTree) (ending : String) (roots : List Path) : List FileFault :=
  roots.flatMap (tree.obstaclesBelow ending)

variable {tree : FileTree} {ending : String}

/-- Nothing is in the way of a template if its path can be one. -/
lemma obstacleAt_eq_nil {path : Path} :
    tree.obstacleAt path = [] ↔ tree.references path ≠ .error .invalidPath := by
  rw [obstacleAt]
  split
  · next h => simp [h]
  · next h => simp [h]

/-- A root is a directory, or no directory and thus without files, or too long. -/
lemma isDirectory_cases (tree : FileTree) (root : Path) :
    (tree.isDirectory root = .ok true ∧ tree.locate root ≠ .error .nameTooLong) ∨
    (tree.isDirectory root = .ok false ∧ tree.locate root ≠ .error .nameTooLong ∧
      ∀ skipped, tree.filesBelow skipped root = []) ∨
    (tree.isDirectory root = .error .nameTooLong ∧ tree.locate root = .error .nameTooLong) := by
  simp only [isDirectory, filesBelow]
  cases tree.locate root with
  | ok found =>
    obtain ⟨names, node⟩ := found
    cases node <;> simp
  | error fault => cases fault <;> simp [FileFault.isAbsence]

/-- Nothing is in the way below a root that is not too long, if nothing is in the way of its
templates. -/
lemma obstaclesBelow_eq_nil {root : Path} :
    tree.obstaclesBelow ending root = [] ↔ tree.locate root ≠ .error .nameTooLong ∧
      ∀ path ∈ tree.templatesBelow ending root, tree.references path ≠ .error .invalidPath := by
  rw [obstaclesBelow]
  split
  · next h => simp [h]
  · next h => simp [h, obstacleAt_eq_nil]

/-- A visit comes to its end if nothing stops it. -/
lemma obstacles_eq_nil {roots : List Path} :
    tree.obstacles ending roots = [] ↔ tree.Open ending roots := by
  rw [obstacles, List.flatMap_eq_nil_iff]
  simp only [obstaclesBelow_eq_nil]
  constructor
  · intro h
    refine ⟨fun root hroot => (h root hroot).1, fun path hpath => ?_⟩
    obtain ⟨root, hroot, hbelow⟩ := List.mem_flatMap.1 hpath
    exact (h root hroot).2 path hbelow
  · intro h root hroot
    exact ⟨h.short root hroot,
      fun path hpath => h.valid path (List.mem_flatMap.2 ⟨root, hroot, hpath⟩)⟩

/-- A template whose references cannot be told has bytes that cannot be read. -/
lemma read_of_references {path : Path} {fault : FileFault}
    (h : tree.references path = .error fault) :
    (tree.realPath true path >>= tree.read) = .error fault := by
  rw [references] at h
  cases hreal : tree.realPath true path with
  | error e =>
    rw [hreal] at h
    cases h
    rfl
  | ok real =>
    rw [hreal] at h
    show tree.read real = _
    cases hread : tree.read real with
    | error e =>
      simp only [hread, bind, Except.bind] at h
      cases h
      rfl
    | ok content =>
      simp only [hread, bind, Except.bind] at h
      cases h

/-- In a tree of files as they are, only a root that is too long stops a visit. -/
theorem open_iff (h : tree.Clean) {roots : List Path} :
    tree.Open ending roots ↔ ∀ root ∈ roots, tree.locate root ≠ .error .nameTooLong := by
  refine ⟨Open.short, fun short => ⟨short, fun path hpath invalid => ?_⟩⟩
  obtain ⟨root, -, hbelow⟩ := List.mem_flatMap.1 hpath
  have clean := filesBelow_clean h [] root path (List.mem_filter.1 hbelow).1
  exact read_realPath_ne_invalidPath h clean (read_of_references invalid)

/-- In a tree of files as they are, what stops a visit is a root that is too long. -/
lemma long_of_mem_obstacles (h : tree.Clean) {roots : List Path} {fault : FileFault}
    (hfault : fault ∈ tree.obstacles ending roots) :
    fault = .nameTooLong ∧ ∃ root ∈ roots, tree.locate root = .error .nameTooLong := by
  obtain ⟨root, hroot, hbelow⟩ := List.mem_flatMap.1 hfault
  rw [obstaclesBelow] at hbelow
  split at hbelow
  · next long => exact ⟨List.mem_singleton.1 hbelow, root, hroot, long⟩
  · next short =>
    have visit : tree.Open ending [root] := (open_iff h).2 (List.forall_mem_singleton.2 short)
    rw [← obstacles_eq_nil, obstacles, List.flatMap_singleton, obstaclesBelow,
      if_neg short] at visit
    rw [visit] at hbelow
    cases hbelow

end FileTree

namespace Audit

variable {α : Type} {tree : FileTree} {ending : String}

/-- The answer of a visit: what was gathered, or the first obstacle. -/
def past (obstacles : List FileFault) (a : α) : Except Fault α :=
  match obstacles with
  | [] => .ok a
  | fault :: _ => .error (.file fault)

/-- Where nothing stops the first of two activities, the second starts from what it gathered. -/
lemma Answers.past_bind {β : Type} {x : Audit α} {f : α → Audit β} {front back : List FileFault}
    {a : α} {b : β} (hx : Answers tree x (past front a)) (hf : Answers tree (f a) (past back b)) :
    Answers tree (x >>= f) (past (front ++ back) b) := by
  cases front with
  | nil => exact hx.ok_bind hf
  | cons fault front => exact hx.error_bind f

/-- What is made of an answer past some obstacles is made past the same. -/
lemma Answers.past_map {β : Type} {x : Audit α} {obstacles : List FileFault} {a : α}
    (hx : Answers tree x (past obstacles a)) (f : α → β) :
    Answers tree (x >>= fun a => return f a) (past obstacles (f a)) := by
  have last : Answers tree (return f a) (past [] (f a)) := Answers.pure (f a)
  rw [← List.append_nil obstacles]
  exact hx.past_bind last

/-- Both ways to a fault, at the real path and at the bytes, are treated alike. -/
lemma references?_eq (path : Path) :
    references? path = do
      let tree ← read
      match tree.references path with
      | .ok references => return some references
      | .error .invalidPath => throw (.file .invalidPath)
      | .error fault =>
        note (.templateUnreadable path (.file fault))
        return none :=
  rfl

/-- A template is read past what is in its way. -/
lemma references?_answers (path : Path) :
    Answers tree (references? path)
      (past (tree.obstacleAt path) (tree.references path).toOption) := by
  rw [references?_eq]
  refine Answers.read.ok_bind ?_
  rw [FileTree.obstacleAt]
  cases tree.references path with
  | ok references => exact Answers.pure _
  | error fault =>
    cases fault with
    | invalidPath => exact Answers.throw _
    | _ => exact (Answers.note _).ok_bind (Answers.pure _)

/-- The templates in a list are visited one after the other. -/
lemma visit_answers (add : α → Option (List Reference) → α) (before : α) (paths : List Path) :
    Answers tree (paths.foldlM (fun a path => return add a (← references? path)) before)
      (past (paths.flatMap tree.obstacleAt)
        ((paths.map fun path => (tree.references path).toOption).foldl add before)) := by
  induction paths generalizing before with
  | nil => exact Answers.pure before
  | cons path paths ih =>
    rw [List.foldlM_cons, bind_assoc, List.flatMap_cons, List.map_cons, List.foldl_cons]
    refine (references?_answers path).past_bind ?_
    rw [pure_bind]
    exact ih _

/-- A root that is no directory has no templates, and one that is too long stops the visit. -/
lemma templatesBelow_answers (tree : FileTree) (ending : String) (root : Path) :
    Answers tree (templatesBelow ending root)
      (past (if tree.locate root = .error .nameTooLong then [.nameTooLong] else [])
        (tree.templatesBelow ending root)) := by
  refine Answers.read.ok_bind ?_
  rcases tree.isDirectory_cases root with ⟨h, hlocate⟩ | ⟨h, hlocate, hnone⟩ | ⟨h, hlocate⟩
  · rw [h, if_neg hlocate]
    exact (Answers.ofAccess (.ok true)).ok_bind (Answers.pure _)
  · rw [h, if_neg hlocate, FileTree.templatesBelow, hnone []]
    exact (Answers.ofAccess (.ok false)).ok_bind ((Answers.note _).ok_bind (Answers.pure []))
  · rw [h, if_pos hlocate]
    exact (Answers.ofAccess (.error .nameTooLong)).error_bind _

/-- A visit gathers what is in the templates that can be read, or stops at the first obstacle. -/
theorem gatherTemplates_answers (tree : FileTree) (ending : String)
    (add : α → Option (List Reference) → α) (before : α) (roots : List Path) :
    Answers tree (gatherTemplates ending add before roots)
      (past (tree.obstacles ending roots)
        (((tree.templates ending roots).map fun path => (tree.references path).toOption).foldl add
          before)) := by
  induction roots generalizing before with
  | nil => exact Answers.pure before
  | cons root roots ih =>
    rw [gatherTemplates, FileTree.templates, FileTree.obstacles, List.flatMap_cons,
      List.flatMap_cons, List.map_append, List.foldl_append, FileTree.obstaclesBelow]
    have below := templatesBelow_answers tree ending root
    by_cases h : tree.locate root = .error .nameTooLong
    · rw [if_pos h] at below ⊢
      exact below.error_bind _
    · rw [if_neg h] at below ⊢
      refine below.ok_bind ?_
      exact (visit_answers add before _).past_bind (ih _)

end Audit

end RouteAudit
