import RouteAudit.Proofs.ClassSearch
import RouteAudit.Proofs.Source.Grammar.ClassFile

/-!
# What earlier look-ups leave behind

A session remembers each file that it was asked to read, also one that could not be read.  As long
as the classes that it knows are those that the remembered files declare (`Consistent`), a search
for an unknown class goes the way that it goes in a fresh session (`findIn_search`).  So where each
class stands in the file in which a fresh session looks for it, the answer does not depend on what
was looked up before (`find_after`).

A path may lead to no file and still be told to be one: `nowhere/../A.php` is told to be `A.php`.
Once it was registered, the classes of that file are never found (`find_after_missing`).
-/

namespace RouteAudit
open Source (Declaration)

namespace FileTree

/-- The declarations of a file, none if it cannot be read. -/
def declared (tree : FileTree) (p : Path) : List Declaration :=
  match tree.read p with
  | .ok bytes => Declaration.parse (some p) (sourceText bytes)
  | .error _ => []

variable {tree : FileTree} {p q : Path} {bytes : List UInt8}

/-- A file that can be read declares what its text says. -/
lemma declared_of_read (h : tree.read p = .ok bytes) :
    tree.declared p = Declaration.parse (some p) (sourceText bytes) := by
  rw [declared, h]

/-- A file that declares a class can be read. -/
lemma read_of_declared {d : Declaration} (h : d ∈ tree.declared p) :
    ∃ bytes, tree.read p = .ok bytes := by
  rw [declared] at h
  cases hread : tree.read p with
  | ok bytes => exact ⟨bytes, rfl⟩
  | error fault =>
    rw [hread] at h
    cases h

end FileTree

namespace Source.Declaration

/-- A declaration without the path of its file. -/
def withoutPath (d : Declaration) : Declaration :=
  { d with path := none }

/-- The first of some declarations with a key. -/
def first? (key : String) (declarations : List Declaration) : Option Declaration :=
  declarations.find? fun d => d.key = key

/-- The first declaration with its own key is the first of all. -/
lemma first?_cons_self (d : Declaration) (declarations : List Declaration) :
    first? d.key (d :: declarations) = some d :=
  List.find?_cons_of_pos (decide_eq_true rfl)

/-- A declaration with another key is passed over. -/
lemma first?_cons_of_ne {key : String} {d : Declaration} (h : d.key ≠ key)
    (declarations : List Declaration) :
    first? key (d :: declarations) = first? key declarations :=
  List.find?_cons_of_neg (by simp [h])

/-- There is no first declaration with a key if none has it. -/
lemma first?_eq_none {key : String} {declarations : List Declaration} :
    first? key declarations = none ↔ ∀ d ∈ declarations, d.key ≠ key := by
  simp [first?]

/-- The first declaration with a key is one of them and has it. -/
lemma mem_of_first? {key : String} {declarations : List Declaration} {d : Declaration}
    (h : first? key declarations = some d) : d ∈ declarations ∧ d.key = key := by
  have hkey := List.find?_some h
  exact ⟨List.mem_of_find?_eq_some h, of_decide_eq_true hkey⟩

/-- The path of a text has no part in which declaration is the first. -/
lemma first?_parse (key : String) (path : Option Path) (source : List Char) :
    (first? key (parse path source)).map withoutPath = first? key (parse none source) := by
  rw [first?, first?, parse, parse, List.find?_map, List.find?_map, Option.map_map]
  rfl

end Source.Declaration

namespace ClassTable

/-- Of two classes with one key the one that was known before counts. -/
lemma get?_foldl_addClass (key : String) (classes : Assoc String Declaration)
    (declarations : List Declaration) :
    (declarations.foldl addClass classes).get? key =
      (classes.get? key).or (Declaration.first? key declarations) := by
  induction declarations generalizing classes with
  | nil => exact Option.or_none.symm
  | cons d declarations ih =>
    rw [List.foldl_cons, ih, addClass, Assoc.contains_eq_isSome]
    by_cases hkey : d.key = key
    · subst hkey
      rw [Declaration.first?_cons_self]
      cases hknown : classes.get? d.key with
      | some e => rw [Option.isSome_some, if_pos rfl, hknown, Option.some_or, Option.some_or]
      | none =>
        rw [Option.isSome_none, if_neg Bool.false_ne_true, Assoc.get?_insert_self, Option.some_or,
          Option.none_or]
    · rw [Declaration.first?_cons_of_ne hkey]
      split
      · rfl
      · rw [Assoc.get?_insert_of_ne (Ne.symm hkey)]

/-- With a file recorded, a class is found as before, or is the first of its name in the file. -/
lemma get?_record (table : ClassTable) (file : Path) (declarations : List Declaration)
    (key : String) :
    (table.record file declarations).get? key =
      (table.get? key).or (Declaration.first? key declarations) :=
  get?_foldl_addClass key table.classes declarations

end ClassTable

namespace Audit

/-- A session in which no class is known. -/
def fresh (autoload : Autoload) : Session :=
  { classes := .ofAutoload autoload }

/-- What the files of a kind, those that may be registered or searched, are to one another: every
class in them is found in the file that declares it, and no two names differ in letter case only. -/
structure Findable (tree : FileTree) (autoload : Autoload) (php : Path → Prop) : Prop where
  offered : ∀ name, ∀ p ∈ (ClassTable.ofAutoload autoload).candidates name, php p
  found : ∀ p, php p → ∀ d ∈ tree.declared p, ∃ e q s,
    find d.name tree (fresh autoload) = .ok (some e) s ∧ e.name = d.name ∧
      e.path = some q ∧ tree.identity q = tree.identity p
  spelled : ∀ p q, php p → php q → ∀ d ∈ tree.declared p, ∀ e ∈ tree.declared q,
    d.key = e.key → d.name = e.name

/-- A table knows only classes of files, and all classes of the files that it remembers. -/
structure Consistent (tree : FileTree) (autoload : Autoload) (php : Path → Prop)
    (table : ClassTable) : Prop where
  offers : table.autoload = (ClassTable.ofAutoload autoload).autoload
  known : ∀ key d, table.get? key = some d →
    ∃ p, php p ∧ Declaration.first? key (tree.declared p) = some d
  complete : ∀ file declarations, table.files.get? file = some declarations → ∀ p, php p →
    tree.identity p = .ok file → ∀ d ∈ tree.declared p, table.get? d.key ≠ none

variable {tree : FileTree} {autoload : Autoload} {php : Path → Prop} {s : Session} {p q : Path}

/-- The classes that are known at the start are consistent. -/
lemma consistent_fresh : Consistent tree autoload php (fresh autoload).classes where
  offers := rfl
  known _ _ h := nomatch h
  complete _ _ h := nomatch h

/-- Files that are told to be one declare the same, but for the path. -/
lemma first?_declared_congr {bytes : List UInt8} (hp : tree.read p = .ok bytes)
    {bytes' : List UInt8} (hq : tree.read q = .ok bytes')
    (same : tree.identity p = tree.identity q) (key : String) :
    (Declaration.first? key (tree.declared p)).map Declaration.withoutPath =
      (Declaration.first? key (tree.declared q)).map Declaration.withoutPath := by
  obtain rfl := FileTree.read_unique hp hq same
  rw [FileTree.declared_of_read hp, FileTree.declared_of_read hq, Declaration.first?_parse,
    Declaration.first?_parse]

namespace Consistent

/-- A file may be remembered with some declarations if these are the ones that it has. -/
lemma record (h : Consistent tree autoload php s.classes) {file : Path}
    {declarations : List Declaration}
    (stand : ∀ key d, Declaration.first? key declarations = some d →
      ∃ p, php p ∧ Declaration.first? key (tree.declared p) = some d)
    (all : ∀ p, php p → tree.identity p = .ok file → ∀ d ∈ tree.declared p,
      Declaration.first? d.key declarations ≠ none) :
    Consistent tree autoload php (s.classes.record file declarations) where
  offers := h.offers
  known key d hd := by
    rw [ClassTable.get?_record] at hd
    rcases Option.or_eq_some_iff.1 hd with hd | ⟨-, hd⟩
    · exact h.known key d hd
    · exact stand key d hd
  complete file' known hknown p hphp hid d hd := by
    rw [ClassTable.get?_record]
    intro hnone
    obtain ⟨hold, hnew⟩ := Option.or_eq_none_iff.1 hnone
    by_cases hfile : file' = file
    · subst hfile
      exact all p hphp hid d hd hnew
    · rw [ClassTable.record, Assoc.get?_insert_of_ne hfile] at hknown
      exact h.complete file' known hknown p hphp hid d hd hold

/-- What a remembered file declares is known. -/
lemma known_of_file (h : Consistent tree autoload php s.classes) {file : Path}
    {declarations : List Declaration} (hfile : s.classes.files.get? file = some declarations)
    (hphp : php p) (hid : tree.identity p = .ok file) (key : String) :
    s.classes.get? key = (s.classes.get? key).or (Declaration.first? key (tree.declared p)) := by
  cases hknown : s.classes.get? key with
  | some d => rfl
  | none =>
    rw [Option.none_or, eq_comm, Declaration.first?_eq_none]
    rintro d hd rfl
    exact h.complete file declarations hfile p hphp hid d hd hknown

/-- Once a file is registered, its classes are known. -/
lemma registerFile (h : Consistent tree autoload php s.classes) (hphp : php p)
    {bytes : List UInt8} (hread : tree.read p = .ok bytes) :
    ∃ declarations s', registerFile p tree s = .ok declarations s' ∧
      Consistent tree autoload php s'.classes ∧
      ∀ key, s'.classes.get? key =
        (s.classes.get? key).or (Declaration.first? key (tree.declared p)) := by
  obtain ⟨names, hid, -⟩ := FileTree.reached_of_read hread
  rw [registerFile_eq, hid]
  cases hfile : s.classes.files.get? { slashes := 1, parts := names } with
  | some known =>
    simp only [hfile]
    exact ⟨known, s, rfl, h, h.known_of_file hfile hphp hid⟩
  | none =>
    simp only [hfile, hread, ← FileTree.declared_of_read hread]
    refine ⟨_, { s with classes := s.classes.record _ (tree.declared p) }, rfl,
      h.record (fun key d hd => ⟨p, hphp, hd⟩) ?_, fun key => ?_⟩
    · intro q hq hid' d hd hnone
      -- the file under another path declares a class of the same key
      obtain ⟨bytes', hread'⟩ := FileTree.read_of_declared hd
      have same := first?_declared_congr hread' hread (hid'.trans hid.symm) d.key
      rw [hnone, Option.map_none, Option.map_eq_none_iff] at same
      exact Declaration.first?_eq_none.1 same d hd rfl
    · exact ClassTable.get?_record s.classes _ (tree.declared p) key

end Consistent

/-- A path may be registered if it leads to a file of the kind, or is not told to be one. -/
structure Registrable (tree : FileTree) (php : Path → Prop) (p : Path) : Prop where
  kind : ∀ bytes, tree.read p = .ok bytes → php p
  apart : ∀ fault, tree.read p = .error fault → ∀ q bytes, php q → tree.read q = .ok bytes →
    tree.identity p ≠ tree.identity q

/-- A registration has the answer that the files give, and keeps the classes consistent. -/
lemma Consistent.register (h : Consistent tree autoload php s.classes)
    (registrable : Registrable tree php p) :
    ∃ answer s', Audit.registerFile p tree s = finish answer s' ∧
      Consistent tree autoload php s'.classes := by
  cases hread : tree.read p with
  | ok bytes =>
    obtain ⟨declarations, s', run, h', -⟩ := h.registerFile (registrable.kind bytes hread) hread
    exact ⟨.ok declarations, s', run, h'⟩
  | error fault =>
    rw [registerFile_eq]
    cases hid : tree.identity p with
    | error fault => exact ⟨.error (.file fault), s, rfl, h⟩
    | ok file =>
      cases hfile : s.classes.files.get? file with
      | some known =>
        simp only [hfile]
        exact ⟨.ok known, s, rfl, h⟩
      | none =>
        simp only [hfile, hread]
        refine ⟨.ok [], _, rfl, h.record (fun _ _ hd => by cases hd) ?_⟩
        intro q hq hid' d hd
        obtain ⟨bytes, hread'⟩ := FileTree.read_of_declared hd
        exact absurd (hid.trans hid'.symm) (registrable.apart fault hread q bytes hq hread')

/-! ## Searches -/

/-- The class that the files at some paths declare, where the first file to do so counts. -/
def search (tree : FileTree) (key : String) : List Path → Except Fault (Option Declaration)
  | [] => .ok none
  | p :: paths =>
    match tree.isFile p with
    | .error fault => .error (.file fault)
    | .ok false => search tree key paths
    | .ok true =>
      match Declaration.first? key (tree.declared p) with
      | some d => .ok (some d)
      | none => search tree key paths

/-- A search for a class that is not known sees what the files declare, and nothing else. -/
lemma findIn_search {key : String} {paths : List Path} (hphp : ∀ p ∈ paths, php p)
    (h : Consistent tree autoload php s.classes) (unknown : s.classes.get? key = none) :
    ∃ s', findIn key paths tree s = finish (search tree key paths) s' ∧
      Consistent tree autoload php s'.classes := by
  induction paths generalizing s with
  | nil => exact ⟨s, rfl, h⟩
  | cons p paths ih =>
    obtain ⟨hp, hpaths⟩ := List.forall_mem_cons.1 hphp
    rw [findIn_cons, search]
    cases hfile : tree.isFile p with
    | error fault => exact ⟨s, rfl, h⟩
    | ok isFile =>
      cases isFile with
      | false => exact ih hpaths h unknown
      | true =>
        obtain ⟨bytes, hread⟩ := FileTree.read_of_isFile hfile
        obtain ⟨declarations, s', run, h', known⟩ := h.registerFile hp hread
        have hkey := known key
        rw [unknown, Option.none_or] at hkey
        simp only [run, hkey]
        cases hfirst : Declaration.first? key (tree.declared p) with
        | some d => exact ⟨s', rfl, h'⟩
        | none => exact ih hpaths h' (hkey.trans hfirst)

/-- What a fresh session answers. -/
def searchName (tree : FileTree) (autoload : Autoload) (name : String) :
    Except Fault (Option Declaration) :=
  search tree (Source.ClassName.key name)
    ((ClassTable.ofAutoload autoload).candidates (Source.ClassName.bare name))

/-- A class that is not known is sought among the files, and the classes stay consistent. -/
lemma find_unknown
    (offered : ∀ name, ∀ p ∈ (ClassTable.ofAutoload autoload).candidates name, php p)
    (h : Consistent tree autoload php s.classes) {name : String}
    (unknown : s.classes.get? (Source.ClassName.key name) = none) :
    ∃ s', find name tree s = finish (searchName tree autoload name) s' ∧
      Consistent tree autoload php s'.classes := by
  have hcandidates : s.classes.candidates =
      (ClassTable.ofAutoload autoload).candidates := by
    funext name
    rw [ClassTable.candidates, ClassTable.candidates, h.offers]
  rw [find, run_bind, run_get]
  simp only [unknown, hcandidates]
  exact findIn_search (offered _) h unknown

/-- In a fresh session a class is sought among the files. -/
lemma find_fresh (tree : FileTree) (autoload : Autoload) (name : String) :
    ∃ s', find name tree (fresh autoload) = finish (searchName tree autoload name) s' := by
  have consistent : Consistent tree autoload (fun _ => True) (fresh autoload).classes :=
    consistent_fresh
  have unknown : (fresh autoload).classes.get? (Source.ClassName.key name) = none := rfl
  obtain ⟨s', run, -⟩ := find_unknown (fun _ _ _ => trivial) consistent unknown
  exact ⟨s', run⟩

/-- A look-up has an answer, and keeps the classes consistent. -/
lemma Consistent.find (findable : Findable tree autoload php)
    (h : Consistent tree autoload php s.classes) (name : String) :
    ∃ answer s', Audit.find name tree s = finish answer s' ∧
      Consistent tree autoload php s'.classes := by
  cases hknown : s.classes.get? (Source.ClassName.key name) with
  | some d => exact ⟨.ok (some d), s, find_of_known hknown, h⟩
  | none =>
    obtain ⟨s', run, h'⟩ := find_unknown findable.offered h hknown
    exact ⟨_, s', run, h'⟩

/-! ## Sequences of look-ups -/

/-- What a session may be asked to do. -/
inductive Call where
  | register (path : Path)
  | find (name : String)
  | findClass (name : String)

namespace Call

/-- Does what is asked, whatever the answer. -/
def perform : Call → Audit Unit
  | register path => do
    let _ ← registerFile path
    return ()
  | find name => do
    let _ ← Audit.find name
    return ()
  | findClass name => do
    let _ ← Audit.findClass name
    return ()

/-- A call registers no path that must not be registered. -/
def Registrable (tree : FileTree) (php : Path → Prop) : Call → Prop
  | register path => Audit.Registrable tree php path
  | _ => True

end Call

variable {α : Type}

/-- The session that a run leaves, also if it ends in a fault. -/
def sessionOf : EStateM.Result Fault Session α → Session
  | .ok _ s => s
  | .error _ s => s

/-- The answer of a run, without the session. -/
def answerOf : EStateM.Result Fault Session α → Except Fault α
  | .ok a _ => .ok a
  | .error fault _ => .error fault

/-- A run that is finished leaves its session. -/
@[simp]
lemma sessionOf_finish (answer : Except Fault α) (s : Session) :
    sessionOf (finish answer s) = s := by
  cases answer <;> rfl

/-- A run that is finished gives its answer. -/
@[simp]
lemma answerOf_finish (answer : Except Fault α) (s : Session) :
    answerOf (finish answer s) = answer := by
  cases answer <;> rfl

/-- The session after some calls. -/
def after (tree : FileTree) (s : Session) (calls : List Call) : Session :=
  calls.foldl (fun s call => sessionOf (call.perform tree s)) s

/-- What a search answers, but for the path of the class. -/
def seen (tree : FileTree) (x : Audit (Option Declaration)) (s : Session) :
    Except Fault (Option Declaration) :=
  (answerOf (x tree s)).map (Option.map Declaration.withoutPath)

/-- To discard an answer leaves the same session. -/
lemma sessionOf_discard (x : Audit α) (s : Session) :
    sessionOf ((do let _ ← x; return () : Audit Unit) tree s) = sessionOf (x tree s) := by
  rw [run_bind]
  cases x tree s <;> rfl

/-- A class is found by its name, whatever the fault of a look-up. -/
lemma run_findClass (name : String) (s : Session) :
    findClass name tree s =
      match find name tree s with
      | .ok found s' => .ok (found.filter fun d => d.kind = .class) s'
      | .error fault s' => .error fault s' := by
  rw [findClass, run_bind]
  cases find name tree s <;> rfl

/-- Of two searches that answer the same, the classes that they find are the same. -/
lemma seen_findClass_congr {name : String} {s s' : Session}
    (h : seen tree (find name) s = seen tree (find name) s') :
    seen tree (findClass name) s = seen tree (findClass name) s' := by
  have filter (s : Session) : seen tree (findClass name) s =
      (seen tree (find name) s).map (Option.filter fun d => d.kind = .class) := by
    rw [seen, seen, run_findClass]
    cases find name tree s with
    | error fault s₁ => rfl
    | ok found s₁ =>
      cases found with
      | none => rfl
      | some d =>
        by_cases hkind : d.kind = .class <;>
          simp [answerOf, Except.map, Option.filter, Declaration.withoutPath, hkind]
  rw [filter, filter, h]

/-- What a call leaves behind is consistent. -/
lemma Consistent.perform (findable : Findable tree autoload php)
    (h : Consistent tree autoload php s.classes) {call : Call}
    (registrable : call.Registrable tree php) :
    Consistent tree autoload php (sessionOf (call.perform tree s)).classes := by
  cases call with
  | register path =>
    obtain ⟨answer, s', run, h'⟩ := h.register registrable
    rwa [Call.perform, sessionOf_discard, run, sessionOf_finish]
  | find name =>
    obtain ⟨answer, s', run, h'⟩ := h.find findable name
    rwa [Call.perform, sessionOf_discard, run, sessionOf_finish]
  | findClass name =>
    obtain ⟨answer, s', run, h'⟩ := h.find findable name
    rw [Call.perform, sessionOf_discard, run_findClass, run]
    cases answer <;> exact h'

/-- Calls keep the classes consistent. -/
lemma consistent_after (findable : Findable tree autoload php) {calls : List Call}
    (registrable : ∀ call ∈ calls, call.Registrable tree php)
    (h : Consistent tree autoload php s.classes) :
    Consistent tree autoload php (after tree s calls).classes := by
  induction calls generalizing s with
  | nil => exact h
  | cons call calls ih =>
    obtain ⟨hcall, hcalls⟩ := List.forall_mem_cons.1 registrable
    exact ih hcalls (h.perform findable hcall)

/-- What a search finds is declared in the file that it names. -/
lemma exists_of_search {key : String} {paths : List Path} {d : Declaration}
    (h : search tree key paths = .ok (some d)) :
    ∃ p ∈ paths, Declaration.first? key (tree.declared p) = some d := by
  induction paths with
  | nil => cases h
  | cons p paths ih =>
    have later (h : search tree key paths = .ok (some d)) :
        ∃ q ∈ p :: paths, Declaration.first? key (tree.declared q) = some d := by
      obtain ⟨q, hq, found⟩ := ih h
      exact ⟨q, List.mem_cons_of_mem _ hq, found⟩
    rw [search] at h
    split at h
    · cases h
    · exact later h
    · split at h
      · next e found =>
        cases h
        exact ⟨p, List.mem_cons_self, found⟩
      · exact later h

/-- A declaration has the path of its file. -/
lemma path_of_mem_declared {d : Declaration} (h : d ∈ tree.declared p) : d.path = some p := by
  obtain ⟨bytes, hread⟩ := FileTree.read_of_declared h
  rw [FileTree.declared_of_read hread] at h
  obtain ⟨c, -, rfl⟩ := List.mem_map.1 h
  rfl

/-- Of a class that is known, a fresh session finds the same declaration. -/
lemma searchName_known (findable : Findable tree autoload php)
    (h : Consistent tree autoload php s.classes) {name : String} {d : Declaration}
    (known : s.classes.get? (Source.ClassName.key name) = some d)
    (spelled : Source.ClassName.bare name = Source.ClassName.bare d.name) :
    ∃ e, searchName tree autoload name = .ok (some e) ∧ e.withoutPath = d.withoutPath := by
  obtain ⟨p, hphp, hfirst⟩ := h.known _ d known
  obtain ⟨hd, hkey⟩ := Declaration.mem_of_first? hfirst
  obtain ⟨e, q, s₁, run, hname, hpath, same⟩ := findable.found p hphp d hd
  obtain ⟨s₂, run'⟩ := find_fresh tree autoload d.name
  -- the search goes by the bare name only
  have hsearch : searchName tree autoload name = .ok (some e) := by
    rw [searchName, Source.ClassName.key, spelled, ← Source.ClassName.key, ← searchName]
    have := congrArg answerOf (run'.symm.trans run)
    rwa [answerOf_finish] at this
  obtain ⟨q', hq', hfirst'⟩ := exists_of_search hsearch
  obtain ⟨he, -⟩ := Declaration.mem_of_first? hfirst'
  obtain rfl : q' = q := Option.some.inj ((path_of_mem_declared he).symm.trans hpath)
  obtain ⟨bytes, hread⟩ := FileTree.read_of_declared hd
  obtain ⟨bytes', hread'⟩ := FileTree.read_of_declared he
  have congr := first?_declared_congr hread' hread same (Source.ClassName.key name)
  rw [hfirst, hfirst', Option.map_some, Option.map_some] at congr
  exact ⟨e, hsearch, Option.some.inj congr⟩

/-- **A look-up does not depend on what was looked up before.**  Let every class that a file of a
kind declares be found there by a fresh session.  Then a name that is spelled like every declaration
of that class, so also a name that no file declares in any spelling, is answered the same after any
calls that register only files of the kind, and paths that are not told to be one. -/
theorem find_after (findable : Findable tree autoload php) {calls : List Call}
    (registrable : ∀ call ∈ calls, call.Registrable tree php) {name : String}
    (spelled : ∀ p, php p → ∀ d ∈ tree.declared p, d.key = Source.ClassName.key name →
      Source.ClassName.bare name = Source.ClassName.bare d.name) :
    seen tree (find name) (after tree (fresh autoload) calls) =
        seen tree (find name) (fresh autoload) ∧
      seen tree (findClass name) (after tree (fresh autoload) calls) =
        seen tree (findClass name) (fresh autoload) := by
  have consistent := consistent_after findable registrable consistent_fresh
  obtain ⟨s₁, fresh⟩ := find_fresh tree autoload name
  have answer : seen tree (find name) (after tree (Audit.fresh autoload) calls) =
      seen tree (find name) (Audit.fresh autoload) := by
    rw [seen, seen, fresh, answerOf_finish]
    cases hknown : (after tree (Audit.fresh autoload) calls).classes.get?
        (Source.ClassName.key name) with
    | some d =>
      obtain ⟨p, hphp, hfirst⟩ := consistent.known _ d hknown
      obtain ⟨hd, hkey⟩ := Declaration.mem_of_first? hfirst
      obtain ⟨e, hsearch, same⟩ :=
        searchName_known findable consistent hknown (spelled p hphp d hd hkey)
      rw [find_of_known hknown, hsearch]
      simp [answerOf, Except.map, same]
    | none =>
      obtain ⟨s₂, run, -⟩ := find_unknown findable.offered consistent hknown
      rw [run, answerOf_finish]
  exact ⟨answer, seen_findClass_congr answer⟩

section Sample

open Source.Grammar

/-- A class without anything. -/
def loneDecl : ClassDecl where
  marks := []
  kind := .class
  keyword := ⟨⟨"Class", by decide⟩, by decide⟩
  name := ⟨"D", by decide⟩
  isSimple := by decide
  ancestry := .root
  interfaces? := none
  members := []

/-- A file with just this class. -/
def loneFile : ClassFile where
  front := [.class loneDecl]
  spaces := []

/-- The text of the file, with a capital in its keyword. -/
def loneText : String :=
  "<?php Class D \x7b \x7d "

/-- The text is the source of the file. -/
lemma source_loneFile : loneFile.source = loneText.toList := by
  decide

/-- A tree with one class. -/
def loneClass : FileTree :=
  { entries := [(["src"], .directory), (["src", "D.php"], .file (Text.Utf8.encode loneText))] }

/-- The places of classes: all are sought in one directory. -/
def loneAutoload : Autoload :=
  [("", ["src"])]

/-- The text declares the class. -/
lemma parse_loneText (path : Path) :
    Declaration.parse (some path) (sourceText (Text.Utf8.encode loneText)) =
      [{ name := "D", kind := .class, path := some path }] := by
  have hsource : sourceText (Text.Utf8.encode loneText) = loneText.toList := by
    cbv
  rw [hsource, ← source_loneFile, Declaration.parse, texts_classFile]
  rfl

/-- The file can be read. -/
lemma read_lonePath :
    loneClass.read (Path.ofString "src/D.php") = .ok (Text.Utf8.encode loneText) := by
  cbv

/-- All paths that can be read lead to the one file. -/
lemma identity_loneClass {p : Path} {bytes : List UInt8} (h : loneClass.read p = .ok bytes) :
    bytes = Text.Utf8.encode loneText ∧
      loneClass.identity p = .ok { slashes := 1, parts := ["src", "D.php"] } := by
  obtain ⟨names, hid, entry⟩ := FileTree.identity_of_read h
  rcases List.mem_pair.1 entry with heq | heq
  · cases heq
  · cases heq
    exact ⟨rfl, hid⟩

/-- All that is declared is the one class, in the one file. -/
lemma declared_loneClass {p : Path} {d : Declaration} (h : d ∈ loneClass.declared p) :
    d.name = "D" ∧
      loneClass.identity p = .ok { slashes := 1, parts := ["src", "D.php"] } := by
  obtain ⟨bytes, hread⟩ := FileTree.read_of_declared h
  obtain ⟨rfl, hid⟩ := identity_loneClass hread
  rw [FileTree.declared_of_read hread, parse_loneText] at h
  obtain rfl := List.mem_singleton.1 h
  exact ⟨rfl, hid⟩

/-- The path of the file is told to be the file. -/
lemma identity_lonePath :
    loneClass.identity (Path.ofString "src/D.php") =
      .ok { slashes := 1, parts := ["src", "D.php"] } := by
  cbv

/-- The class is found in a search. -/
lemma search_loneClass :
    searchName loneClass loneAutoload "D" =
      .ok (some { name := "D", kind := .class, path := some (Path.ofString "src/D.php") }) := by
  have candidates : (ClassTable.ofAutoload loneAutoload).candidates (Source.ClassName.bare "D") =
      [Path.ofString "src/D.php"] := by
    cbv
  have isFile : loneClass.isFile (Path.ofString "src/D.php") = .ok true := by
    cbv
  rw [searchName, candidates, search, isFile, FileTree.declared_of_read read_lonePath,
    parse_loneText]
  cbv

/-- The tree is one in which classes can be found. -/
lemma findable_loneClass : Findable loneClass loneAutoload fun _ => True where
  offered _ _ _ := trivial
  found p _ d hd := by
    obtain ⟨hname, hid⟩ := declared_loneClass hd
    obtain ⟨s, run⟩ := find_fresh loneClass loneAutoload "D"
    rw [search_loneClass] at run
    rw [hname, hid]
    exact ⟨_, _, s, run, rfl, rfl, identity_lonePath⟩
  spelled p q _ _ d hd e he _ :=
    (declared_loneClass hd).1.trans (declared_loneClass he).1.symm

/-- The calls: a registration that fails, a look-up, and a registration of the file. -/
def loneCalls : List Call :=
  [.register (Path.ofString "missing.php"), .find "d", .register (Path.ofString "src/D.php")]

/-- A look-up sees the class. -/
lemma seen_loneClass :
    seen loneClass (find "D") (fresh loneAutoload) =
      .ok (some { name := "D", kind := .class }) := by
  obtain ⟨s, run⟩ := find_fresh loneClass loneAutoload "D"
  rw [seen, run, search_loneClass]
  rfl

/-- A path that leads to nothing does no harm where it is not told to be the file of the class. -/
theorem find_after_loneCalls :
    (∀ call ∈ loneCalls, call.Registrable loneClass fun _ => True) ∧
      seen loneClass (find "D") (after loneClass (fresh loneAutoload) loneCalls) =
        .ok (some { name := "D", kind := .class }) := by
  have missing : Registrable loneClass (fun _ => True) (Path.ofString "missing.php") := by
    refine ⟨fun _ _ => trivial, fun _ _ q bytes _ hread same => ?_⟩
    have hid : loneClass.identity (Path.ofString "missing.php") =
        .ok { slashes := 1, parts := ["missing.php"] } := by
      cbv
    rw [hid, (identity_loneClass hread).2] at same
    exact absurd same (by decide)
  have present : Registrable loneClass (fun _ => True) (Path.ofString "src/D.php") := by
    refine ⟨fun _ _ => trivial, fun fault hfault => ?_⟩
    rw [read_lonePath] at hfault
    cases hfault
  have registrable : ∀ call ∈ loneCalls, call.Registrable loneClass fun _ => True := by
    refine List.forall_mem_cons.2 ⟨missing, List.forall_mem_cons.2 ⟨trivial, ?_⟩⟩
    exact List.forall_mem_singleton.2 present
  have same := find_after findable_loneClass registrable fun p _ d hd _ =>
    congrArg Source.ClassName.bare (declared_loneClass hd).1.symm
  exact ⟨registrable, same.1.trans seen_loneClass⟩

/-- After a path that leads to no file, but is told to be that of the class, the class is not
found. -/
theorem find_after_missing :
    Findable loneClass loneAutoload (fun _ => True) ∧
      (∀ entry ∈ loneClass.entries, ∀ target, entry.2 ≠ .link target) ∧
      (∃ p, ∃ d ∈ loneClass.declared p, d.name = "D") ∧
      seen loneClass (find "D") (fresh loneAutoload) =
        .ok (some { name := "D", kind := .class }) ∧
      seen loneClass (find "D") (after loneClass (fresh loneAutoload)
        [.register (Path.ofString "nowhere/../src/D.php")]) = .ok none := by
  refine ⟨findable_loneClass, ?_, ?_, seen_loneClass, ?_⟩
  · intro entry hentry target
    rcases List.mem_pair.1 hentry with rfl | rfl
    all_goals
      intro h
      cases h
  · refine ⟨Path.ofString "src/D.php", ?_⟩
    rw [FileTree.declared_of_read read_lonePath, parse_loneText]
    exact ⟨_, List.mem_singleton.2 rfl, rfl⟩
  · cbv

end Sample

end Audit
end RouteAudit
