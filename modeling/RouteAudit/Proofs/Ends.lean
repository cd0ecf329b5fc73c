import RouteAudit.Proofs.ClassSearch
import RouteAudit.Proofs.Template.Visit

/-!
# How activities end

From sessions whose classes have a property, an activity ends in an answer of a kind or in a fault
of a kind, and the classes that are known then still have the property (`Ends`).  So much is known
of all searches for classes: they end in a fault only where a path that they try is too long.
-/

namespace RouteAudit
open Source (Declaration)

namespace FileTree

variable {tree : FileTree} {p : Path}

/-- Whether a path leads to a file is told unless the path is too long. -/
lemma isFile_cases (tree : FileTree) (p : Path) :
    (∃ found, tree.isFile p = .ok found ∧ tree.locate p ≠ .error .nameTooLong) ∨
      (tree.isFile p = .error .nameTooLong ∧ tree.locate p = .error .nameTooLong) := by
  rw [isFile]
  cases tree.locate p with
  | ok found =>
    obtain ⟨names, node⟩ := found
    cases node <;> simp
  | error fault => cases fault <;> simp [FileFault.isAbsence]

/-- Links are replaced somehow, also where they lead in a circle. -/
lemma exists_resolve (inside : List tree.Spelling) (here : tree.Spelling) (names : List String) :
    ∃ resolved, tree.resolve false inside here names = .ok resolved := by
  fun_induction FileTree.resolve tree false inside here names with
  | case1 inside here => exact ⟨_, rfl⟩
  | case2 inside here rest ih => exact ih
  | case4 inside here name rest _ _ _ ih => exact ih
  | case6 => exact ⟨_, rfl⟩
  | case7 inside here name rest _ target _ _ fault inner ih =>
    obtain ⟨resolved, found⟩ := ih
    rw [inner] at found
    cases found
  | case8 => exact ⟨_, rfl⟩
  | case9 inside here name rest _ target _ _ there _ _ ih => exact ih
  | case10 inside here name rest _ node _ _ ih => exact ih
  | _ => contradiction

/-- A path that can be read holds no null character. -/
lemma clean_of_read {bytes : List UInt8} (h : tree.read p = .ok bytes) : p.Clean := by
  rw [FileTree.read] at h
  split at h
  · next located => exact clean_of_locate located
  · cases h
  · cases h

/-- A path without null characters has an identity. -/
lemma exists_identity (hp : p.Clean) : ∃ file, tree.identity p = .ok file := by
  obtain ⟨resolved, found⟩ := exists_resolve [] (.start tree p) (tree.absolute p).parts
  have real : tree.realPath false p = .ok { slashes := 1, parts := resolved.names } := by
    rw [realPath, p.contains_eq_false.2 hp, if_neg Bool.false_ne_true, found]
    rfl
  rw [identity, real]
  dsimp only
  split
  · exact ⟨_, rfl⟩
  · exact ⟨_, rfl⟩

end FileTree

namespace Audit

variable {α β : Type} {tree : FileTree} {J : ClassTable → Prop} {Q : α → Prop} {F : Fault → Prop}

/-- What a run ended in. -/
inductive EndsIn (J : ClassTable → Prop) (Q : α → Prop) (F : Fault → Prop) :
    EStateM.Result Fault Session α → Prop
  | ok {a : α} {s : Session} : J s.classes → Q a → EndsIn J Q F (.ok a s)
  | error {fault : Fault} {s : Session} : J s.classes → F fault → EndsIn J Q F (.error fault s)

/-- Where the known classes have a property, an activity keeps it, and it ends in an answer or in a
fault of the given kinds. -/
def Ends (tree : FileTree) (J : ClassTable → Prop) (x : Audit α) (Q : α → Prop)
    (F : Fault → Prop) : Prop :=
  ∀ s, J s.classes → EndsIn J Q F (x tree s)

/-- What holds of how a run ends can be weakened. -/
lemma EndsIn.imp {r : EStateM.Result Fault Session α} {Q' : α → Prop} {G : Fault → Prop}
    (h : EndsIn J Q F r) (hQ : ∀ a, Q a → Q' a) (hF : ∀ fault, F fault → G fault) :
    EndsIn J Q' G r := by
  cases h with
  | ok hs ha => exact .ok hs (hQ _ ha)
  | error hs hfault => exact .error hs (hF _ hfault)

/-- A run goes on from its answer, and its faults are those of the whole. -/
lemma EndsIn.bind {r : EStateM.Result Fault Session β} {R : β → Prop}
    {next : β → Session → EStateM.Result Fault Session α} (h : EndsIn J R F r)
    (hnext : ∀ b s, J s.classes → R b → EndsIn J Q F (next b s)) :
    EndsIn J Q F (match r with
      | .ok b s => next b s
      | .error fault s => .error fault s) := by
  cases h with
  | ok hs hb => exact hnext _ _ hs hb
  | error hs hfault => exact .error hs hfault

namespace Ends

/-- An answer that is given ends an activity. -/
lemma pure {a : α} (h : Q a) : Ends tree J (pure a) Q F :=
  fun _ hs => .ok hs h

/-- A fault ends an activity. -/
lemma throw {fault : Fault} (h : F fault) : Ends tree J (throw fault : Audit α) Q F :=
  fun _ hs => .error hs h

/-- A note can always be taken. -/
lemma note (n : Note) : Ends tree J (note n) (fun _ => True) F :=
  fun _ hs => .ok hs trivial

/-- The session can always be asked for. -/
lemma get : Ends tree J get (fun s => J s.classes) F :=
  fun _ hs => .ok hs hs

/-- An activity goes on from the answer of another. -/
lemma bind {x : Audit β} {f : β → Audit α} {R : β → Prop} (hx : Ends tree J x R F)
    (hf : ∀ b, R b → Ends tree J (f b) Q F) : Ends tree J (x >>= f) Q F := by
  intro s hs
  rw [run_bind]
  exact (hx s hs).bind fun b s' hs' hb => hf b hb s' hs'

/-- The tree can always be asked for. -/
lemma read {f : FileTree → Audit α} (h : Ends tree J (f tree) Q F) :
    Ends tree J (read >>= f) Q F := by
  intro s hs
  rw [run_bind, run_read]
  exact h s hs

/-- What holds of how an activity ends can be weakened. -/
lemma imp {Q' : α → Prop} {G : Fault → Prop} {x : Audit α} (h : Ends tree J x Q F)
    (hQ : ∀ a, Q a → Q' a) (hF : ∀ fault, F fault → G fault) : Ends tree J x Q' G :=
  fun s hs => (h s hs).imp hQ hF

/-- What holds at the end of a run with an answer. -/
lemma of_ok {x : Audit α} (h : Ends tree J x Q F) {s s' : Session} (hs : J s.classes) {a : α}
    (run : x tree s = .ok a s') : J s'.classes ∧ Q a := by
  have h := h s hs
  rw [run] at h
  cases h with
  | ok hs' ha => exact ⟨hs', ha⟩

/-- If an activity fails, whatever the fault, the other one decides. -/
lemma orElse {x y : Audit α} {G : Fault → Prop} (hx : Ends tree J x Q G)
    (hy : Ends tree J y Q F) : Ends tree J (orElse x y) Q F := by
  intro s hs
  have h := hx s hs
  show EndsIn J Q F (EStateM.tryCatch (x tree) (fun _ => y tree) s)
  rw [EStateM.tryCatch]
  generalize x tree s = r at h
  cases h with
  | ok hs' ha => exact .ok hs' ha
  | error hs' _ => exact hy _ hs'

/-- What an activity ends in does not depend on the session. -/
lemma answers {x : Audit α} {answer : Except Fault α}
    (h : Ends tree (fun _ => True) x (answer = .ok ·) (answer = .error ·)) :
    Answers tree x answer := by
  intro s
  have h := h s trivial
  generalize x tree s = r at h
  cases h with
  | ok _ h =>
    subst h
    exact ⟨_, rfl⟩
  | error _ h =>
    subst h
    exact ⟨_, rfl⟩

/-- Whether a path leads to a file is told, or the path is too long. -/
lemma isFile {p : Path} (hF : tree.locate p = .error .nameTooLong → F (.file .nameTooLong)) :
    Ends tree J (ofAccess (tree.isFile p)) (tree.isFile p = .ok ·) F := by
  rcases tree.isFile_cases p with ⟨found, h, -⟩ | ⟨h, long⟩
  · rw [h]
    exact pure rfl
  · rw [h]
    exact throw (hF long)

/-- Whether a path leads to a directory is told, or the path is too long. -/
lemma isDirectory {p : Path} (hF : tree.locate p = .error .nameTooLong → F (.file .nameTooLong)) :
    Ends tree J (ofAccess (tree.isDirectory p)) (tree.isDirectory p = .ok ·) F := by
  rcases tree.isDirectory_cases p with ⟨h, -⟩ | ⟨h, -⟩ | ⟨h, long⟩
  · rw [h]
    exact pure rfl
  · rw [h]
    exact pure rfl
  · rw [h]
    exact throw (hF long)

end Ends

/-- The table offers certain places for classes, and the classes that it knows have a property. -/
structure Knows (places : ClassTable) (P : Declaration → Prop) (table : ClassTable) : Prop where
  offers : table.autoload = places.autoload
  classes : ∀ entry ∈ table.classes, P entry.2
  files : ∀ entry ∈ table.files, ∀ d ∈ entry.2, P d

variable {places : ClassTable} {P : Declaration → Prop}

/-- The places of classes do not change. -/
lemma Knows.candidates {table : ClassTable} (h : Knows places P table) (name : String) :
    table.candidates name = places.candidates name := by
  rw [ClassTable.candidates, ClassTable.candidates, h.offers]

/-- What is known has the property. -/
lemma Knows.get? {table : ClassTable} (h : Knows places P table) {key : String} {d : Declaration}
    (hd : table.get? key = some d) : P d :=
  h.classes _ (Assoc.mem_of_get? hd)

/-- With the classes of a file, what is known still has the property. -/
lemma Knows.record {table : ClassTable} (h : Knows places P table) (file : Path)
    {declarations : List Declaration} (hP : ∀ d ∈ declarations, P d) :
    Knows places P (table.record file declarations) where
  offers := h.offers
  classes entry hentry := (ClassTable.mem_foldl hentry).elim (h.classes entry) (hP entry.2)
  files entry hentry := by
    rcases Assoc.mem_insert hentry with hold | rfl
    · exact h.files entry hold
    · exact hP

/-! ## Searches for classes -/

/-- Registering a file fails only where the path cannot be followed. -/
lemma registerFile_ends_of (hP : ∀ d, d.StandsIn tree → P d) {p : Path}
    (hF : ∀ fault, tree.identity p = .error fault → F (.file fault)) :
    Ends tree (Knows places P) (registerFile p) (fun declarations => ∀ d ∈ declarations, P d)
      F := by
  intro s hs
  rw [registerFile_eq]
  cases hid : tree.identity p with
  | error fault => exact .error hs (hF fault hid)
  | ok file =>
    cases hfile : s.classes.files.get? file with
    | some known =>
      simp only [hfile]
      exact .ok hs (hs.files _ (Assoc.mem_of_get? hfile))
    | none =>
      cases hread : tree.read p with
      | error fault =>
        simp only [hfile]
        exact .ok (hs.record file (List.forall_mem_nil P)) (List.forall_mem_nil P)
      | ok bytes =>
        have stand : ∀ d ∈ Declaration.parse (some p) (sourceText bytes), P d :=
          fun d hd => hP d ⟨p, bytes, hread, hd⟩
        simp only [hfile]
        exact .ok (hs.record file stand) stand

/-- A file that can be named can be registered. -/
lemma registerFile_ends (hP : ∀ d, d.StandsIn tree → P d) {p : Path} (hp : p.Clean) :
    Ends tree (Knows places P) (registerFile p) (fun declarations => ∀ d ∈ declarations, P d)
      F := by
  obtain ⟨file, hid⟩ : ∃ file, tree.identity p = .ok file := FileTree.exists_identity hp
  refine registerFile_ends_of hP fun fault hfault => ?_
  rw [hid] at hfault
  cases hfault

/-- A search for a class fails only where a path is too long. -/
lemma findIn_ends (hP : ∀ d, d.StandsIn tree → P d) (key : String) {paths : List Path}
    (hF : ∀ p ∈ paths, tree.locate p = .error .nameTooLong → F (.file .nameTooLong)) :
    Ends tree (Knows places P) (findIn key paths)
      (fun found => ∀ d, found = some d → P d ∧ d.key = key) F := by
  induction paths with
  | nil => exact .pure nofun
  | cons p paths ih =>
    obtain ⟨hp, hpaths⟩ := List.forall_mem_cons.1 hF
    rw [findIn]
    refine .read ?_
    refine (Ends.isFile hp).bind fun isFile hfile => ?_
    cases isFile with
    | false => exact ih hpaths
    | true =>
      obtain ⟨bytes, hread⟩ := FileTree.read_of_isFile hfile
      refine (registerFile_ends hP (FileTree.clean_of_read hread)).bind fun _ _ => ?_
      refine Ends.get.bind fun s hs => ?_
      cases hget : s.classes.get? key with
      | some d =>
        refine .pure fun e he => ?_
        cases he
        exact ⟨hs.get? hget, ClassTable.key_of_get? hget⟩
      | none => exact ih hpaths

/-- A class is sought to an end, and what is found has the property and the name. -/
lemma find_ends (hP : ∀ d, d.StandsIn tree → P d) {name : String}
    (hF : ∀ p ∈ places.candidates (Source.ClassName.bare name),
      tree.locate p = .error .nameTooLong → F (.file .nameTooLong)) :
    Ends tree (Knows places P) (find name)
      (fun found => ∀ d, found = some d → P d ∧ d.key = Source.ClassName.key name) F := by
  rw [find]
  refine Ends.get.bind fun s hs => ?_
  cases hget : s.classes.get? (Source.ClassName.key name) with
  | some d =>
    simp only [hget]
    refine .pure fun e he => ?_
    cases he
    exact ⟨hs.get? hget, ClassTable.key_of_get? hget⟩
  | none =>
    simp only [hget, hs.candidates]
    exact findIn_ends hP _ hF

/-- A class is found or not, and what is found has the property and the name. -/
lemma findClass_ends (hP : ∀ d, d.StandsIn tree → P d) {name : String}
    (hF : ∀ p ∈ places.candidates (Source.ClassName.bare name),
      tree.locate p = .error .nameTooLong → F (.file .nameTooLong)) :
    Ends tree (Knows places P) (findClass name)
      (fun found => ∀ d, found = some d → P d ∧ d.key = Source.ClassName.key name) F := by
  refine (find_ends hP hF).bind fun found hfound => .pure fun d hd => ?_
  exact hfound d (Option.eq_some_of_filter_eq_some hd)

/-! ## Walks through hierarchies -/

end Audit

/-- A declaration mentions its own name, that of its parent and those of its traits. -/
def Source.Declaration.Mentions (d : Declaration) (name : String) : Prop :=
  name = d.name ∨ d.parent = some name ∨ name ∈ d.traits

namespace Audit

/-- A name that some class of the tree mentions. -/
def Mentioned (tree : FileTree) (name : String) : Prop :=
  ∃ d : Declaration, d.StandsIn tree ∧ d.Mentions name

/-- A declaration with a property mentions a name. -/
def MentionedBy (P : Declaration → Prop) (name : String) : Prop :=
  ∃ d, P d ∧ d.Mentions name

/-- A path that is too long and is tried for a class that is mentioned accounts for a fault. -/
def Accounts (tree : FileTree) (places : ClassTable) (P : Declaration → Prop)
    (F : Fault → Prop) : Prop :=
  ∀ name, MentionedBy P name → ∀ p ∈ places.candidates (Source.ClassName.bare name),
    tree.locate p = .error .nameTooLong → F (.file .nameTooLong)

/-- The methods that a class adds are its own. -/
lemma mem_of_mem_addMethods {names : List String} {d : Declaration} {name : String}
    (h : name ∈ addMethods names d) : name ∈ names ∨ name ∈ d.methods := by
  rw [addMethods] at h
  generalize d.methods = methods at h ⊢
  induction methods generalizing names with
  | nil => exact .inl h
  | cons m methods ih =>
    rw [List.foldl_cons] at h
    rcases ih h with h | h
    · split at h
      · exact .inl h
      · rcases List.mem_append.1 h with h | h
        · exact .inl h
        · exact .inr (List.mem_cons.2 (.inl (List.mem_singleton.1 h)))
    · exact .inr (List.mem_cons_of_mem m h)

/-- Each listed method is one of a declaration. -/
lemma exists_of_mem_addMethods {names : List String} {visited : List Declaration} {name : String}
    (h : name ∈ visited.foldl addMethods names) :
    name ∈ names ∨ ∃ d ∈ visited, name ∈ d.methods := by
  induction visited generalizing names with
  | nil => exact .inl h
  | cons d visited ih =>
    rw [List.foldl_cons] at h
    rcases ih h with h | ⟨e, he, declares⟩
    · exact (mem_of_mem_addMethods h).imp_right fun declares => ⟨d, List.mem_cons_self, declares⟩
    · exact .inr ⟨e, List.mem_cons_of_mem d he, declares⟩

section Walks

variable (hP : ∀ d, d.StandsIn tree → P d) (h : Accounts tree places P F)
include hP h

/-- A class that is mentioned is looked for. -/
lemma Accounts.find {name : String} (hname : MentionedBy P name) :
    Ends tree (Knows places P) (find name) (fun found => ∀ e, found = some e → P e) F :=
  (find_ends hP (h name hname)).imp (fun _ found e he => (found e he).1) fun _ hfault => hfault

/-- A climb comes to an end. -/
lemma ascends_ends (target : String) (steps : Nat) (seen : List String) {d : Declaration}
    (hd : P d) :
    Ends tree (Knows places P) (ascends target steps seen d.parent) (fun _ => True) F := by
  induction steps generalizing seen d with
  | zero =>
    cases d.parent with
    | none => exact .pure trivial
    | some name => exact .pure trivial
  | succ steps ih =>
    cases hparent : d.parent with
    | none => exact .pure trivial
    | some name =>
      rw [ascends]
      split
      · exact .pure trivial
      · split
        · exact .pure trivial
        · refine (h.find hP ⟨d, hd, .inr (.inl hparent)⟩).bind fun found hfound => ?_
          cases found with
          | none => exact .pure trivial
          | some e => exact ih _ (hfound e rfl)

/-- Whether a class is a controller is told. -/
lemma isController_ends (base : String) {d : Declaration} (hd : P d) :
    Ends tree (Knows places P) (isController d base) (fun _ => True) F := by
  rw [isController]
  split
  · exact .pure trivial
  · refine Ends.bind (R := fun _ => True) ?_ fun steps _ => ascends_ends hP h _ steps _ hd
    exact Ends.get.bind fun _ _ => .read (.pure trivial)

/-- A walk tries the names that the declarations on the way mention. -/
lemma visit_ends (enough : Declaration → Bool) (steps : Nat)
    (seen : List String) {traits : List String} {parent : Option String}
    (htraits : ∀ name ∈ traits, MentionedBy P name)
    (hparent : ∀ name, parent = some name → MentionedBy P name) :
    Ends tree (Knows places P) (visit enough steps seen traits parent)
      (fun visited => ∀ d ∈ visited, P d) F := by
  -- a class that is not visited before takes a step, any other trait is only left out
  induction steps using Nat.strongRecOn generalizing seen traits parent with
  | ind steps deeper =>
    induction traits generalizing seen with
    | nil =>
      rw [visit.eq_def]
      cases parent with
      | none => exact .pure (List.forall_mem_nil _)
      | some name =>
        refine (h.find hP (hparent name rfl)).bind fun found hfound => ?_
        cases found with
        | none => exact .pure (List.forall_mem_nil _)
        | some e =>
          have he := hfound e rfl
          dsimp only
          split
          · exact .pure (List.forall_mem_nil _)
          · split
            · exact .pure (List.forall_mem_singleton.2 he)
            · cases steps with
              | zero => exact .pure (List.forall_mem_singleton.2 he)
              | succ steps =>
                refine (deeper steps (Nat.lt_succ_self steps) _
                  (fun name hname => ⟨e, he, .inr (.inr hname)⟩)
                  (fun name hname => ⟨e, he, .inr (.inl hname)⟩)).bind fun _ hrest => ?_
                exact .pure (List.forall_mem_cons.2 ⟨he, hrest⟩)
    | cons name traits ih =>
      obtain ⟨hname, hrest⟩ := List.forall_mem_cons.1 htraits
      rw [visit.eq_def]
      dsimp only
      split
      · exact ih seen hrest
      · refine (h.find hP hname).bind fun found hfound => ?_
        cases found with
        | none => exact ih seen hrest
        | some e =>
          have he := hfound e rfl
          dsimp only
          split
          · exact .pure (List.forall_mem_singleton.2 he)
          · have hboth : ∀ name ∈ e.traits ++ traits, MentionedBy P name :=
              List.forall_mem_append.2 ⟨fun name hname => ⟨e, he, .inr (.inr hname)⟩, hrest⟩
            cases steps with
            | zero => exact .pure (List.forall_mem_singleton.2 he)
            | succ steps =>
              refine (deeper steps (Nat.lt_succ_self steps) _ hboth hparent).bind
                fun _ hvisited => ?_
              exact .pure (List.forall_mem_cons.2 ⟨he, hvisited⟩)

/-- The members of a class are gathered to an end, and all have the property. -/
lemma members_ends (enough : Declaration → Bool) {d : Declaration} (hd : P d) :
    Ends tree (Knows places P) (members enough d) (fun visited => ∀ e ∈ visited, P e) F := by
  rw [members]
  split
  · exact .pure (List.forall_mem_singleton.2 hd)
  · refine Ends.bind (R := fun _ => True) ?_ fun steps _ => ?_
    · exact Ends.get.bind fun _ _ => .read (.pure trivial)
    · refine (visit_ends hP h enough steps [d.key] (fun name hname => ⟨d, hd, .inr (.inr hname)⟩)
        fun name hname => ⟨d, hd, .inr (.inl hname)⟩).bind fun _ hvisited => ?_
      exact .pure (List.forall_mem_cons.2 ⟨hd, hvisited⟩)

/-- The action methods of a class are methods of declarations with the property. -/
lemma actionMethods_ends {d : Declaration} (hd : P d) :
    Ends tree (Knows places P) (actionMethods d)
      (fun names => ∀ name ∈ names, Identifier.isAction name = true ∧ ∃ e, P e ∧ name ∈ e.methods)
      F := by
  refine Ends.bind (R := fun names => ∀ name ∈ names, ∃ e, P e ∧ name ∈ e.methods) ?_
    fun names hnames => .pure fun name hname => ?_
  · refine (members_ends hP h _ hd).bind fun visited hvisited => .pure fun name hname => ?_
    obtain ⟨e, he, declares⟩ := (exists_of_mem_addMethods hname).resolve_left List.not_mem_nil
    exact ⟨e, hvisited e he, declares⟩
  · obtain ⟨hname, action⟩ := List.mem_filter.1 hname
    exact ⟨action, hnames name hname⟩

end Walks

end Audit
end RouteAudit
