import RouteAudit.Proofs.Project.Check
import RouteAudit.Proofs.Project.Gathering

/-!
# Collecting controllers

All files below the given roots are registered before any class is looked at.  So where the classes
in them have different names, the controllers that are collected do not depend on the order of the
roots (`collect_perm`): they are the concrete classes in these files that descend from the base and
have an action.
-/

namespace RouteAudit.Audit
open Source (Declaration)

variable {tree : FileTree} {paths : List Path} {p root : Path} {s : Session}
  {K : Declaration → Prop} {base : String} {done : List String} {table : ActionTable}
  {d : Declaration}

/-! ## The table -/

/-- A table has the actions of the classes with the given names that are collected. -/
structure Covers (K : Declaration → Prop) (base : String) (done : List String)
    (table : ActionTable) : Prop where
  nodup : table.keys.Nodup
  get?_iff : ∀ name methods, table.get? name = some methods ↔
    name ∈ done ∧ ∃ d, d.name = name ∧ IsCollected K base d methods

/-- Before any class is looked at, the empty table is right. -/
lemma covers_nil (K : Declaration → Prop) (base : String) : Covers K base [] [] where
  nodup := List.nodup_nil
  get?_iff name methods := by
    constructor
    · intro h
      cases h
    · rintro ⟨h, -⟩
      cases h

/-- A class that is collected gets its entry. -/
lemma Covers.insert (h : Covers K base done table) {methods : List String}
    (collected : ∀ e ms, e.name = d.name → (IsCollected K base e ms ↔ e = d ∧ ms = methods)) :
    Covers K base (done ++ [d.name]) (Assoc.insert d.name methods table) where
  nodup := Assoc.nodup_insert h.nodup _ _
  get?_iff name ms := by
    by_cases hname : name = d.name
    · subst hname
      rw [Assoc.get?_insert_self]
      constructor
      · intro same
        obtain rfl := Option.some.inj same
        exact ⟨List.mem_append_right _ (List.mem_singleton_self _), d, rfl,
          (collected d _ rfl).2 ⟨rfl, rfl⟩⟩
      · rintro ⟨-, e, he, hms⟩
        exact congrArg some ((collected e ms he).1 hms).2.symm
    · rw [Assoc.get?_insert_of_ne hname, h.get?_iff, List.mem_append, List.mem_singleton,
        or_iff_left hname]

/-- A class that is not collected gets none. -/
lemma Covers.leave (h : Covers K base done table) {name : String}
    (notCollected : ∀ e ms, e.name = name → ¬IsCollected K base e ms) :
    Covers K base (done ++ [name]) table where
  nodup := h.nodup
  get?_iff name' ms := by
    rw [h.get?_iff, List.mem_append, List.mem_singleton]
    constructor
    · exact fun ⟨hdone, hms⟩ => ⟨.inl hdone, hms⟩
    · rintro ⟨hdone | rfl, e, he, hms⟩
      · exact ⟨hdone, e, he, hms⟩
      · exact absurd hms (notCollected e ms he)

/-- A class that is found is looked at, and then come the others. -/
lemma addControllers_of_found {name : String} {b : Bool} {methods : List String}
    (found : findClass name tree s = .ok (some d) s)
    (controls : isController d base tree s = .ok b s)
    (acts : actionMethods d tree s = .ok methods s) (table : ActionTable) (rest : List String) :
    addControllers base table (name :: rest) tree s =
      addControllers base
        (if b = true ∧ methods ≠ [] then table.insert d.name methods else table) rest tree s := by
  rw [addControllers, run_bind_of_ok found]
  dsimp only
  rw [run_bind_of_ok controls]
  cases b with
  | false => rw [if_neg Bool.false_ne_true, if_neg fun h => Bool.false_ne_true h.1]
  | true =>
    rw [if_pos rfl, run_bind_of_ok acts]
    cases methods <;> rfl

/-- One class more is looked at. -/
lemma addControllers_cons (h : KnowsJust tree paths s) (distinct : tree.Distinct paths)
    (hd : tree.Declares paths d) (hkind : d.kind = .class)
    (covers : Covers (tree.Declares paths) base done table) :
    ∃ table', Covers (tree.Declares paths) base (done ++ [d.name]) table' ∧
      ∀ rest, addControllers base table (d.name :: rest) tree s =
        addControllers base table' rest tree s := by
  obtain ⟨e, known, rfl⟩ := h.all d hd
  have known : s.classes.get? e.key = some e := known
  obtain ⟨b, methods, controls, acts, collected⟩ := h.isCollected_iff distinct known hkind base
  have found : findClass e.name tree s = .ok (some e) s := by
    have key : Source.ClassName.key e.name = e.key := (h.knows.get? known).name.key
    rw [run_findClass, h.find, key, known]
    have kind : e.kind = .class := hkind
    simp [kind]
  refine ⟨_, ?_, addControllers_of_found found controls acts table⟩
  -- the name tells which class it is
  have only (c : Declaration) (ms : List String) (hname : c.name = e.name)
      (hc : IsCollected (tree.Declares paths) base c ms) : c = e.withoutPath :=
    distinct.unique hc.declared hd (congrArg Text.lower hname)
  by_cases hb : b = true ∧ methods ≠ []
  · rw [if_pos hb]
    refine covers.insert (d := e.withoutPath) fun c ms hname => ?_
    constructor
    · intro hc
      obtain rfl := only c ms hname hc
      exact ⟨rfl, ((collected ms).1 hc).2.2⟩
    · rintro ⟨rfl, rfl⟩
      exact (collected _).2 ⟨hb.1, hb.2, rfl⟩
  · rw [if_neg hb]
    apply covers.leave
    intro c ms hname hc
    obtain rfl := only c ms hname hc
    obtain ⟨hb', hmethods, -⟩ := (collected ms).1 hc
    exact hb ⟨hb', hmethods⟩

/-- All classes are looked at, and the session stays as it is. -/
lemma addControllers_run (h : KnowsJust tree paths s) (distinct : tree.Distinct paths)
    (base : String) {names : List String}
    (declared : ∀ name ∈ names, ∃ d, tree.Declares paths d ∧ d.kind = .class ∧ d.name = name)
    (covers : Covers (tree.Declares paths) base done table) :
    ∃ table', addControllers base table names tree s = .ok table' s ∧
      Covers (tree.Declares paths) base (done ++ names) table' := by
  induction names generalizing done table with
  | nil =>
    rw [List.append_nil]
    exact ⟨table, rfl, covers⟩
  | cons name names ih =>
    obtain ⟨⟨d, hd, hkind, rfl⟩, hnames⟩ := List.forall_mem_cons.1 declared
    obtain ⟨table₁, covers₁, step⟩ := addControllers_cons h distinct hd hkind covers
    obtain ⟨table', run, covers'⟩ := ih hnames covers₁
    rw [List.append_assoc, List.singleton_append] at covers'
    exact ⟨table', (step names).trans run, covers'⟩

/-- The classes below some roots are collected, whatever the order of the roots. -/
lemma collect_run (clean : tree.Clean) {roots : List Path}
    (distinct : tree.Distinct (tree.sources roots)) (faithful : tree.Faithful (tree.sources roots))
    (short : ∀ root ∈ roots, tree.locate root ≠ .error .nameTooLong) (base : String) :
    ∃ table s, collect roots base tree (fresh []) = .ok table s ∧ table.keys.Nodup ∧
      ∀ name methods, table.get? name = some methods ↔
        ∃ d, d.name = name ∧ IsCollected (tree.Declares (tree.sources roots)) base d methods := by
  obtain ⟨names, s, run, gathered, registered⟩ :=
    classesBelow_run clean faithful (fun _ hp => hp) short (s := fresh []) .start
  have just := gathered.knowsJust distinct registered.files
  obtain ⟨table, looked, covers⟩ := addControllers_run just distinct base
    (fun name hname => (registered.names name).1 hname) (covers_nil _ base)
  refine ⟨table, { s with notes := s.notes ++ [.collected table.length names.length] }, ?_,
    covers.nodup, fun name methods => ?_⟩
  · rw [collect, run_bind_of_ok run, run_bind_of_ok looked]
    rfl
  · rw [covers.get?_iff, List.nil_append]
    constructor
    · exact And.right
    · rintro ⟨d, rfl, collected⟩
      exact ⟨(registered.names _).2 ⟨d, collected.declared, collected.kind, rfl⟩, d, rfl, collected⟩

/-- A root that is too long ends a collection. -/
lemma collect_of_long (clean : tree.Clean) {roots : List Path}
    (faithful : tree.Faithful (tree.sources roots)) (hroot : root ∈ roots)
    (long : tree.locate root = .error .nameTooLong) (base : String) :
    ∃ s, collect roots base tree (fresh []) = .error (.file .nameTooLong) s := by
  obtain ⟨s, run⟩ :=
    classesBelow_of_long clean faithful (fun _ hp => hp) hroot long (s := fresh []) .start
  refine ⟨s, ?_⟩
  rw [collect, run_bind, run]

/-- **The order of the roots has no part in what is collected.**  Where the classes below the roots
have different names and no root is too long, each order comes to the same table.  In it are, with
their actions, just the concrete classes below the roots that descend from the base and have an
action.  Where a root is too long, each order ends in the same fault. -/
theorem collect_perm (clean : tree.Clean) {roots roots' : List Path} (perm : roots.Perm roots')
    (distinct : tree.Distinct (tree.sources roots)) (faithful : tree.Faithful (tree.sources roots))
    (base : String) :
    ((∀ root ∈ roots, tree.locate root ≠ .error .nameTooLong) →
      ∃ table table' s s', collect roots base tree (fresh []) = .ok table s ∧
        collect roots' base tree (fresh []) = .ok table' s' ∧
        table.keys.Nodup ∧ table'.keys.Nodup ∧
        (∀ name, table.get? name = table'.get? name) ∧
        ∀ name methods, table.get? name = some methods ↔
          ∃ d, d.name = name ∧
            IsCollected (tree.Declares (tree.sources roots)) base d methods) ∧
    ((∃ root ∈ roots, tree.locate root = .error .nameTooLong) →
      ∃ s s', collect roots base tree (fresh []) = .error (.file .nameTooLong) s ∧
        collect roots' base tree (fresh []) = .error (.file .nameTooLong) s') := by
  have sources (p : Path) : p ∈ tree.sources roots' ↔ p ∈ tree.sources roots :=
    (perm.flatMap_right tree.phpFiles).mem_iff.symm
  have declares : tree.Declares (tree.sources roots') = tree.Declares (tree.sources roots) := by
    funext d
    simp only [FileTree.Declares, sources]
  have faithful' : tree.Faithful (tree.sources roots') := fun p hp q hq =>
    faithful p ((sources p).1 hp) q ((sources q).1 hq)
  constructor
  · intro short
    have distinct' : tree.Distinct (tree.sources roots') :=
      { within := fun p hp => distinct.within p ((sources p).1 hp)
        between := fun p hp q hq => distinct.between p ((sources p).1 hp) q ((sources q).1 hq) }
    have short' : ∀ root ∈ roots', tree.locate root ≠ .error .nameTooLong := fun root hroot =>
      short root (perm.mem_iff.2 hroot)
    obtain ⟨table, s, run, nodup, exact⟩ := collect_run clean distinct faithful short base
    obtain ⟨table', s', run', nodup', exact'⟩ := collect_run clean distinct' faithful' short' base
    rw [declares] at exact'
    refine ⟨table, table', s, s', run, run', nodup, nodup', fun name => ?_, exact⟩
    exact Option.ext fun methods => (exact name methods).trans (exact' name methods).symm
  · rintro ⟨root, hroot, long⟩
    obtain ⟨s, run⟩ := collect_of_long clean faithful hroot long base
    obtain ⟨s', run'⟩ := collect_of_long clean faithful' (perm.mem_iff.1 hroot) long base
    exact ⟨s, s', run, run'⟩

section Sample

open Source.Grammar

/-- The name of the method stands. -/
lemma stands_actionX : Source.Lexer.Stands .name "actionX".toList := by
  decide

/-- A method that is an action. -/
def actMember : Member :=
  ⟨[], .method ⟨⟨"function", stands_function⟩, List.mem_singleton_self _⟩ false
    ⟨"actionX", stands_actionX⟩ ⟨⟨[], allStand_nil, run_nil⟩, none, some ⟨[], allStand_nil, run_nil⟩⟩⟩

/-- A class with an action, whose parent is the other. -/
def actingClass : ClassDecl :=
  { heirDecl letterB with members := [actMember] }

/-- The name of one letter has no backslash. -/
lemma isSimple_letterB : '\\' ∉ letterB.text.toList := by
  decide

/-- The class between the base and the class with an action. -/
def middleClass : ClassDecl :=
  { heirDecl letterC with name := letterB, isSimple := isSimple_letterB }

/-- What is written in the file of the first class. -/
lemma source_actingClass : (soleFile actingClass).source =
    "<?php class A extends B \x7b function actionX ( ) \x7b \x7d \x7d ".toList := by
  decide

/-- What is written in the file of the second class. -/
lemma source_middleClass :
    (soleFile middleClass).source = "<?php class B extends C \x7b \x7d ".toList := by
  decide

/-- The path of the first file. -/
def actingPath : Path :=
  Path.ofString "A.php"

/-- The path of the second file. -/
def middlePath : Path :=
  Path.ofString "B.php"

/-- The directory of both files. -/
def splitRoot : Path :=
  Path.ofString ""

/-- A tree with two files. -/
def twoFileTree (first second : List UInt8) : FileTree :=
  { entries := [(["A.php"], .file first), (["B.php"], .file second)] }

section TwoFiles

variable (first second : List UInt8)

/-- The first file can be read. -/
lemma read_actingPath : (twoFileTree first second).read actingPath = .ok first := by
  cbv

/-- The second file can be read. -/
lemma read_middlePath : (twoFileTree first second).read middlePath = .ok second := by
  cbv

/-- Below the root are the two files. -/
lemma phpFiles_splitRoot :
    (twoFileTree first second).phpFiles splitRoot = [actingPath, middlePath] := by
  cbv

/-- Below the second file is the file itself. -/
lemma phpFiles_middlePath : (twoFileTree first second).phpFiles middlePath = [middlePath] := by
  cbv

/-- Neither path is too long. -/
lemma short_twoFileTree :
    ∀ root ∈ [splitRoot, middlePath],
      (twoFileTree first second).locate root ≠ .error .nameTooLong := by
  intro root hroot
  rcases List.mem_pair.1 hroot with rfl | rfl
  · cbv
    intro h
    cases h
  · cbv
    intro h
    cases h

/-- The names in the tree hold no null character. -/
lemma clean_twoFileTree : (twoFileTree first second).Clean where
  names entry hentry := by
    rcases List.mem_pair.1 hentry with rfl | rfl <;> simp

end TwoFiles

/-- A class with an action, whose parent is in another file. -/
def splitTree : FileTree :=
  twoFileTree (Text.ascii (soleFile actingClass).source) (Text.ascii (soleFile middleClass).source)

/-- The declaration of the first class. -/
def acting : Declaration :=
  soleDeclaration actingClass "A.php"

/-- The declaration of the second class. -/
def middle : Declaration :=
  soleDeclaration middleClass "B.php"

/-- A file with one class declares it. -/
lemma declared_sole {c : ClassDecl} {file : String} (ascii : IsAscii (soleFile c).source)
    (hread : tree.read (Path.ofString file) = .ok (Text.ascii (soleFile c).source)) :
    tree.declared (Path.ofString file) = [soleDeclaration c file] := by
  rw [FileTree.declared_of_read hread, sourceText_ascii ascii, Declaration.parse, texts_classFile]
  rfl

/-- The first file declares the first class. -/
lemma declared_actingPath : splitTree.declared actingPath = [acting] := by
  apply declared_sole _ (read_actingPath _ _)
  rw [source_actingClass]
  exact Source.Lexer.forall_mem_of_all (by decide)

/-- The second file declares the second class. -/
lemma declared_middlePath : splitTree.declared middlePath = [middle] := by
  apply declared_sole _ (read_middlePath _ _)
  rw [source_middleClass]
  exact Source.Lexer.forall_mem_of_all (by decide)

/-- Each class is declared in its own file. -/
lemma eq_of_mem_declared (hp : p = actingPath ∨ p = middlePath) (hd : d ∈ splitTree.declared p) :
    p = actingPath ∧ d = acting ∨ p = middlePath ∧ d = middle := by
  rcases hp with rfl | rfl
  · rw [declared_actingPath] at hd
    exact .inl ⟨rfl, List.mem_singleton.1 hd⟩
  · rw [declared_middlePath] at hd
    exact .inr ⟨rfl, List.mem_singleton.1 hd⟩

/-- The two classes have different names. -/
lemma distinct_splitTree (h : ∀ p ∈ paths, p = actingPath ∨ p = middlePath) :
    splitTree.Distinct paths where
  within p hp := by
    rcases h p hp with rfl | rfl
    · rw [declared_actingPath]
      exact List.nodup_singleton _
    · rw [declared_middlePath]
      exact List.nodup_singleton _
  between p hp q hq d hd e he key := by
    rcases eq_of_mem_declared (h p hp) hd with ⟨rfl, rfl⟩ | ⟨rfl, rfl⟩ <;>
      rcases eq_of_mem_declared (h q hq) he with ⟨rfl, rfl⟩ | ⟨rfl, rfl⟩
    · rfl
    · exact absurd key (by decide)
    · exact absurd key (by decide)
    · rfl

/-- All files can be read. -/
lemma faithful_splitTree (h : ∀ p ∈ paths, p = actingPath ∨ p = middlePath) :
    splitTree.Faithful paths := by
  intro p hp q hq same fault unread
  rcases h p hp with rfl | rfl
  · rw [splitTree, read_actingPath] at unread
    cases unread
  · rw [splitTree, read_middlePath] at unread
    cases unread

/-- The first class is collected, since it descends from the base by the second. -/
lemma isCollected_acting (hacting : actingPath ∈ paths) (hmiddle : middlePath ∈ paths)
    (h : ∀ p ∈ paths, p = actingPath ∨ p = middlePath) :
    IsCollected (splitTree.Declares paths) "C" acting.withoutPath ["actionX"] := by
  have declaresActing : splitTree.Declares paths acting.withoutPath :=
    ⟨actingPath, hacting, acting, declared_actingPath ▸ List.mem_singleton_self _, rfl⟩
  have declaresMiddle : splitTree.Declares paths middle.withoutPath :=
    ⟨middlePath, hmiddle, middle, declared_middlePath ▸ List.mem_singleton_self _, rfl⟩
  have parent : acting.withoutPath.parent = some "B" := by decide
  have grandparent : middle.withoutPath.parent = some "C" := by decide
  -- the base is no class in these files
  have base (d : Declaration) (hd : splitTree.Declares paths d) :
      d.key ≠ Source.ClassName.key "C" := by
    obtain ⟨p, hp, e, he, rfl⟩ := hd
    rcases eq_of_mem_declared (h p hp) he with ⟨-, rfl⟩ | ⟨-, rfl⟩ <;> decide
  have members : Members (splitTree.Declares paths) [acting.withoutPath.key] [] (some "B")
      [middle.withoutPath] := by
    apply Members.parent declaresMiddle (by decide) (by decide)
    show Members _ _ [] middle.withoutPath.parent []
    rw [grandparent]
    exact .last fun d hd key => absurd key (base d hd)
  exact
    { declared := declaresActing
      kind := by decide
      concrete := by decide
      descends := .further parent declaresMiddle (by decide) (.child grandparent rfl)
      actions := ⟨[middle.withoutPath], parent ▸ members, by decide⟩
      hasAction := List.cons_ne_nil _ _ }

/-- The parent may be read last or twice: the class is collected.  With a root that is too long
nothing is. -/
theorem collect_perm_split :
    (∃ table table' s s',
      collect [splitRoot, middlePath] "C" splitTree (fresh []) = .ok table s ∧
        collect [middlePath, splitRoot] "C" splitTree (fresh []) = .ok table' s' ∧
        table.get? "A" = some ["actionX"] ∧ table'.get? "A" = some ["actionX"]) ∧
    ∃ s s',
      collect [splitRoot, Path.ofString (nameOfLength 300)] "C" splitTree (fresh []) =
          .error (.file .nameTooLong) s ∧
        collect [Path.ofString (nameOfLength 300), splitRoot] "C" splitTree (fresh []) =
          .error (.file .nameTooLong) s' := by
  constructor
  · have only : ∀ p ∈ splitTree.sources [splitRoot, middlePath],
        p = actingPath ∨ p = middlePath := by
      simp [FileTree.sources, splitTree, phpFiles_splitRoot, phpFiles_middlePath]
    have collected : IsCollected (splitTree.Declares (splitTree.sources [splitRoot, middlePath]))
        "C" acting.withoutPath ["actionX"] := by
      apply isCollected_acting _ _ only
      · simp [FileTree.sources, splitTree, phpFiles_splitRoot]
      · simp [FileTree.sources, splitTree, phpFiles_splitRoot]
    obtain ⟨table, table', s, s', run, run', -, -, same, exact⟩ :=
      (collect_perm (clean_twoFileTree _ _) (.swap _ _ _) (distinct_splitTree only)
        (faithful_splitTree only) "C").1 (short_twoFileTree _ _)
    have entry : table.get? "A" = some ["actionX"] :=
      (exact "A" ["actionX"]).2 ⟨acting.withoutPath, by decide, collected⟩
    exact ⟨table, table', s, s', run, run', entry, (same "A").symm.trans entry⟩
  · have long : splitTree.locate (Path.ofString (nameOfLength 300)) = .error .nameTooLong :=
      locate_nameOfLength rfl (by decide) (by decide)
    have only : ∀ p ∈ splitTree.sources [splitRoot, Path.ofString (nameOfLength 300)],
        p = actingPath ∨ p = middlePath := by
      rw [FileTree.sources, List.flatMap_cons, List.flatMap_singleton,
        FileTree.phpFiles_of_long long, splitTree, phpFiles_splitRoot]
      simp
    exact (collect_perm (clean_twoFileTree _ _) (.swap _ _ _) (distinct_splitTree only)
      (faithful_splitTree only) "C").2 ⟨_, List.mem_cons_of_mem _ (List.mem_singleton_self _), long⟩

end Sample

end RouteAudit.Audit
