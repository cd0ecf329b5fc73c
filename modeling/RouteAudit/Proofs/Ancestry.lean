import RouteAudit.Proofs.Hierarchy
import RouteAudit.Proofs.KnownClasses
import RouteAudit.Proofs.Source.Grammar.Preamble
import RouteAudit.Proofs.Text.Ascii

/-!
# Ancestors

The ancestors of a class are its parent, the parent of the declaration that is found for that, and
so on; where a hierarchy is circular there is no last one (`Ascent`).  The climb that tells whether
a class descends from another ends in any case.  It stops at a name that it met before, since from
there on the same declarations come again (`Circle.ascent`), and else it meets a class that was not
met before, of which there are only so many.  So it finds the base wherever it is among the
ancestors (`World.isSubclassOf_iff`), unless a path that is tried for a class before it is too long.
-/

namespace RouteAudit.Audit
open Source (Declaration)
open Source.ClassName (Proper)

/-- The ancestors of a class, with its parent first.  Each is looked up in the session that the
look-ups before it left. -/
inductive Ascent (tree : FileTree) : Session → Option String → Session → String → Prop
  | here {s name} : Ascent tree s (some name) s name
  | further {s s₁ s' name d other} (found : find name tree s = .ok (some d) s₁)
      (rest : Ascent tree s₁ d.parent s' other) : Ascent tree s (some name) s' other

/-- Some ancestor has a property when it is looked up. -/
def SomeAncestor (tree : FileTree) (P : Session → String → Prop) (s : Session)
    (parent : Option String) : Prop :=
  ∃ s' name, Ascent tree s parent s' name ∧ P s' name

/-- A name stands for the class of a key. -/
def IsKeyed (key : String) (_ : Session) (name : String) : Prop :=
  Source.ClassName.key name = key

/-- The look-up of a name ends in a fault. -/
def IsBlocked (tree : FileTree) (s : Session) (name : String) : Prop :=
  ∃ fault s', find name tree s = .error fault s'

variable {tree : FileTree} {s s₀ s₁ s' : Session} {name other target : String}
  {parent : Option String} {d : Declaration} {P : Session → String → Prop}

/-- Without a parent there are no ancestors. -/
lemma not_someAncestor_none : ¬SomeAncestor tree P s none := by
  rintro ⟨s', name, ascent, -⟩
  cases ascent

/-- An ancestor is the parent itself, or an ancestor of what is found for it. -/
lemma someAncestor_some : SomeAncestor tree P s (some name) ↔
    P s name ∨ ∃ d s₁, find name tree s = .ok (some d) s₁ ∧ SomeAncestor tree P s₁ d.parent := by
  constructor
  · rintro ⟨s', other, _ | ⟨found, rest⟩, h⟩
    · exact .inl h
    · exact .inr ⟨_, _, found, s', other, rest, h⟩
  · rintro (h | ⟨d, s₁, found, s', other, rest, h⟩)
    · exact ⟨s, name, .here, h⟩
    · exact ⟨s', other, .further found rest, h⟩

/-! ## What a climb should come to -/

/-- What a climb from a parent to the class of a key comes to. -/
inductive Verdict (tree : FileTree) (target : String) (s : Session) (parent : Option String) :
    EStateM.Result Fault Session Bool → Prop
  | descends {s' : Session} (meets : SomeAncestor tree (IsKeyed target) s parent) :
      Verdict tree target s parent (.ok true s')
  | ends {s' : Session} (misses : ¬SomeAncestor tree (IsKeyed target) s parent)
      (free : ¬SomeAncestor tree (IsBlocked tree) s parent) :
      Verdict tree target s parent (.ok false s')
  | fails {s' : Session} (misses : ¬SomeAncestor tree (IsKeyed target) s parent)
      (blocked : SomeAncestor tree (IsBlocked tree) s parent) :
      Verdict tree target s parent (.error (.file .nameTooLong) s')

/-- A class without a parent descends from nothing. -/
lemma Verdict.root (tree : FileTree) (target : String) (s : Session) :
    Verdict tree target s none (.ok false s) :=
  .ends not_someAncestor_none not_someAncestor_none

/-- Behind a parent that is not the class, what is found for it decides. -/
lemma Verdict.further {r : EStateM.Result Fault Session Bool}
    (found : find name tree s = .ok (some d) s₁) (other : Source.ClassName.key name ≠ target)
    (rest : Verdict tree target s₁ d.parent r) : Verdict tree target s (some name) r := by
  have above (P : Session → String → Prop) (here : ¬P s name) :
      SomeAncestor tree P s (some name) ↔ SomeAncestor tree P s₁ d.parent := by
    rw [someAncestor_some, or_iff_right here]
    constructor
    · rintro ⟨d', s₁', found', h⟩
      rw [found] at found'
      cases found'
      exact h
    · exact fun h => ⟨d, s₁, found, h⟩
  have free : ¬IsBlocked tree s name := by
    rintro ⟨fault, s', failed⟩
    rw [found] at failed
    cases failed
  cases rest with
  | descends meets => exact .descends ((above _ other).2 meets)
  | ends misses free' => exact .ends ((above _ other).not.2 misses) ((above _ free).not.2 free')
  | fails misses blocked => exact .fails ((above _ other).not.2 misses) ((above _ free).2 blocked)

/-- A parent that is not the class, and for which nothing is found, is the last ancestor. -/
lemma Verdict.last (found : find name tree s = .ok none s')
    (other : Source.ClassName.key name ≠ target) :
    Verdict tree target s (some name) (.ok false s') := by
  have nothing (P : Session → String → Prop) (here : ¬P s name) :
      ¬SomeAncestor tree P s (some name) := by
    rw [someAncestor_some, or_iff_right here]
    rintro ⟨d, s₁, found', -⟩
    rw [found] at found'
    cases found'
  refine .ends (nothing _ other) (nothing _ ?_)
  rintro ⟨fault, s₁, failed⟩
  rw [found] at failed
  cases failed

/-- A parent that cannot be looked up ends the climb in the fault of its look-up. -/
lemma Verdict.fault (failed : find name tree s = .error (.file .nameTooLong) s')
    (other : Source.ClassName.key name ≠ target) :
    Verdict tree target s (some name) (.error (.file .nameTooLong) s') := by
  refine .fails ?_ (someAncestor_some.2 (.inl ⟨_, s', failed⟩))
  rw [someAncestor_some, or_iff_right (show ¬IsKeyed target s name from other)]
  rintro ⟨d, s₁, found, -⟩
  rw [failed] at found
  cases found

/-! ## Circles -/

/-- Some known declarations of which each has another one of them as its parent. -/
def Circle (s : Session) (circle : List Declaration) : Prop :=
  ∀ e ∈ circle, s.classes.get? e.key = some e ∧
    ∃ name, e.parent = some name ∧ ∃ p ∈ circle, p.key = Source.ClassName.key name

/-- From a circle all ancestors are in the circle, and no look-up changes the session. -/
lemma Circle.ascent {circle : List Declaration} (h : Circle s circle)
    (ascent : Ascent tree s parent s' other)
    (hparent : ∃ name, parent = some name ∧ ∃ p ∈ circle, p.key = Source.ClassName.key name) :
    s' = s ∧ ∃ p ∈ circle, p.key = Source.ClassName.key other := by
  induction ascent with
  | here =>
    obtain ⟨_, ⟨⟩, hp⟩ := hparent
    exact ⟨rfl, hp⟩
  | further found rest ih =>
    obtain ⟨_, ⟨⟩, p, hp, hkey⟩ := hparent
    obtain ⟨known, next⟩ := h p hp
    rw [find_of_known (hkey ▸ known)] at found
    cases found
    exact ih h next

/-! ## Climbs -/

/-- A climb from a class has come to a parent: the declarations that were met on the way are new and
known, they lead to each other or to the parent, and none is the class that is looked for. -/
structure Climb (tree : FileTree) (target : String) (d : Declaration) (s₀ : Session)
    (met : List Declaration) (s : Session) (parent : Option String) : Prop where
  visited : Visited tree s₀ [d.key] met s
  known : s.classes.get? d.key = some d
  links : ∀ e ∈ d :: met, e.parent = parent ∨
    ∃ name, e.parent = some name ∧ ∃ p ∈ met, p.key = Source.ClassName.key name
  missed : ∀ e ∈ met, e.key ≠ target

variable {met : List Declaration}

/-- A climb starts at the parent of a class that is known. -/
lemma Climb.start (tree : FileTree) (target : String) (known : s.classes.get? d.key = some d) :
    Climb tree target d s [] s d.parent where
  visited := .nil s _
  known := known
  links := List.forall_mem_singleton.2 (.inl rfl)
  missed := List.forall_mem_nil _

/-- At a parent that was met before the climb has come full circle. -/
lemma Climb.verdict (h : Climb tree target d s₀ met s (some name))
    (old : Source.ClassName.key name ∈ seenAfter met [d.key])
    (missed : Source.ClassName.key name ≠ target) :
    Verdict tree target s (some name) (.ok false s) := by
  obtain ⟨circle, hcircle, hin, hmissed⟩ : ∃ circle, Circle s circle ∧
      (∃ p ∈ circle, p.key = Source.ClassName.key name) ∧ ∀ p ∈ circle, p.key ≠ target := by
    have next {circle : List Declaration} (hmet : met ⊆ circle)
        (hname : ∃ p ∈ circle, p.key = Source.ClassName.key name) {e : Declaration}
        (he : e ∈ d :: met) :
        ∃ name, e.parent = some name ∧ ∃ p ∈ circle, p.key = Source.ClassName.key name := by
      rcases h.links e he with hparent | ⟨name', hparent, p, hp, hkey⟩
      · exact ⟨name, hparent, hname⟩
      · exact ⟨name', hparent, p, hmet hp, hkey⟩
    rcases mem_seenAfter.1 old with hname | hname
    · refine ⟨met, fun e he => ⟨h.visited.known e he, ?_⟩, hname, h.missed⟩
      exact next (List.Subset.refl _) hname (List.mem_cons_of_mem _ he)
    · -- the class itself is in the circle
      have hself := (List.mem_singleton.1 hname).symm
      have hname : ∃ p ∈ d :: met, p.key = Source.ClassName.key name :=
        ⟨d, List.mem_cons_self, hself⟩
      refine ⟨d :: met, fun e he => ⟨?_, next (List.subset_cons_self _ _) hname he⟩, hname,
        List.forall_mem_cons.2 ⟨hself ▸ missed, h.missed⟩⟩
      exact (List.forall_mem_cons (p := fun e => s.classes.get? e.key = some e)).2
        ⟨h.known, h.visited.known⟩ e he
  refine .ends ?_ ?_
  · rintro ⟨s', other, ascent, hkey⟩
    obtain ⟨-, p, hp, hother⟩ := hcircle.ascent ascent ⟨name, rfl, hin⟩
    exact hmissed p hp (hother.trans hkey)
  · rintro ⟨s', other, ascent, fault, s'', failed⟩
    obtain ⟨rfl, p, hp, hother⟩ := hcircle.ascent ascent ⟨name, rfl, hin⟩
    rw [find_of_known (hother ▸ (hcircle p hp).1)] at failed
    cases failed

/-- A parent that was not met before is met when it is found. -/
lemma Climb.further {e : Declaration} (h : Climb tree target d s₀ met s (some name))
    (loads : Loads tree s name e s₁) (new : e.key ∉ seenAfter met [d.key])
    (missed : e.key ≠ target) : Climb tree target d s₀ (met ++ [e]) s₁ e.parent where
  visited := h.visited.append (.one loads new)
  known := (find_found loads.1).grows.keeps _ _ h.known
  links e' he' := by
    rcases List.mem_append.1 ((List.cons_append (a := d)).symm ▸ he') with he' | he'
    · have hkey := ClassTable.key_of_get? ((find_found loads.1).known e rfl)
      rcases h.links e' he' with hparent | ⟨name', hparent, p, hp, hkey'⟩
      · exact .inr ⟨name, hparent, e, List.mem_append_right _ List.mem_cons_self, hkey⟩
      · exact .inr ⟨name', hparent, p, List.mem_append_left _ hp, hkey'⟩
    · exact .inl (congrArg Declaration.parent (List.mem_singleton.1 he'))
  missed := List.forall_mem_append.2 ⟨h.missed, List.forall_mem_singleton.2 missed⟩

/-- A climb ends where there is no parent. -/
lemma ascends_none (target : String) (steps : Nat) (seen : List String) (s : Session) :
    ascends target steps seen none tree s = .ok false s := by
  cases steps <;> rfl

/-- What a climb does at a parent. -/
lemma ascends_some (tree : FileTree) (target : String) (steps : Nat) (seen : List String)
    (name : String) (s : Session) :
    ascends target (steps + 1) seen (some name) tree s =
      if Text.lower name = target then .ok true s
      else if Text.lower name ∈ seen then .ok false s
      else
        match find name tree s with
        | .error fault s' => .error fault s'
        | .ok none s' => .ok false s'
        | .ok (some d) s' => ascends target steps (Text.lower name :: seen) d.parent tree s' := by
  rw [ascends]
  by_cases htarget : Text.lower name = target
  · rw [if_pos htarget, if_pos htarget]
    rfl
  · rw [if_neg htarget, if_neg htarget]
    by_cases hseen : Text.lower name ∈ seen
    · rw [if_pos hseen, if_pos (by simpa using hseen)]
      rfl
    · rw [if_neg hseen, if_neg (by simpa using hseen), run_bind]
      cases find name tree s with
      | error fault s' => rfl
      | ok found s' => cases found <;> rfl

variable {places : ClassTable}

/-- At a parent a climb comes to its verdict, or it goes on from what is found for the parent. -/
lemma Climb.step (h : Climb tree target d s₀ met s (some name))
    (knows : Knows places Declaration.Sound s.classes) (proper : Proper name) :
    (∃ r, Verdict tree target s (some name) r ∧
      ∀ steps, ascends target (steps + 1) (seenAfter met [d.key]) (some name) tree s = r) ∨
    ∃ e s₁, find name tree s = .ok (some e) s₁ ∧ Source.ClassName.key name ≠ target ∧
      Climb tree target d s₀ (met ++ [e]) s₁ e.parent ∧
      Knows places Declaration.Sound s₁.classes ∧ e.Sound ∧
      ∀ steps, ascends target (steps + 1) (seenAfter met [d.key]) (some name) tree s =
        ascends target steps (seenAfter (met ++ [e]) [d.key]) e.parent tree s₁ := by
  have run (steps : Nat) := ascends_some tree target steps (seenAfter met [d.key]) name s
  rw [← proper.key] at run
  by_cases missed : Source.ClassName.key name = target
  · refine .inl ⟨.ok true s, .descends (someAncestor_some.2 (.inl missed)), fun steps => ?_⟩
    rw [run, if_pos missed]
  by_cases old : Source.ClassName.key name ∈ seenAfter met [d.key]
  · refine .inl ⟨.ok false s, h.verdict old missed, fun steps => ?_⟩
    rw [run, if_neg missed, if_pos old]
  simp only [if_neg missed, if_neg old] at run
  have answer := find_sound tree places name s knows
  cases hfind : find name tree s with
  | error fault s' =>
    simp only [hfind] at answer run
    cases answer with
    | error _ hfault =>
      obtain ⟨rfl, -⟩ := hfault
      exact .inl ⟨_, .fault hfind missed, run⟩
  | ok found s' =>
    simp only [hfind] at answer run
    cases answer with
    | ok knows' sound =>
      cases found with
      | none => exact .inl ⟨_, .last hfind missed, run⟩
      | some e =>
        have hkey := ClassTable.key_of_get? ((find_found hfind).known e rfl)
        have climb := h.further ⟨hfind, hkey.trans proper.key⟩ (hkey ▸ old) (hkey ▸ missed)
        refine .inr ⟨e, s', rfl, missed, climb, knows', sound e rfl, fun steps => ?_⟩
        rw [run, seenAfter_append, seenAfter_cons, hkey]
        rfl

/-- From any point a climb comes to a verdict, whatever steps it may take beyond as many as there
may be classes.  The induction is on the number of classes that may still come up. -/
lemma Climb.exists_verdict {left : Nat} (h : Climb tree target d s₀ met s parent)
    (enough : s₀.classes.potential tree < met.length + left)
    (knows : Knows places Declaration.Sound s.classes)
    (proper : ∀ name, parent = some name → Proper name) :
    ∃ r, Verdict tree target s parent r ∧
      ∀ steps, left ≤ steps → ascends target steps (seenAfter met [d.key]) parent tree s = r := by
  induction left generalizing met s parent with
  | zero =>
    -- more classes were met than can be known
    exact absurd h.visited.length_le_potential (by omega)
  | succ left ih =>
    cases parent with
    | none => exact ⟨_, .root tree target s, fun steps _ => ascends_none _ _ _ _⟩
    | some name =>
      rcases h.step knows (proper name rfl) with
        ⟨r, verdict, run⟩ | ⟨e, s₁, found, missed, climb, knows', sound, run⟩
      · refine ⟨r, verdict, fun steps hsteps => ?_⟩
        obtain ⟨more, rfl⟩ := Nat.exists_eq_add_of_le' hsteps
        exact run (more + left)
      · obtain ⟨r, verdict, runs⟩ := ih climb (by simp; omega) knows' sound.parent
        refine ⟨r, verdict.further found missed, fun steps hsteps => ?_⟩
        obtain ⟨more, rfl⟩ := Nat.exists_eq_add_of_le' hsteps
        exact (run (more + left)).trans (runs _ (Nat.le_add_left _ _))

/-! ## Descendants -/

/-- Where a look-up on the way is blocked, a path that is tried for the ancestor is too long. -/
lemma overlong_of_isBlocked (knows : Knows places Declaration.Sound s.classes)
    (blocked : SomeAncestor tree (IsBlocked tree) s parent) :
    SomeAncestor tree (fun _ => Overlong tree places) s parent := by
  obtain ⟨s', name, ascent, fault, s'', failed⟩ := blocked
  refine ⟨s', name, ascent, ?_⟩
  induction ascent with
  | @here s name =>
    have answer := find_sound tree places name s knows
    rw [failed] at answer
    cases answer with
    | error _ hfault => exact hfault.2
  | further found _ ih => exact ih ((find_sound tree places _).of_ok knows found).1 failed

/-- The number of steps that a climb may take. -/
def reachFrom (tree : FileTree) (s : Session) : Nat :=
  s.classes.classes.length + tree.size + 1

/-- More steps are made ready than the classes that can be known. -/
lemma potential_lt_reachFrom (tree : FileTree) (s : Session) :
    s.classes.potential tree < reachFrom tree s := by
  have unread : tree.unread s.classes.files ≤ tree.size := FileTree.unread_le_size
  rw [ClassTable.potential, reachFrom]
  omega

/-- To test for a base is to climb from the parent. -/
lemma isSubclassOf_eq (d : Declaration) (base : String) (s : Session) :
    isSubclassOf d base tree s =
      ascends (Source.ClassName.key base) (reachFrom tree s) [d.key] d.parent tree s :=
  rfl

/-- A climb from a known class comes to a verdict, and more steps would change nothing. -/
lemma isSubclassOf_verdict (tree : FileTree) (knows : Knows places Declaration.Sound s.classes)
    (known : s.classes.get? d.key = some d) (base : String) :
    Verdict tree (Source.ClassName.key base) s d.parent (isSubclassOf d base tree s) ∧
      ∀ steps, reachFrom tree s ≤ steps →
        ascends (Source.ClassName.key base) steps [d.key] d.parent tree s =
          isSubclassOf d base tree s := by
  have room : s.classes.potential tree < ([] : List Declaration).length + reachFrom tree s := by
    simpa using potential_lt_reachFrom tree s
  obtain ⟨r, verdict, runs⟩ :=
    (Climb.start tree _ known).exists_verdict room knows (knows.get? known).parent
  have run : isSubclassOf d base tree s = r := (isSubclassOf_eq d base s).trans (runs _ le_rfl)
  rw [run]
  exact ⟨verdict, runs⟩

/-- A verdict tells what there is among the ancestors. -/
lemma Verdict.iff {r : EStateM.Result Fault Session Bool} (h : Verdict tree target s parent r) :
    (answerOf r = .ok true ↔ SomeAncestor tree (IsKeyed target) s parent) ∧
    (answerOf r = .ok false ↔ ¬SomeAncestor tree (IsKeyed target) s parent ∧
      ¬SomeAncestor tree (IsBlocked tree) s parent) ∧
    ∀ fault, answerOf r = .error fault ↔ fault = .file .nameTooLong ∧
      ¬SomeAncestor tree (IsKeyed target) s parent ∧
        SomeAncestor tree (IsBlocked tree) s parent := by
  cases h with
  | descends meets => simp [answerOf, meets]
  | ends misses free => simp [answerOf, misses, free]
  | fails misses blocked => simp [answerOf, misses, blocked, eq_comm]

namespace World

/-- A class that was reflected was found. -/
lemma find_of_findClass {w : World} (found : w.answer (findClass name) = .ok (some d)) :
    w.answer (find name) = .ok (some d) := by
  rw [answer, run_findClass] at found
  rw [answer]
  cases hrun : find name w.tree w.session with
  | error fault s' =>
    rw [hrun] at found
    cases found
  | ok e s' =>
    rw [hrun] at found
    exact congrArg Except.ok (Option.eq_some_of_filter_eq_some (Except.ok.inj found))

/-- A class that was reflected is known, whatever happens then. -/
lemma get?_after_findClass {w : World} (found : w.answer (findClass name) = .ok (some d))
    (later : List Event) :
    (w.after (.call (.findClass name) :: later)).session.classes.get? d.key = some d := by
  have same : w.next (.call (.findClass name)) = w.next (.call (.find name)) := by
    rw [next, next, Call.perform, Call.perform, sessionOf_discard, sessionOf_discard,
      run_findClass]
    cases find name w.tree w.session <;> rfl
  have known := get?_after_find (find_of_findClass found) later
  rw [ClassTable.key_of_get? known]
  rwa [after, List.foldl_cons, same]

/-- **A reflected class descends from just those classes that are among its ancestors**, in any case
and with any backslashes at the ends, at any time after it was reflected.  The climb ends also where
the hierarchy is circular and where there is nothing to be found for an ancestor; more steps than it
may take would change nothing.  It fails where a path that it tries for an ancestor is too long, if
it does not come to the class before. -/
theorem isSubclassOf_iff (autoload : Autoload) (tree : FileTree) (before later : List Event)
    {name : String} {d : Declaration}
    (reflected : ((start autoload tree).after before).answer (findClass name) = .ok (some d))
    (base : String) :
    let w := ((start autoload tree).after before).after (.call (.findClass name) :: later)
    let above P := SomeAncestor w.tree P w.session d.parent
    let isBase := IsKeyed (Source.ClassName.key base)
    (w.answer (isSubclassOf d base) = .ok true ↔ above isBase) ∧
    (w.answer (isSubclassOf d base) = .ok false ↔ ¬above isBase ∧ ¬above (IsBlocked w.tree)) ∧
    (∀ fault, w.answer (isSubclassOf d base) = .error fault ↔
      fault = .file .nameTooLong ∧ ¬above isBase ∧ above (IsBlocked w.tree)) ∧
    (above (IsBlocked w.tree) → above fun _ => Overlong w.tree (.ofAutoload autoload)) ∧
    ∀ steps, reachFrom w.tree w.session ≤ steps →
      ascends (Source.ClassName.key base) steps [d.key] d.parent w.tree w.session =
        isSubclassOf d base w.tree w.session := by
  intro w above isBase
  have knows : Knows (.ofAutoload autoload) Declaration.Sound w.session.classes := by
    have events := sound_after autoload tree (before ++ .call (.findClass name) :: later)
    rwa [after, List.foldl_append] at events
  have known : w.session.classes.get? d.key = some d := get?_after_findClass reflected later
  obtain ⟨verdict, runs⟩ := isSubclassOf_verdict w.tree knows known base
  obtain ⟨isTrue, isFalse, isFault⟩ := verdict.iff
  exact ⟨isTrue, isFalse, isFault, overlong_of_isBlocked knows, runs⟩

end World

section Sample

open Source.Grammar

/-- The keyword of a parent stands. -/
lemma stands_extends : Source.Lexer.Stands .name "extends".toList := by
  decide

/-- A class with a given parent. -/
def heirDecl (parent : Name) : ClassDecl :=
  { sampleHeir with
    ancestry := .parent ⟨⟨"extends", stands_extends⟩, List.mem_singleton_self _⟩ parent }

/-- A file with a class `A` that extends another. -/
def heirFile (parent : Name) : ClassFile where
  front := [.class (heirDecl parent)]
  spaces := []

/-- A tree with one file. -/
def soleTree (bytes : List UInt8) : FileTree :=
  { entries := [(["A.php"], .file bytes)] }

/-- A tree with just this file. -/
def heirTree (parent : Name) : FileTree :=
  soleTree (Text.ascii (heirFile parent).source)

/-- The places of classes: all are sought in the root. -/
def heirAutoload : Autoload :=
  [("", [""])]

/-- The class of the file. -/
def heir (parent : Name) : Declaration :=
  { name := "A", kind := .class, parent := some (({} : Source.NameScope).resolve parent.text),
    path := some (Path.ofString "A.php") }

/-- The one file can be read. -/
lemma read_soleTree (bytes : List UInt8) :
    (soleTree bytes).read (Path.ofString "A.php") = .ok bytes := by
  cbv

/-- The one file is a file. -/
lemma isFile_soleTree (bytes : List UInt8) :
    (soleTree bytes).isFile (Path.ofString "A.php") = .ok true := by
  cbv

/-- The class `C` has no file. -/
lemma isFile_missing (bytes : List UInt8) :
    (soleTree bytes).isFile (Path.ofString "C.php") = .ok false := by
  cbv

/-- What is written in the file of a class that extends `C`. -/
lemma source_heirC :
    (heirFile letterC).source = "<?php class A extends C \x7b \x7d ".toList := by
  decide

/-- What is written in the file of a class that extends itself. -/
lemma source_heirA :
    (heirFile letterA).source = "<?php class A extends A \x7b \x7d ".toList := by
  decide

/-- A source of ASCII characters. -/
def IsAscii (source : List Char) : Prop :=
  ∀ c ∈ source, c.toNat < 0x80 ∧ c ≠ '\r'

/-- The one file declares the one class. -/
lemma declared_heirTree {parent : Name} (ascii : IsAscii (heirFile parent).source) :
    (heirTree parent).declared (Path.ofString "A.php") = [heir parent] := by
  rw [heirTree, FileTree.declared_of_read (read_soleTree _), sourceText_ascii ascii,
    Declaration.parse, texts_classFile]
  rfl

/-- The class is found by its name. -/
lemma searchName_heirTree {parent : Name} (ascii : IsAscii (heirFile parent).source) :
    searchName (heirTree parent) heirAutoload "A" = .ok (some (heir parent)) := by
  have candidates : (ClassTable.ofAutoload heirAutoload).candidates (Source.ClassName.bare "A") =
      [Path.ofString "A.php"] := by
    cbv
  have key : Source.ClassName.key "A" = (heir parent).key := by
    show Source.ClassName.key "A" = Text.lower "A"
    decide
  rw [searchName, candidates, search, heirTree, isFile_soleTree, ← heirTree,
    declared_heirTree ascii, key, Declaration.first?_cons_self]

/-- The class is found in the first session. -/
lemma reflected_heir {parent : Name} (ascii : IsAscii (heirFile parent).source) :
    ((World.start heirAutoload (heirTree parent)).after []).answer (findClass "A") =
      .ok (some (heir parent)) := by
  obtain ⟨s, run⟩ := find_fresh (heirTree parent) heirAutoload "A"
  rw [searchName_heirTree ascii] at run
  have answer : answerOf (findClass "A" (heirTree parent) (fresh heirAutoload)) =
      .ok (some (heir parent)) := by
    rw [run_findClass, run]
    rfl
  exact answer

/-- There is no other class. -/
lemma key_of_mem_declared {parent : Name} (ascii : IsAscii (heirFile parent).source) {p : Path}
    (h : d ∈ (heirTree parent).declared p) : d.key = "a" := by
  obtain ⟨bytes, hread⟩ := FileTree.read_of_declared h
  obtain ⟨names, -, entry⟩ := FileTree.identity_of_read hread
  obtain ⟨-, rfl⟩ : names = ["A.php"] ∧ bytes = Text.ascii (heirFile parent).source := by
    simpa [heirTree, soleTree] using entry
  rw [FileTree.declared_of_read hread, sourceText_ascii ascii, Declaration.parse,
    texts_classFile] at h
  obtain rfl := List.mem_singleton.1 h
  show Text.lower "A" = "a"
  decide

/-- The world in which the class was reflected. -/
def heirWorld (parent : Name) : World :=
  ((World.start heirAutoload (heirTree parent)).after []).after [.call (.findClass "A")]

/-- Behind the class, any other is sought among the files. -/
lemma find_heirWorld {parent : Name} (ascii : IsAscii (heirFile parent).source) {name : String}
    (other : Source.ClassName.key name ≠ "a") :
    ∃ s, find name (heirTree parent) (heirWorld parent).session =
      finish (searchName (heirTree parent) heirAutoload name) s := by
  have offered (name : String) : ∀ p ∈ (ClassTable.ofAutoload heirAutoload).candidates name,
      (fun _ => True) p := fun _ _ => trivial
  have nothing : Consistent (heirTree parent) heirAutoload (fun _ => True)
      (fresh heirAutoload).classes := consistent_fresh
  obtain ⟨s, run, consistent⟩ := find_unknown offered nothing
    (show (fresh heirAutoload).classes.get? (Source.ClassName.key "A") = none from rfl)
  have session : (heirWorld parent).session = s := by
    show sessionOf ((Call.findClass "A").perform (heirTree parent) (fresh heirAutoload)) = s
    rw [Call.perform, sessionOf_discard, run_findClass, run, searchName_heirTree ascii]
    rfl
  have unknown : s.classes.get? (Source.ClassName.key name) = none := by
    by_contra hknown
    obtain ⟨d, hd⟩ := Option.ne_none_iff_exists'.1 hknown
    obtain ⟨p, -, hfirst⟩ := consistent.known _ d hd
    obtain ⟨hmem, hkey⟩ := Declaration.mem_of_first? hfirst
    exact other (hkey.symm.trans (key_of_mem_declared ascii hmem))
  obtain ⟨s', run', -⟩ := find_unknown offered consistent unknown
  exact ⟨s', session ▸ run'⟩

/-- A class whose parent cannot be found, and a class that is its own parent. -/
theorem isSubclassOf_iff_heirs :
    (heirWorld letterC).answer (isSubclassOf (heir letterC) "\\c") = .ok true ∧
    (heirWorld letterC).answer (isSubclassOf (heir letterC) "B") = .ok false ∧
    (heirWorld letterA).answer (isSubclassOf (heir letterA) "A") = .ok true ∧
    (heirWorld letterA).answer (isSubclassOf (heir letterA) "B") = .ok false := by
  have asciiC : IsAscii (heirFile letterC).source := by
    rw [source_heirC]
    exact Source.Lexer.forall_mem_of_all (by decide)
  have asciiA : IsAscii (heirFile letterA).source := by
    rw [source_heirA]
    exact Source.Lexer.forall_mem_of_all (by decide)
  have ofC (base : String) := World.isSubclassOf_iff heirAutoload (heirTree letterC) [] []
    (reflected_heir asciiC) base
  have ofA (base : String) := World.isSubclassOf_iff heirAutoload (heirTree letterA) [] []
    (reflected_heir asciiA) base
  have parentC : (heir letterC).parent = some "C" := by decide
  have parentA : (heir letterA).parent = some "A" := by decide
  simp only [parentC] at ofC
  simp only [parentA] at ofA
  have sameC : Source.ClassName.key "C" = Source.ClassName.key "\\c" := by decide
  refine ⟨(ofC "\\c").1.2 ⟨_, _, .here, sameC⟩, (ofC "B").2.1.2 ?_,
    (ofA "A").1.2 ⟨_, _, .here, rfl⟩, (ofA "B").2.1.2 ?_⟩
  · have candidates : (ClassTable.ofAutoload heirAutoload).candidates
        (Source.ClassName.bare "C") = [Path.ofString "C.php"] := by
      cbv
    have search : searchName (heirTree letterC) heirAutoload "C" = .ok none := by
      rw [searchName, candidates, search, heirTree, isFile_missing, search]
    have other : Source.ClassName.key "C" ≠ "a" := by decide
    obtain ⟨s, run⟩ := find_heirWorld asciiC other
    rw [search] at run
    exact (Verdict.last run (by decide)).iff.2.1.1 rfl
  · have known := World.get?_after_findClass (reflected_heir asciiA) []
    have climb := Climb.start (heirTree letterA) (Source.ClassName.key "B") known
    rw [parentA] at climb
    have circle : Source.ClassName.key "A" = (heir letterA).key := by decide
    exact (climb.verdict (circle ▸ List.mem_singleton_self _) (by decide)).iff.2.1.1 rfl

end Sample

end RouteAudit.Audit
