import RouteAudit.Proofs.MemberOrder

/-!
# Classes that files declare

Some files declare classes of which no two have one name.  Which of them descend from a base
(`Descends`) and which declarations have a part in a class (`Members`) can be told from the classes
alone.  A session that knows just these classes and looks for no others answers accordingly, in
whatever order it learnt them (`KnowsJust.isCollected_iff`).
-/

namespace RouteAudit
open Source (Declaration)

namespace FileTree

/-- A file at one of the given paths declares a class; which path it is has no part in this. -/
def Declares (tree : FileTree) (paths : List Path) (d : Declaration) : Prop :=
  ∃ p ∈ paths, ∃ e ∈ tree.declared p, e.withoutPath = d

/-- The classes that the files at the given paths declare have different names, whatever the case of
their letters.  Two paths to one file count once. -/
structure Distinct (tree : FileTree) (paths : List Path) : Prop where
  within : ∀ p ∈ paths, ((tree.declared p).map (·.key)).Nodup
  between : ∀ p ∈ paths, ∀ q ∈ paths, ∀ d ∈ tree.declared p, ∀ e ∈ tree.declared q,
    d.key = e.key → tree.identity p = tree.identity q

variable {tree : FileTree} {paths : List Path} {p q : Path} {d e : Declaration}

/-- Paths to one file lead to the same declarations. -/
lemma declared_congr {bytes bytes' : List UInt8} (hp : tree.read p = .ok bytes)
    (hq : tree.read q = .ok bytes') (same : tree.identity p = tree.identity q) :
    (tree.declared p).map Declaration.withoutPath =
      (tree.declared q).map Declaration.withoutPath := by
  obtain rfl := read_unique hp hq same
  rw [declared_of_read hp, declared_of_read hq, Declaration.parse, Declaration.parse, List.map_map,
    List.map_map]
  rfl

/-- A class is known by its key. -/
lemma Distinct.unique (h : tree.Distinct paths) (hd : tree.Declares paths d)
    (he : tree.Declares paths e) (same : d.key = e.key) : d = e := by
  obtain ⟨p, hp, d, hd, rfl⟩ := hd
  obtain ⟨q, hq, e, he, rfl⟩ := he
  obtain ⟨bytes, hread⟩ := read_of_declared hd
  obtain ⟨bytes', hread'⟩ := read_of_declared he
  have congr := declared_congr hread hread' (h.between p hp q hq d hd e he same)
  have here : e.withoutPath ∈ (tree.declared p).map Declaration.withoutPath :=
    congr ▸ List.mem_map_of_mem he
  obtain ⟨f, hf, heq⟩ := List.mem_map.1 here
  have key : f.key = d.key := (congrArg Declaration.key heq).trans same.symm
  obtain rfl := List.inj_on_of_nodup_map (h.within p hp) hf hd key
  exact heq

end FileTree

namespace Audit
open Source.ClassName (Proper)

/-! ## What can be told from the classes -/

/-- A class descends from a base: a chain of parents among some classes leads to it. -/
inductive Descends (K : Declaration → Prop) (base : String) : Declaration → Prop
  | child {d name} :
    d.parent = some name →
    Source.ClassName.key name = Source.ClassName.key base →
    Descends K base d
  | further {d name p} :
    d.parent = some name →
    K p →
    p.key = Source.ClassName.key name →
    Descends K base p →
    Descends K base d

/-- The declarations among some classes that have a part in a class, behind those with the keys that
were seen: the traits that are named, each with the traits that it uses, and then the parent with
its own.  What was seen before and what is no class is passed over. -/
inductive Members (K : Declaration → Prop) :
    List String → List String → Option String → List Declaration → Prop
  | skip {seen name names parent ds} :
    (∀ t, K t → t.key = Source.ClassName.key name → t.key ∈ seen) →
    Members K seen names parent ds →
    Members K seen (name :: names) parent ds
  | trait {seen name names parent t ds} :
    K t →
    t.key = Source.ClassName.key name →
    t.key ∉ seen →
    Members K (t.key :: seen) (t.traits ++ names) parent ds →
    Members K seen (name :: names) parent (t :: ds)
  | root {seen} :
    Members K seen [] none []
  | last {seen name} :
    (∀ p, K p → p.key = Source.ClassName.key name → p.key ∈ seen) →
    Members K seen [] (some name) []
  | parent {seen name p ds} :
    K p →
    p.key = Source.ClassName.key name →
    p.key ∉ seen →
    Members K (p.key :: seen) p.traits p.parent ds →
    Members K seen [] (some name) (p :: ds)

/-- The action methods of some declarations, in order. -/
def actionsOf (ds : List Declaration) : List String :=
  (ds.foldl addMethods []).filter Identifier.isAction

/-- A class among some classes is collected with its action methods: it is concrete, descends from
the base, and has an action. -/
structure IsCollected (K : Declaration → Prop) (base : String) (d : Declaration)
    (methods : List String) : Prop where
  declared : K d
  kind : d.kind = .class
  concrete : d.isAbstract = false
  descends : Descends K base d
  actions : ∃ ds, Members K [d.key] d.traits d.parent ds ∧ methods = actionsOf (d :: ds)
  hasAction : methods ≠ []

variable {K : Declaration → Prop} {seen names : List String} {name base : String}
  {parent : Option String} {ds es : List Declaration} {d : Declaration}

/-- Where classes are known by their keys, there is one list of members. -/
lemma Members.unique (unique : ∀ d e, K d → K e → d.key = e.key → d = e)
    (h : Members K seen names parent ds) (h' : Members K seen names parent es) : ds = es := by
  induction h generalizing es with
  | skip old _ ih =>
    cases h' with
    | skip _ rest' => exact ih rest'
    | trait ht key new _ => exact absurd (old _ ht key) new
  | trait ht key new _ ih =>
    cases h' with
    | skip old _ => exact absurd (old _ ht key) new
    | trait ht' key' _ rest' =>
      obtain rfl := unique _ _ ht ht' (key.trans key'.symm)
      rw [ih rest']
  | root =>
    cases h'
    rfl
  | last old =>
    cases h' with
    | last _ => rfl
    | parent hp key new _ => exact absurd (old _ hp key) new
  | parent hp key new _ ih =>
    cases h' with
    | last old => exact absurd (old _ hp key) new
    | parent hp' key' _ rest' =>
      obtain rfl := unique _ _ hp hp' (key.trans key'.symm)
      rw [ih rest']

/-! ## Sessions that look for no class -/

/-- A session knows just the classes that some files declare, and looks for no others. -/
structure KnowsJust (tree : FileTree) (paths : List Path) (s : Session) : Prop where
  knows : Knows (.ofAutoload []) Declaration.Sound s.classes
  declared : ∀ key d, s.classes.get? key = some d → tree.Declares paths d.withoutPath
  all : ∀ d, tree.Declares paths d →
    ∃ e, s.classes.get? d.key = some e ∧ e.withoutPath = d

variable {tree : FileTree} {paths : List Path} {s s' : Session}

/-- A trait that is not found is passed over. -/
lemma visitAll_unknown (new : Text.lower name ∉ seen) (unknown : find name tree s = .ok none s')
    (steps : Nat) (parent : Option String) :
    visitAll steps seen (name :: names) parent tree s = visitAll steps seen names parent tree s' := by
  rw [visitAll, visit, if_neg (by simpa using new), run_bind, unknown]

/-- A parent that is not found ends the walk. -/
lemma visitAll_unknownParent (unknown : find name tree s = .ok none s') (steps : Nat) :
    visitAll steps seen [] (some name) tree s = .ok [] s' := by
  rw [visitAll, visit, run_bind, unknown]
  rfl

namespace KnowsJust

/-- A search looks up what is known, and learns nothing. -/
lemma find (h : KnowsJust tree paths s) (name : String) :
    Audit.find name tree s = .ok (s.classes.get? (Source.ClassName.key name)) s := by
  cases known : s.classes.get? (Source.ClassName.key name) with
  | some d => exact find_of_known known
  | none =>
    have nowhere : s.classes.candidates (Source.ClassName.bare name) = [] := by
      rw [h.knows.candidates, ClassTable.candidates, ClassTable.ofAutoload, List.mergeSort_nil]
      rfl
    rw [Audit.find, run_bind, run_get]
    simp only [known, nowhere]
    rfl

/-- Of a name that is not known there is no class. -/
lemma notDeclared (h : KnowsJust tree paths s)
    (unknown : s.classes.get? (Source.ClassName.key name) = none) {d : Declaration}
    (hd : tree.Declares paths d) : d.key ≠ Source.ClassName.key name := by
  intro key
  obtain ⟨e, known, -⟩ := h.all d hd
  rw [key, unknown] at known
  cases known

/-! ## Descendants -/

/-- Where just the files are known, a climb comes to a verdict and learns nothing. -/
lemma ascends (h : KnowsJust tree paths s) (target : String) (steps : Nat) (seen : List String)
    (parent : Option String) :
    ∃ b, Audit.ascends target steps seen parent tree s = .ok b s := by
  induction steps generalizing seen parent with
  | zero => cases parent <;> exact ⟨_, rfl⟩
  | succ steps ih =>
    cases parent with
    | none => exact ⟨false, ascends_none _ _ _ _⟩
    | some name =>
      rw [ascends_some, h.find]
      split
      · exact ⟨true, rfl⟩
      · split
        · exact ⟨false, rfl⟩
        · cases s.classes.get? (Source.ClassName.key name) with
          | none => exact ⟨false, rfl⟩
          | some d => exact ih _ _

/-- The ancestors that are looked up are those in the chain of parents. -/
lemma someAncestor_iff (h : KnowsJust tree paths s) (base : String) (d : Declaration) :
    SomeAncestor tree (IsKeyed (Source.ClassName.key base)) s d.parent ↔
      Descends (tree.Declares paths) base d.withoutPath := by
  constructor
  · rintro ⟨s', other, ascent, hkey⟩
    generalize hparent : d.parent = parent at ascent
    induction ascent generalizing d with
    | here => exact .child hparent hkey
    | further found rest ih =>
      rw [h.find] at found
      obtain ⟨known, rfl⟩ := EStateM.Result.ok.inj found
      have key := ClassTable.key_of_get? known
      exact .further hparent (h.declared _ _ known) key (ih h _ hkey rfl)
  · generalize hd : d.withoutPath = d'
    intro descends
    induction descends generalizing d with
    | child hparent hkey =>
      subst hd
      have hparent : d.parent = some _ := hparent
      rw [hparent]
      exact someAncestor_some.2 (.inl hkey)
    | further hparent hp hkey _ ih =>
      subst hd
      have hparent : d.parent = some _ := hparent
      obtain ⟨e, known, heq⟩ := h.all _ hp
      rw [hparent]
      exact someAncestor_some.2 (.inr ⟨e, s, (h.find _).trans (by rw [← hkey, known]), ih e heq⟩)

/-- Where just the files are known, a class descends from a base just if its declarations say so. -/
lemma isSubclassOf (h : KnowsJust tree paths s) (known : s.classes.get? d.key = some d)
    (base : String) :
    ∃ b, Audit.isSubclassOf d base tree s = .ok b s ∧
      (b = true ↔ Descends (tree.Declares paths) base d.withoutPath) := by
  obtain ⟨b, run⟩ := h.ascends (Source.ClassName.key base) (reachFrom tree s) [d.key] d.parent
  have verdict := (isSubclassOf_verdict tree h.knows known base).1.iff.1
  rw [isSubclassOf_eq, run, h.someAncestor_iff] at verdict
  refine ⟨b, (isSubclassOf_eq d base s).trans run, verdict.symm.trans ?_ |>.symm⟩
  exact ⟨Except.ok.inj, congrArg Except.ok⟩

/-! ## Members -/

/-- A visit of some names and a parent lists their members, and learns nothing. -/
def Visits (tree : FileTree) (paths : List Path) (s : Session) (steps : Nat) (seen names : List String)
    (parent : Option String) : Prop :=
  ∃ ds, visitAll steps seen names parent tree s = .ok ds s ∧
    Members (tree.Declares paths) seen names parent (ds.map Declaration.withoutPath)

/-- Behind each class that is known and was not seen, a visit goes on to its end. -/
def VisitsBehind (tree : FileTree) (paths : List Path) (s : Session) (steps : Nat) (seen : List String) :
    Prop :=
  ∀ {name : String} {d : Declaration}, Proper name →
    s.classes.get? (Source.ClassName.key name) = some d → d.key ∉ seen →
    ∀ {names : List String} {parent : Option String}, (∀ name ∈ names, Proper name) →
      (∀ name, parent = some name → Proper name) →
      Visits tree paths s steps (d.key :: seen) names parent

variable {steps : Nat}

/-- A class that is known is sound. -/
lemma sound (h : KnowsJust tree paths s) {key : String} (known : s.classes.get? key = some d) :
    d.Sound :=
  h.knows.get? known

/-- Where all names are visited, the parent is next. -/
lemma visits_parent (h : KnowsJust tree paths s)
    (hparent : ∀ name, parent = some name → Proper name)
    (next : VisitsBehind tree paths s steps seen) : Visits tree paths s (steps + 1) seen [] parent := by
  cases parent with
  | none => exact ⟨[], visitAll_noParent _, .root⟩
  | some name =>
    have proper := hparent name rfl
    cases known : s.classes.get? (Source.ClassName.key name) with
    | none =>
      have unknown : Audit.find name tree s = .ok none s := (h.find name).trans (by rw [known])
      refine ⟨[], visitAll_unknownParent unknown _, .last fun p hp hkey => ?_⟩
      exact absurd hkey (h.notDeclared known hp)
    | some p =>
      have loads : Loads tree s name p s := .of_known proper known
      have hkey := ClassTable.key_of_get? known
      by_cases old : p.key ∈ seen
      · refine ⟨[], by rw [visitAll_parent loads, if_pos old], .last fun q _ hkey' => ?_⟩
        rwa [hkey', ← hkey]
      · obtain ⟨ds, onward, members⟩ :=
          next proper known old (h.sound known).traits (h.sound known).parent
        refine ⟨p :: ds, ?_, .parent (h.declared _ _ known) hkey old members⟩
        rw [visitAll_parent loads, if_neg old, onward]
        rfl

/-- The names are visited one after the other, by induction on them. -/
lemma visits_names (h : KnowsJust tree paths s) (hnames : ∀ name ∈ names, Proper name)
    (hparent : ∀ name, parent = some name → Proper name)
    (next : VisitsBehind tree paths s steps seen) :
    Visits tree paths s (steps + 1) seen names parent := by
  induction names with
  | nil => exact h.visits_parent hparent next
  | cons name names ih =>
    obtain ⟨proper, hnames⟩ := List.forall_mem_cons.1 hnames
    obtain ⟨ds, run, members⟩ := ih hnames
    by_cases old : Text.lower name ∈ seen
    · refine ⟨ds, by rw [visitAll_again old, run], .skip (fun t _ hkey => ?_) members⟩
      rwa [hkey, proper.key]
    · cases known : s.classes.get? (Source.ClassName.key name) with
      | none =>
        have unknown : Audit.find name tree s = .ok none s := (h.find name).trans (by rw [known])
        refine ⟨ds, (visitAll_unknown old unknown _ _).trans run, .skip (fun t ht hkey => ?_) members⟩
        exact absurd hkey (h.notDeclared known ht)
      | some t =>
        have loads : Loads tree s name t s := .of_known proper known
        have hkey := ClassTable.key_of_get? known
        have new : t.key ∉ seen := loads.2 ▸ old
        obtain ⟨es, onward, members⟩ := next proper known new
          (List.forall_mem_append.2 ⟨(h.sound known).traits, hnames⟩) hparent
        refine ⟨t :: es, ?_, .trait (h.declared _ _ known) hkey new members⟩
        rw [visitAll_trait old loads, onward]
        rfl

/-- From any point of a visit the rest is visited, by induction on the steps that are left. -/
lemma visits (h : KnowsJust tree paths s) {visited : List Declaration} {seen₀ : List String}
    (before : Visited tree s seen₀ visited s)
    (enough : s.classes.potential tree < visited.length + steps)
    (hnames : ∀ name ∈ names, Proper name) (hparent : ∀ name, parent = some name → Proper name) :
    Visits tree paths s steps (seenAfter visited seen₀) names parent := by
  induction steps generalizing visited names parent with
  | zero =>
    -- more classes were visited than can be known
    exact absurd before.length_le_potential (by omega)
  | succ steps ih =>
    refine h.visits_names hnames hparent fun {_ d} proper known new {_ _} hnames hparent => ?_
    -- a class that is found and was not seen goes first, and what it mentions comes next
    have first := before.append (.one (.of_known proper known) new)
    have room : s.classes.potential tree < (visited ++ [d]).length + steps := by
      rw [List.length_append, List.length_singleton]
      omega
    have rest := ih first room hnames hparent
    rwa [seenAfter_append, seenAfter_cons, seenAfter_nil] at rest

/-- The members of a class are visited to the end. -/
lemma members (h : KnowsJust tree paths s) (known : s.classes.get? d.key = some d) :
    ∃ ds, Audit.members (fun _ => false) d tree s = .ok (d :: ds) s ∧
      Members (tree.Declares paths) [d.key] d.traits d.parent (ds.map Declaration.withoutPath) := by
  have room : s.classes.potential tree < ([] : List Declaration).length + reachFrom tree s := by
    simpa using potential_lt_reachFrom tree s
  obtain ⟨ds, run, members⟩ :=
    h.visits (.nil s [d.key]) room (h.sound known).traits (h.sound known).parent
  refine ⟨ds, ?_, members⟩
  have whole : Audit.members (fun _ => false) d tree s =
      prepend [d] (visitAll (reachFrom tree s) [d.key] d.traits d.parent tree s) := run_cons d _ s
  rw [whole]
  rw [seenAfter_nil] at run
  rw [run]
  rfl

/-- Where just the files are known, the actions of a class are those of its declared members. -/
lemma actionMethods (h : KnowsJust tree paths s) (known : s.classes.get? d.key = some d) :
    ∃ ds, Audit.actionMethods d tree s = .ok (actionsOf (d :: ds)) s ∧
      Members (tree.Declares paths) [d.key] d.traits d.parent (ds.map Declaration.withoutPath) := by
  obtain ⟨ds, run, members⟩ := h.members known
  refine ⟨ds, ?_, members⟩
  rw [Audit.actionMethods, run_bind, publicMethods, run_bind, run]
  rfl

/-- Where just the files are known, a controller is a concrete class that descends from the base. -/
lemma isController (h : KnowsJust tree paths s) (known : s.classes.get? d.key = some d)
    (base : String) :
    ∃ b, Audit.isController d base tree s = .ok b s ∧
      (b = true ↔ d.isAbstract = false ∧ Descends (tree.Declares paths) base d.withoutPath) := by
  obtain ⟨b, run, descends⟩ := h.isSubclassOf known base
  rw [Audit.isController]
  cases d.isAbstract with
  | true => exact ⟨false, rfl, by simp⟩
  | false => exact ⟨b, run, by simp [descends]⟩

end KnowsJust

/-- The paths of some declarations have no part in their actions. -/
lemma actionsOf_withoutPath (ds : List Declaration) :
    actionsOf (ds.map Declaration.withoutPath) = actionsOf ds := by
  rw [actionsOf, List.foldl_map]
  rfl

/-- **What a session answers about a class that it knows tells whether the class is collected, and
with which methods.** -/
theorem KnowsJust.isCollected_iff (h : KnowsJust tree paths s) (distinct : tree.Distinct paths)
    (known : s.classes.get? d.key = some d) (hkind : d.kind = .class) (base : String) :
    ∃ b methods, Audit.isController d base tree s = .ok b s ∧
      Audit.actionMethods d tree s = .ok methods s ∧
      ∀ ms, IsCollected (tree.Declares paths) base d.withoutPath ms ↔
        b = true ∧ methods ≠ [] ∧ ms = methods := by
  obtain ⟨b, hcontroller, controls⟩ := h.isController known base
  obtain ⟨ds, hmethods, members⟩ := h.actionMethods known
  refine ⟨b, _, hcontroller, hmethods, fun ms => ?_⟩
  have actions : actionsOf (d.withoutPath :: ds.map Declaration.withoutPath) = actionsOf (d :: ds) :=
    actionsOf_withoutPath (d :: ds)
  constructor
  · rintro ⟨-, -, concrete, descends, ⟨es, members', rfl⟩, hasAction⟩
    have unique (d e : Declaration) (hd : tree.Declares paths d) (he : tree.Declares paths e) :=
      distinct.unique hd he
    obtain rfl := members.unique unique members'
    rw [actions] at hasAction ⊢
    exact ⟨controls.2 ⟨concrete, descends⟩, hasAction, rfl⟩
  · rintro ⟨hb, hasAction, rfl⟩
    obtain ⟨concrete, descends⟩ := controls.1 hb
    exact ⟨h.declared _ _ known, hkind, concrete, descends, ⟨_, members, actions.symm⟩, hasAction⟩

end Audit
end RouteAudit
