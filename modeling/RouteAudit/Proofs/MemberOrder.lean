import RouteAudit.Proofs.Ancestry
import RouteAudit.Proofs.PublicMethods

/-!
# The order of members

Where all that a class reaches through its traits and its parents is known, the walk from the class
reads no file and visits just that, each declaration once (`Settled.exists_walk`).  This holds also
where parents or traits are circular: what was seen before is passed over, but it was visited
(`ClassWalk.complete`).  A visit that ends early visits the first of these declarations
(`cuts_members`), so the default of a property is the one in the first declaration that has the
property (`World.members_settled`).
-/

namespace RouteAudit.Audit
open Source (Declaration)

/-! ## What a class reaches -/

/-- A declaration uses another as a trait, or extends it. -/
def Edge (table : ClassTable) (d e : Declaration) : Prop :=
  ∃ name, (name ∈ d.traits ∨ d.parent = some name) ∧
    table.get? (Source.ClassName.key name) = some e

/-- A declaration leads to another along traits and parents. -/
def Reaches (table : ClassTable) : Declaration → Declaration → Prop :=
  Relation.ReflTransGen (Edge table)

/-- All that a class reaches is known, and what is used as a trait is one. -/
structure Settled (table : ClassTable) (d : Declaration) : Prop where
  traits : ∀ e, Reaches table d e → ∀ name ∈ e.traits,
    ∃ t, table.get? (Source.ClassName.key name) = some t ∧ t.kind = .trait
  parent : ∀ e, Reaches table d e → ∀ name, e.parent = some name →
    ∃ p, table.get? (Source.ClassName.key name) = some p

/-- What the classes of a hierarchy mention is found in the hierarchy without learning anything, and
no trait has a parent. -/
structure Rests (tree : FileTree) (s : Session) (hierarchy : Declaration → Prop) : Prop where
  traits : ∀ e, hierarchy e → ∀ name ∈ e.traits,
    ∃ t, Loads tree s name t s ∧ hierarchy t ∧ t.parent = none
  parent : ∀ e, hierarchy e → ∀ name, e.parent = some name →
    ∃ p, Loads tree s name p s ∧ hierarchy p

variable {tree : FileTree} {s s₁ s' : Session} {seen names : List String} {name : String}
  {d e : Declaration} {ds es : List Declaration} {hierarchy : Declaration → Prop}
  {places : ClassTable}

/-- A class is loaded in one way. -/
lemma Loads.unique (h : Loads tree s name d s₁) (h' : Loads tree s name e s') :
    d = e ∧ s₁ = s' := by
  have same := h.1.symm.trans h'.1
  cases same
  exact ⟨rfl, rfl⟩

/-- A class that is known is loaded without a change. -/
lemma Loads.of_known (proper : Source.ClassName.Proper name)
    (known : s.classes.get? (Source.ClassName.key name) = some d) : Loads tree s name d s :=
  ⟨find_of_known known, (ClassTable.key_of_get? known).trans proper.key⟩

/-- A class that is found at once is found also when more is known. -/
lemma Loads.later (h : Loads tree s name d s) (grows : s.classes.Grows tree s'.classes) :
    Loads tree s' name d s' :=
  ⟨find_of_known (grows.keeps _ _ ((find_found h.1).known d rfl)), h.2⟩

/-- Where every class of the hierarchy is known, all can be loaded. -/
lemma Rests.loadable (rests : Rests tree s hierarchy) : Loadable tree s hierarchy := by
  rintro e he name (hname | hname) s₁ grows
  · obtain ⟨t, loads, ht, -⟩ := rests.traits e he name hname
    exact ⟨t, s₁, loads.later grows, ht⟩
  · obtain ⟨p, loads, hp⟩ := rests.parent e he name hname
    exact ⟨p, s₁, loads.later grows, hp⟩

/-- What a known class reaches is known. -/
lemma get?_of_reaches (known : s.classes.get? d.key = some d) (h : Reaches s.classes d e) :
    s.classes.get? e.key = some e := by
  cases Relation.ReflTransGen.cases_tail h with
  | inl same => exact same ▸ known
  | inr last =>
    obtain ⟨-, -, name, -, hname⟩ := last
    rw [ClassTable.key_of_get? hname, hname]

/-- Where all that a class reaches is known, it rests. -/
lemma Settled.rests (settled : Settled s.classes d)
    (knows : Knows places Declaration.Sound s.classes) (known : s.classes.get? d.key = some d) :
    Rests tree s (Reaches s.classes d) where
  traits e he name hname := by
    have sound := knows.get? (get?_of_reaches known he)
    obtain ⟨t, ht, hkind⟩ := settled.traits e he name hname
    have root := (knows.get? ht).root (by rw [hkind]; decide)
    exact ⟨t, .of_known (sound.traits name hname) ht, he.tail ⟨name, .inl hname, ht⟩, root⟩
  parent e he name hname := by
    have sound := knows.get? (get?_of_reaches known he)
    obtain ⟨p, hp⟩ := settled.parent e he name hname
    exact ⟨p, .of_known (sound.parent name hname) hp, he.tail ⟨name, .inr hname, hp⟩⟩

/-! ## Walks that miss nothing -/

/-- A walk learns nothing, stays in a hierarchy, and has seen what the visited declarations
mention. -/
structure Complete (hierarchy : Declaration → Prop) (s : Session) (seen : List String)
    (ds : List Declaration) (s' : Session) : Prop where
  stays : s' = s
  within : ∀ e ∈ ds, hierarchy e
  closed : ∀ e ∈ ds, ∀ name, name ∈ e.traits ∨ e.parent = some name →
    Text.lower name ∈ seenAfter ds seen

/-- A walk over no classes is complete. -/
lemma Complete.nil (s : Session) (seen : List String) : Complete hierarchy s seen [] s :=
  ⟨rfl, List.forall_mem_nil _, List.forall_mem_nil _⟩

/-- Complete walks can be joined. -/
lemma Complete.append (h : Complete hierarchy s seen ds s₁)
    (h' : Complete hierarchy s₁ (seenAfter ds seen) es s') :
    Complete hierarchy s seen (ds ++ es) s' where
  stays := h'.stays.trans h.stays
  within := List.forall_mem_append.2 ⟨h.within, h'.within⟩
  closed := by
    rw [seenAfter_append]
    refine List.forall_mem_append.2 ⟨fun e he name hname => ?_, h'.closed⟩
    exact mem_seenAfter.2 (.inr (h.closed e he name hname))

/-- A declaration comes before a walk that sees what it mentions. -/
lemma Complete.cons (hd : hierarchy d)
    (traits : ∀ name ∈ d.traits, Text.lower name ∈ seenAfter ds (d.key :: seen))
    (parent : ∀ name, d.parent = some name → Text.lower name ∈ seenAfter ds (d.key :: seen))
    (h : Complete hierarchy s (d.key :: seen) ds s') : Complete hierarchy s seen (d :: ds) s' where
  stays := h.stays
  within := List.forall_mem_cons.2 ⟨hd, h.within⟩
  closed := by
    rw [seenAfter_cons]
    exact List.forall_mem_cons.2 ⟨fun name => Or.rec (traits name) (parent name), h.closed⟩

/-- In a hierarchy that rests, a walk through traits is complete, and it sees all of them. -/
lemma TraitWalk.complete (walk : TraitWalk tree s seen names ds s')
    (rests : Rests tree s hierarchy)
    (hnames : ∀ name ∈ names, ∃ t, Loads tree s name t s ∧ hierarchy t ∧ t.parent = none) :
    Complete hierarchy s seen ds s' ∧ ∀ name ∈ names, Text.lower name ∈ seenAfter ds seen := by
  induction walk with
  | done => exact ⟨.nil _ _, List.forall_mem_nil _⟩
  | again old rest ih =>
    obtain ⟨-, hnames⟩ := List.forall_mem_cons.1 hnames
    obtain ⟨complete, sees⟩ := ih rests hnames
    exact ⟨complete, List.forall_mem_cons.2 ⟨mem_seenAfter.2 (.inr old), sees⟩⟩
  | @trait s s₁ s₂ s' seen name names t ds es new loads used rest ihUsed ihRest =>
    obtain ⟨⟨t', loads', ht, root⟩, hnames⟩ := List.forall_mem_cons.1 hnames
    obtain ⟨rfl, rfl⟩ := loads.unique loads'
    obtain ⟨first, seesUsed⟩ := ihUsed rests (rests.traits t ht)
    obtain rfl := first.stays
    obtain ⟨second, sees⟩ := ihRest rests hnames
    refine ⟨(first.append second).cons ht (fun name hname => ?_) (fun name hname => ?_), ?_⟩
    · rw [seenAfter_append]
      exact mem_seenAfter.2 (.inr (seesUsed name hname))
    · rw [root] at hname
      cases hname
    · rw [seenAfter_cons, seenAfter_append]
      refine List.forall_mem_cons.2 ⟨?_, sees⟩
      rw [← loads.2]
      exact mem_seenAfter.2 (.inr (mem_seenAfter.2 (.inr List.mem_cons_self)))

/-- **In a hierarchy that rests, a walk from a class misses nothing that is mentioned.** -/
theorem ClassWalk.complete (walk : ClassWalk tree s seen d ds s')
    (rests : Rests tree s hierarchy) (hd : hierarchy d) : Complete hierarchy s seen ds s' := by
  induction walk with
  | root used noParent =>
    obtain ⟨complete, sees⟩ := used.complete rests (rests.traits _ hd)
    refine complete.cons hd sees fun name hname => ?_
    rw [noParent] at hname
    cases hname
  | circle used parent loads old =>
    obtain ⟨complete, sees⟩ := used.complete rests (rests.traits _ hd)
    obtain rfl := complete.stays
    obtain ⟨p, loads', -⟩ := rests.parent _ hd _ parent
    obtain ⟨rfl, rfl⟩ := loads.unique loads'
    refine complete.cons hd sees fun name hname => ?_
    obtain rfl := Option.some.inj (parent.symm.trans hname)
    exact loads.2 ▸ old
  | child used parent loads new up ih =>
    obtain ⟨complete, sees⟩ := used.complete rests (rests.traits _ hd)
    obtain rfl := complete.stays
    obtain ⟨p, loads', hp⟩ := rests.parent _ hd _ parent
    obtain ⟨rfl, rfl⟩ := loads.unique loads'
    refine (complete.append (ih rests hp)).cons hd (fun name hname => ?_) (fun name hname => ?_)
    · rw [seenAfter_append]
      exact mem_seenAfter.2 (.inr (sees name hname))
    · rw [seenAfter_append]
      obtain rfl := Option.some.inj (parent.symm.trans hname)
      obtain ⟨others, rfl, -⟩ := up.visited
      exact mem_seenAfter.2 (.inl ⟨_, List.mem_cons_self, loads.2⟩)

/-- A walk gathers each class once. -/
lemma ClassWalk.nodup (walk : ClassWalk tree s seen d ds s') : (ds.map (·.key)).Nodup := by
  obtain ⟨others, rfl, visited⟩ := walk.visited
  rw [List.map_cons, List.nodup_cons]
  refine ⟨fun again => ?_, visited.nodup⟩
  obtain ⟨e, he, same⟩ := List.mem_map.1 again
  exact visited.new e he (same ▸ List.mem_cons_self)

/-- A walk over known classes gathers known classes. -/
lemma ClassWalk.known (walk : ClassWalk tree s seen d ds s)
    (known : s.classes.get? d.key = some d) : ∀ e ∈ ds, s.classes.get? e.key = some e := by
  obtain ⟨others, rfl, visited⟩ := walk.visited
  exact (List.forall_mem_cons (p := fun e => s.classes.get? e.key = some e)).2
    ⟨known, visited.known⟩

/-- **From a class whose hierarchy is known there is a walk, which visits just what the class
reaches.** -/
theorem Settled.exists_walk (tree : FileTree) (settled : Settled s.classes d)
    (knows : Knows places Declaration.Sound s.classes) (known : s.classes.get? d.key = some d) :
    ∃ ds, ClassWalk tree s [] d ds s ∧ ∀ e, e ∈ ds ↔ Reaches s.classes d e := by
  have rests : Rests tree s (Reaches s.classes d) := settled.rests knows known
  obtain ⟨ds, s', walk⟩ := rests.loadable.exists_walk .refl
  have complete := walk.complete rests .refl
  obtain rfl := complete.stays
  refine ⟨ds, walk, fun e => ⟨complete.within e, fun reached => ?_⟩⟩
  induction reached with
  | refl =>
    obtain ⟨others, rfl, -⟩ := walk.visited
    exact List.mem_cons_self
  | @tail e f reached edge he =>
    obtain ⟨name, mentions, hname⟩ := edge
    have sound := knows.get? (get?_of_reaches known reached)
    have proper := mentions.elim (sound.traits name) (sound.parent name)
    -- the name was seen on the walk, and only one class is known by it
    have hseen := complete.closed e he name mentions
    rw [mem_seenAfter, or_iff_left List.not_mem_nil] at hseen
    obtain ⟨x, hx, hkey⟩ := hseen
    have same := walk.known known x hx
    rw [hkey, ← proper.key, hname] at same
    exact Option.some.inj same ▸ hx

/-! ## Visits that end early -/

/-- The declarations up to the first that is enough. -/
def upTo (enough : Declaration → Bool) : List Declaration → List Declaration
  | [] => []
  | d :: ds => if enough d then [d] else d :: upTo enough ds

/-- An activity comes to the declarations of another up to the first that is enough. -/
def Cuts (tree : FileTree) (enough : Declaration → Bool) (all first : Audit (List Declaration)) :
    Prop :=
  ∀ s ds s', all tree s = .ok ds s' → ∃ s'', first tree s = .ok (upTo enough ds) s''

namespace Cuts

variable {α : Type} {enough : Declaration → Bool} {all first : Audit (List Declaration)}

/-- An empty walk is cut short nowhere. -/
lemma nil : Cuts tree enough (pure []) (pure []) := by
  rintro s ds s' ⟨⟩
  exact ⟨s, rfl⟩

/-- A walk over one class is cut short nowhere. -/
lemma last (d : Declaration) : Cuts tree enough (pure [d]) (pure [d]) := by
  rintro s ds s' ⟨⟩
  refine ⟨s, ?_⟩
  rw [upTo, upTo, ite_self]
  rfl

/-- To cut short after an activity is to cut short what follows. -/
lemma bind (x : Audit α) {f g : α → Audit (List Declaration)}
    (h : ∀ a, Cuts tree enough (f a) (g a)) : Cuts tree enough (x >>= f) (x >>= g) := by
  intro s ds s' run
  obtain ⟨a, s₁, hx, hf⟩ := run_bind_eq_ok run
  rw [run_bind, hx]
  exact h a s₁ ds s' hf

/-- What comes after a declaration is not visited if this is enough. -/
lemma stop (hd : enough d) (starts : Yields tree all fun ds => ∃ es, ds = d :: es) :
    Cuts tree enough all (pure [d]) := by
  intro s ds s' run
  obtain ⟨es, rfl⟩ := starts s ds s' run
  refine ⟨s, ?_⟩
  rw [upTo, if_pos hd]
  rfl

/-- An activity with a class in front of its answer gives such a list. -/
lemma yields_cons (d : Declaration) (rest : Audit (List Declaration)) :
    Yields tree (do return d :: (← rest)) fun ds => ∃ es, ds = d :: es :=
  (Yields.any rest).bind fun es _ => .pure ⟨es, rfl⟩

/-- A walk goes on behind a class that is not enough. -/
lemma cons (hd : ¬enough d) (h : Cuts tree enough all first) :
    Cuts tree enough (do return d :: (← all)) (do return d :: (← first)) := by
  intro s ds s' run
  rw [run_cons] at run
  cases hall : all tree s with
  | error fault s₁ =>
    rw [hall] at run
    cases run
  | ok es s₁ =>
    rw [hall] at run
    cases run
    obtain ⟨s'', hfirst⟩ := h s es s' hall
    refine ⟨s'', ?_⟩
    rw [run_cons, hfirst, List.singleton_append, upTo, if_neg hd]
    rfl

/-- A declaration that may be enough is the last one, or all goes on with a step less. -/
lemma onward (d : Declaration) {steps : Nat} {all first : Nat → Audit (List Declaration)} :
    (∀ fewer < steps, Cuts tree enough (all fewer) (first fewer)) → Cuts tree enough
      (if false then pure [d]
        else
          match steps with
          | 0 => pure [d]
          | steps + 1 => do return d :: (← all steps))
      (if enough d then pure [d]
        else
          match steps with
          | 0 => pure [d]
          | steps + 1 => do return d :: (← first steps)) := by
  intro h
  rw [if_neg Bool.false_ne_true]
  cases steps with
  | zero =>
    rw [ite_self]
    exact .last d
  | succ steps =>
    by_cases hd : enough d
    · rw [if_pos hd]
      exact .stop hd (yields_cons d _)
    · rw [if_neg hd]
      exact .cons hd (h steps (Nat.lt_succ_self steps))

end Cuts

/-- The walk that stops early is cut from the whole walk. -/
lemma cuts_visit (enough : Declaration → Bool) (steps : Nat) (seen traits : List String)
    (parent : Option String) :
    Cuts tree enough (visitAll steps seen traits parent)
      (visit enough steps seen traits parent) := by
  -- a class that is not visited before takes a step, any other trait is only left out
  induction steps using Nat.strongRecOn generalizing seen traits parent with
  | ind steps deeper =>
    induction traits generalizing seen with
    | nil =>
      rw [visitAll, visit.eq_def, visit.eq_def enough]
      cases parent with
      | none => exact .nil
      | some name =>
        refine .bind _ fun found => ?_
        cases found with
        | none => exact .nil
        | some e =>
          dsimp only
          split
          · exact .nil
          · exact .onward e fun fewer hfewer => deeper fewer hfewer _ _ _
    | cons name traits ih =>
      rw [visitAll, visit.eq_def, visit.eq_def enough]
      dsimp only
      split
      · exact ih seen
      · refine .bind _ fun found => ?_
        cases found with
        | none => exact ih seen
        | some e => exact .onward e fun fewer hfewer => deeper fewer hfewer _ _ _

/-- **A visit that ends early visits the first members of a class.** -/
theorem cuts_members (enough : Declaration → Bool) (d : Declaration) :
    Cuts tree enough (members (fun _ => false) d) (members enough d) := by
  rw [members, members, if_neg Bool.false_ne_true]
  by_cases hd : enough d
  · rw [if_pos hd]
    exact .stop hd ((Yields.any reach).bind fun steps _ => Cuts.yields_cons d _)
  · rw [if_neg hd]
    exact .bind _ fun steps => .cons hd (cuts_visit enough steps _ _ _)

/-! ## Defaults -/

/-- What a search finds is in the part up to the first hit. -/
lemma findSome?_upTo {α : Type} (f : Declaration → Option α) (ds : List Declaration) :
    (upTo (fun d => (f d).isSome) ds).findSome? f = ds.findSome? f := by
  induction ds with
  | nil => rfl
  | cons d ds ih =>
    rw [upTo]
    cases h : f d with
    | some a => rw [Option.isSome_some, if_pos rfl, List.findSome?_cons, List.findSome?_cons, h]
    | none =>
      rw [Option.isSome_none, if_neg Bool.false_ne_true, List.findSome?_cons, List.findSome?_cons,
        h, ih]

/-- The default of a property is the first among all members of the class. -/
lemma declaredDefault_members (run : members (fun _ => false) d tree s = .ok ds s')
    (property : String) :
    answerOf (declaredDefault d property tree s) =
      .ok ((ds.findSome? (·.default? property)).getD none) := by
  obtain ⟨s'', first⟩ := cuts_members (fun m => (m.default? property).isSome) d s ds s' run
  rw [declaredDefault, run_bind, first]
  exact congrArg (fun found => Except.ok (Option.getD found none)) (findSome?_upTo _ ds)

/-- A visit of the members of a class is not cut off. -/
lemma visitAll_members (walk : ClassWalk tree s [] d ds s') {steps : Nat}
    (enough : ds.length ≤ steps) :
    visitAll steps [d.key] d.traits d.parent tree s = .ok ds.tail s' := by
  obtain ⟨more, rfl⟩ := Nat.exists_eq_add_of_le enough
  have run := visitAll_classWalk walk more
  cases hvisit : visitAll (ds.length + more) [d.key] d.traits d.parent tree s with
  | error fault s₁ =>
    rw [hvisit] at run
    cases run
  | ok others s₁ =>
    rw [hvisit] at run
    cases run
    rfl

/-- **The members of a class whose hierarchy is known are just the declarations that the class
reaches, each once**: after a class come the traits that it uses, in depth, and then its parent.
This holds also where parents or traits are circular, and more steps than a visit may take would
change nothing.  So the default of a property is that of the first member that has it. -/
theorem World.members_settled (autoload : Autoload) (tree : FileTree) (events : List Event)
    {d : Declaration} :
    let w := (start autoload tree).after events
    let table := w.session.classes
    table.get? d.key = some d → Settled table d →
    ∃ ds, ClassWalk w.tree w.session [] d ds w.session ∧
      members (fun _ => false) d w.tree w.session = .ok ds w.session ∧
      (∀ steps, ds.length ≤ steps →
        visit (fun _ => false) steps [d.key] d.traits d.parent w.tree w.session =
          .ok ds.tail w.session) ∧
      (ds.map (·.key)).Nodup ∧ (∀ e, e ∈ ds ↔ Reaches table d e) ∧
      ∀ property,
        ((∀ e, Reaches table d e → e.default? property = none) →
          w.answer (declaredDefault d property) = .ok none) ∧
        ∀ front e back value, ds = front ++ e :: back →
          (∀ x ∈ front, x.default? property = none) → e.default? property = some value →
            w.answer (declaredDefault d property) = .ok value := by
  intro w table known settled
  have knows : Knows (.ofAutoload autoload) Declaration.Sound table :=
    sound_after autoload tree events
  obtain ⟨ds, walk, reached⟩ := settled.exists_walk w.tree knows known
  have run := members_classWalk walk
  have answer := declaredDefault_members run
  refine ⟨ds, walk, run, fun steps => visitAll_members walk, walk.nodup, reached,
    fun property => ⟨fun undeclared => ?_, fun front e back value split before has => ?_⟩⟩
  · have nowhere : ds.findSome? (·.default? property) = none :=
      List.findSome?_eq_none_iff.2 fun e he => undeclared e ((reached e).1 he)
    rw [World.answer, answer, nowhere]
    rfl
  · have nowhere : front.findSome? (·.default? property) = none :=
      List.findSome?_eq_none_iff.2 before
    rw [World.answer, answer, split, List.findSome?_append, nowhere, Option.none_or,
      List.findSome?_cons, has]
    rfl

section Sample

open Source.Grammar

/-- A member that uses a trait. -/
def useMember (name : Name) : Member :=
  ⟨[], .traits useKeyword name [] none⟩

/-- The empty list of tokens is a run. -/
lemma run_nil : Source.Token.Run [] [] :=
  .nil

/-- A property without a type that is a string. -/
def propertyMember : Member :=
  ⟨[], .properties ⟨[], allStand_nil, by simp, run_nil⟩
    ⟨⟨"$p", by decide⟩, some ⟨[⟨.string, "\x27v\x27", 0⟩], by decide, .plain rfl rfl rfl .nil⟩⟩ []⟩

/-- The name stands. -/
lemma stands_letterB : Source.Lexer.Stands .name "B".toList := by
  decide

/-- A name of one letter. -/
def letterB : Name := ⟨"B", stands_letterB⟩

/-- Two classes that extend each other, and a trait that uses itself. -/
def ringFile : ClassFile where
  front :=
    [.class { heirDecl letterB with members := [useMember showingTrait.name] },
      .class { showingTrait with members := [useMember showingTrait.name] },
      .class { heirDecl letterA with
        name := letterB, isSimple := by decide, members := [propertyMember] }]
  spaces := []

/-- What is written in the file of the ring. -/
lemma source_ringFile :
    ringFile.source = ("<?php class A extends B \x7b use T ; \x7d trait T \x7b use T ; \x7d " ++
      "class B extends A \x7b $p = \x27v\x27 ; \x7d ").toList := by
  decide

/-- The path of the file. -/
def ringPath : Path :=
  Path.ofString "A.php"

/-- The class that extends the other and uses the trait. -/
def ringHeir : Declaration :=
  { name := "A", kind := .class, parent := some "B", traits := ["T"], path := some ringPath }

/-- The trait, which uses itself. -/
def ringUsed : Declaration :=
  { name := "T", kind := .trait, traits := ["T"], path := some ringPath }

/-- The class that the first extends, and which extends the first. -/
def ringParent : Declaration :=
  { name := "B", kind := .class, parent := some "A", properties := [("p", some "v")],
    path := some ringPath }

/-- The classes of the file, in order. -/
def ringClasses : List Declaration :=
  [ringHeir, ringUsed, ringParent]

/-- A tree with just this file. -/
def ringTree : FileTree :=
  soleTree (Text.ascii ringFile.source)

/-- The file can be read. -/
lemma read_ringTree : ringTree.read ringPath = .ok (Text.ascii ringFile.source) :=
  read_soleTree _

/-- The file declares the three classes. -/
lemma declared_ringTree : ringTree.declared ringPath = ringClasses := by
  have ascii : IsAscii ringFile.source := by
    rw [source_ringFile]
    exact Source.Lexer.forall_mem_of_all (by decide)
  rw [FileTree.declared_of_read read_ringTree, sourceText_ascii ascii, parse_classFile]
  decide

/-- The world in which the file was registered. -/
def ringWorld : World :=
  (World.start [] ringTree).after [.call (.register ringPath)]

/-- Just the three classes are known. -/
lemma get?_ringWorld (key : String) :
    ringWorld.session.classes.get? key = Declaration.first? key ringClasses := by
  have nothing : Consistent ringTree [] (fun _ => True) (fresh []).classes := consistent_fresh
  obtain ⟨declarations, s', run, -, known⟩ := nothing.registerFile trivial read_ringTree
  have session : ringWorld.session = s' := by
    show sessionOf ((Call.register ringPath).perform ringTree (fresh [])) = s'
    rw [Call.perform, sessionOf_discard, run]
    rfl
  rw [session, known, declared_ringTree]
  rfl

/-- No more than the ring is reached from it. -/
lemma mem_of_reaches (hd : d ∈ ringClasses) (h : Reaches ringWorld.session.classes d e) :
    e ∈ ringClasses := by
  induction h with
  | refl => exact hd
  | tail _ edge _ =>
    obtain ⟨name, -, hname⟩ := edge
    rw [get?_ringWorld] at hname
    exact (Declaration.mem_of_first? hname).1

/-- Each of the three classes is settled. -/
lemma settled_ring (hd : d ∈ ringClasses) : Settled ringWorld.session.classes d where
  traits e he name hname := by
    have traits : ∀ e ∈ ringClasses, ∀ name ∈ e.traits,
        (Declaration.first? (Source.ClassName.key name) ringClasses).map (·.kind) =
          some .trait := by
      decide
    rw [get?_ringWorld]
    exact Option.map_eq_some_iff.1 (traits e (mem_of_reaches hd he) name hname)
  parent e he name hname := by
    have parents : ∀ e ∈ ringClasses, ∀ name ∈ e.parent,
        (Declaration.first? (Source.ClassName.key name) ringClasses).isSome := by
      decide
    rw [get?_ringWorld]
    exact Option.isSome_iff_exists.1 (parents e (mem_of_reaches hd he) name hname)

/-- Each of the three classes is loaded without a change. -/
lemma loads_ring {name : String}
    (found : Declaration.first? (Source.ClassName.key name) ringClasses = some d)
    (hkey : d.key = Text.lower name) :
    Loads ringTree ringWorld.session name d ringWorld.session :=
  ⟨find_of_known ((get?_ringWorld _).trans found), hkey⟩

/-- The ring is visited once, and the default is the one of the last class in it. -/
theorem members_settled_ring :
    ringWorld.answer (members (fun _ => false) ringHeir) = .ok [ringHeir, ringUsed, ringParent] ∧
      ringWorld.answer (declaredDefault ringHeir "p") = .ok (some "v") := by
  obtain ⟨ds, walk, run, -, -, -, defaults⟩ := World.members_settled [] ringTree
    [.call (.register ringPath)] (d := ringHeir) ((get?_ringWorld _).trans (by decide))
    (settled_ring List.mem_cons_self)
  have loadsTrait : Loads ringTree ringWorld.session "T" ringUsed ringWorld.session :=
    loads_ring (by decide) (by decide)
  have loadsParent : Loads ringTree ringWorld.session "B" ringParent ringWorld.session :=
    loads_ring (by decide) (by decide)
  have loadsHeir : Loads ringTree ringWorld.session "A" ringHeir ringWorld.session :=
    loads_ring (by decide) (by decide)
  have used : TraitWalk ringTree ringWorld.session [ringHeir.key] ringHeir.traits [ringUsed]
      ringWorld.session :=
    .trait (by decide) loadsTrait (.again (by decide) .done) .done
  have up : ClassWalk ringTree ringWorld.session (seenAfter [ringUsed] [ringHeir.key]) ringParent
      [ringParent] ringWorld.session :=
    .circle .done rfl loadsHeir (by decide)
  have new : ringParent.key ∉ seenAfter [ringUsed] [ringHeir.key] := by
    decide
  have ringWalk : ClassWalk ringTree ringWorld.session [] ringHeir
      [ringHeir, ringUsed, ringParent] ringWorld.session :=
    .child used rfl loadsParent new up
  -- there is no other walk
  obtain rfl := (walk.unique ringWalk).1
  refine ⟨congrArg answerOf run, ?_⟩
  exact (defaults "p").2 [ringHeir, ringUsed] ringParent [] (some "v") rfl (by decide) (by decide)

end Sample

end RouteAudit.Audit
