import Mathlib
import RouteAudit.Proofs.ClassSearch

/-!
# Class hierarchies

The declarations that have a part in a class are found by a walk: after a class come the traits that
it uses, each followed by the traits that it uses itself, and then the parent of the class likewise
(`ClassWalk`).  Such a walk is finite by itself, and a visit follows it to its end: the bound on the
steps of a visit is never reached (`visitAll_classWalk`).
-/

namespace RouteAudit.Audit
open Source (Declaration)

/-- A search for a name finds the class of this name. -/
def Loads (tree : FileTree) (s : Session) (name : String) (d : Declaration) (s' : Session) : Prop :=
  find name tree s = .ok (some d) s' ∧ d.key = Text.lower name

/-- The keys of the visited declarations, the last visited first, before those seen earlier. -/
def seenAfter (visited : List Declaration) (seen : List String) : List String :=
  (visited.map (·.key)).reverse ++ seen

/-- Where nothing is visited, the same classes are seen. -/
@[simp]
lemma seenAfter_nil (seen : List String) : seenAfter [] seen = seen :=
  rfl

/-- A class is seen once it is visited. -/
@[simp]
lemma seenAfter_cons (d : Declaration) (ds : List Declaration) (seen : List String) :
    seenAfter (d :: ds) seen = seenAfter ds (d.key :: seen) := by
  simp [seenAfter]

/-- Classes are visited one after the other. -/
@[simp]
lemma seenAfter_append (ds es : List Declaration) (seen : List String) :
    seenAfter (ds ++ es) seen = seenAfter es (seenAfter ds seen) := by
  simp [seenAfter]

/-- A class is seen if it was visited, or seen before. -/
lemma mem_seenAfter {key : String} {ds : List Declaration} {seen : List String} :
    key ∈ seenAfter ds seen ↔ (∃ e ∈ ds, e.key = key) ∨ key ∈ seen := by
  simp [seenAfter]

/-- A walk through the traits of the given names, each followed by the traits that it uses.  A trait
that was seen before is passed over. -/
inductive TraitWalk (tree : FileTree) :
    Session → List String → List String → List Declaration → Session → Prop
  | done {s seen} : TraitWalk tree s seen [] [] s
  | again {s s' seen name names ds} (old : Text.lower name ∈ seen)
      (rest : TraitWalk tree s seen names ds s') : TraitWalk tree s seen (name :: names) ds s'
  | trait {s s₁ s₂ s' seen name names t ds es} (new : Text.lower name ∉ seen)
      (loads : Loads tree s name t s₁) (used : TraitWalk tree s₁ (t.key :: seen) t.traits ds s₂)
      (rest : TraitWalk tree s₂ (seenAfter ds (t.key :: seen)) names es s') :
      TraitWalk tree s seen (name :: names) (t :: (ds ++ es)) s'

/-- A walk from a class through its traits to its parent, and on from there.  It ends where there is
no parent, or where the parent was seen before. -/
inductive ClassWalk (tree : FileTree) :
    Session → List String → Declaration → List Declaration → Session → Prop
  | root {s s' seen d ds} (used : TraitWalk tree s (d.key :: seen) d.traits ds s')
      (noParent : d.parent = none) : ClassWalk tree s seen d (d :: ds) s'
  | circle {s s₁ s' seen d ds name p} (used : TraitWalk tree s (d.key :: seen) d.traits ds s₁)
      (parent : d.parent = some name) (loads : Loads tree s₁ name p s')
      (old : p.key ∈ seenAfter ds (d.key :: seen)) : ClassWalk tree s seen d (d :: ds) s'
  | child {s s₁ s₂ s' seen d ds name p es}
      (used : TraitWalk tree s (d.key :: seen) d.traits ds s₁)
      (parent : d.parent = some name) (loads : Loads tree s₁ name p s₂)
      (new : p.key ∉ seenAfter ds (d.key :: seen))
      (up : ClassWalk tree s₂ (seenAfter ds (d.key :: seen)) p es s') :
      ClassWalk tree s seen d (d :: (ds ++ es)) s'

variable {tree : FileTree} {s s₁ s' : Session} {seen names : List String}
  {d : Declaration} {ds es : List Declaration}

/-! ## What a walk has visited -/

/-- The declarations visited by a walk are new, different from each other, and known at its end. -/
structure Visited (tree : FileTree) (s : Session) (seen : List String) (ds : List Declaration)
    (s' : Session) : Prop where
  grows : s.classes.Grows tree s'.classes
  nodup : (ds.map (·.key)).Nodup
  new : ∀ e ∈ ds, e.key ∉ seen
  known : ∀ e ∈ ds, s'.classes.get? e.key = some e

namespace Visited

/-- Nothing is visited. -/
lemma nil (s : Session) (seen : List String) : Visited tree s seen [] s where
  grows := .refl _
  nodup := List.nodup_nil
  new := List.forall_mem_nil _
  known := List.forall_mem_nil _

/-- A class that is found and was not seen before is visited. -/
lemma one {name : String} (loads : Loads tree s name d s') (new : d.key ∉ seen) :
    Visited tree s seen [d] s' := by
  obtain ⟨grows, known⟩ := find_found loads.1
  have found := known d rfl
  have hkey := ClassTable.key_of_get? found
  exact
    { grows
      nodup := List.nodup_singleton _
      new := fun e he => List.mem_singleton.1 he ▸ new
      known := fun e he => by rw [List.mem_singleton.1 he, hkey, found] }

/-- One walk after another visits the declarations of both. -/
lemma append (h : Visited tree s seen ds s₁) (h' : Visited tree s₁ (seenAfter ds seen) es s') :
    Visited tree s seen (ds ++ es) s' where
  grows := h.grows.trans h'.grows
  nodup := by
    rw [List.map_append, List.nodup_append]
    refine ⟨h.nodup, h'.nodup, fun key hkey key' hkey' hsame => ?_⟩
    obtain ⟨e, he, rfl⟩ := List.mem_map.1 hkey
    obtain ⟨e', he', rfl⟩ := List.mem_map.1 hkey'
    exact h'.new e' he' (mem_seenAfter.2 (.inl ⟨e, he, hsame⟩))
  new e he := by
    rcases List.mem_append.1 he with he | he
    · exact h.new e he
    · exact fun hseen => h'.new e he (mem_seenAfter.2 (.inr hseen))
  known e he := by
    rcases List.mem_append.1 he with he | he
    · exact h'.grows.keeps _ _ (h.known e he)
    · exact h'.known e he

/-- What was visited stays visited while the table grows. -/
lemma later (h : Visited tree s seen ds s₁) (grows : s₁.classes.Grows tree s'.classes) :
    Visited tree s seen ds s' where
  grows := h.grows.trans grows
  nodup := h.nodup
  new := h.new
  known e he := grows.keeps _ _ (h.known e he)

/-- There are no more declarations in a walk than classes known at its end. -/
lemma length_le (h : Visited tree s seen ds s') : ds.length ≤ s'.classes.classes.length := by
  have known : ds.map (·.key) ⊆ s'.classes.classes.keys := by
    intro key hkey
    obtain ⟨e, he, rfl⟩ := List.mem_map.1 hkey
    by_contra hnew
    have hfound := h.known e he
    rw [ClassTable.get?, Assoc.get?_eq_none.2 hnew] at hfound
    cases hfound
  have hlength := (List.subperm_of_subset h.nodup known).length_le
  rwa [List.length_map, Assoc.keys, List.length_map] at hlength

end Visited

/-- What a walk over traits gathers was visited. -/
lemma TraitWalk.visited (walk : TraitWalk tree s seen names ds s') :
    Visited tree s seen ds s' := by
  induction walk with
  | done => exact .nil _ _
  | again old rest ih => exact ih
  | trait new loads used rest ihUsed ihRest =>
    have first := Visited.one loads (loads.2 ▸ new)
    exact first.append (ihUsed.append ihRest)

/-- The declarations after the first in a walk from a class. -/
lemma ClassWalk.visited (walk : ClassWalk tree s seen d ds s') :
    ∃ others, ds = d :: others ∧ Visited tree s (d.key :: seen) others s' := by
  induction walk with
  | root used noParent => exact ⟨_, rfl, used.visited⟩
  | circle used parent loads old =>
    exact ⟨_, rfl, used.visited.later (find_found loads.1).grows⟩
  | child used parent loads new up ih =>
    obtain ⟨others, rfl, visited⟩ := ih
    refine ⟨_, rfl, used.visited.append ?_⟩
    exact (Visited.one loads new).append visited

/-! ## There is a walk -/

/-- The classes of a hierarchy can be loaded: whatever was learnt, a search for a trait or for the
parent of one of them finds another. -/
def Loadable (tree : FileTree) (s : Session) (hierarchy : Declaration → Prop) : Prop :=
  ∀ e, hierarchy e → ∀ name, name ∈ e.traits ∨ e.parent = some name →
    ∀ s₁, s.classes.Grows tree s₁.classes →
      ∃ found s₂, Loads tree s₁ name found s₂ ∧ hierarchy found

variable {hierarchy : Declaration → Prop} {s₀ : Session} {seen₀ : List String}

/-- There is no end to new classes but the bound on how many can be known. -/
lemma Visited.length_le_potential (h : Visited tree s₀ seen₀ ds s) :
    ds.length ≤ s₀.classes.potential tree :=
  h.length_le.trans ((Nat.le_add_right _ _).trans h.grows.potential_le)

/-- From any point of a walk there is a way on through some traits.  The induction is on the number
of classes that may still come up, and within it on the names. -/
lemma exists_traitWalk (loadable : Loadable tree s₀ hierarchy) {left : Nat}
    {visited : List Declaration} (before : Visited tree s₀ seen₀ visited s)
    (enough : s₀.classes.potential tree < visited.length + left) {e : Declaration}
    (he : hierarchy e) (hnames : names ⊆ e.traits) :
    ∃ ds s', TraitWalk tree s (seenAfter visited seen₀) names ds s' ∧
      Visited tree s₀ seen₀ (visited ++ ds) s' := by
  induction left generalizing visited s names e with
  | zero =>
    -- more classes were visited than can be known
    exact absurd before.length_le_potential (by omega)
  | succ left ihLeft =>
    induction names generalizing visited s with
    | nil => exact ⟨[], s, .done, by rwa [List.append_nil]⟩
    | cons name names ihNames =>
      obtain ⟨hname, hnames⟩ := List.cons_subset.1 hnames
      by_cases old : Text.lower name ∈ seenAfter visited seen₀
      · obtain ⟨ds, s', walk, after⟩ := ihNames before enough hnames
        exact ⟨ds, s', .again old walk, after⟩
      · obtain ⟨t, s₁, loads, ht⟩ := loadable e he name (.inl hname) s before.grows
        -- the trait is one class more, and what it uses comes before the other names
        have first := before.append (.one loads (loads.2 ▸ old))
        obtain ⟨ds, s₂, used, second⟩ := ihLeft first (by simp; omega) ht (List.Subset.refl _)
        obtain ⟨es, s₃, rest, third⟩ := ihNames second (by simp; omega) hnames
        rw [seenAfter_append, seenAfter_cons, seenAfter_nil] at used
        rw [seenAfter_append, seenAfter_append, seenAfter_cons, seenAfter_nil] at rest
        refine ⟨t :: (ds ++ es), s₃, .trait old loads used rest, ?_⟩
        rwa [List.append_assoc, List.append_assoc] at third

/-- A class whose hierarchy can be loaded has a walk.  The induction is on the number of classes
that may still come up. -/
lemma exists_classWalk (loadable : Loadable tree s₀ hierarchy) {left : Nat}
    {visited : List Declaration} (before : Visited tree s₀ seen₀ visited s)
    (enough : s₀.classes.potential tree < visited.length + left) {seen : List String}
    (hseen : d.key :: seen = seenAfter visited seen₀) (hd : hierarchy d) :
    ∃ ds s', ClassWalk tree s seen d ds s' := by
  induction left generalizing visited s d seen with
  | zero => exact absurd before.length_le_potential (by omega)
  | succ left ih =>
    obtain ⟨ds, s₁, used, after⟩ :=
      exists_traitWalk loadable before enough hd (List.Subset.refl _)
    rw [← hseen] at used
    cases hparent : d.parent with
    | none => exact ⟨d :: ds, s₁, .root used hparent⟩
    | some name =>
      obtain ⟨p, s₂, loads, hp⟩ := loadable d hd name (.inr hparent) s₁ after.grows
      by_cases old : p.key ∈ seenAfter ds (d.key :: seen)
      · exact ⟨d :: ds, s₂, .circle used hparent loads old⟩
      · have new : p.key ∉ seenAfter (visited ++ ds) seen₀ := by
          rwa [seenAfter_append, ← hseen]
        have next := after.append (.one loads new)
        obtain ⟨es, s', up⟩ := ih next (by simp; omega)
          (by rw [seenAfter_append, seenAfter_append, ← hseen]; rfl) hp
        exact ⟨d :: (ds ++ es), s', .child used hparent loads old up⟩

/-- **A class whose ancestors and traits can all be loaded has a walk.** -/
theorem Loadable.exists_walk (loadable : Loadable tree s hierarchy) (hd : hierarchy d) :
    ∃ ds s', ClassWalk tree s [] d ds s' := by
  have enough : s.classes.potential tree <
      ([] : List Declaration).length + (s.classes.potential tree + 1) := by
    simp
  exact exists_classWalk loadable (.nil s [d.key]) enough rfl hd

/-! ## How a visit follows a walk -/

/-- The result with some classes in front. -/
def prepend (front : List Declaration) :
    EStateM.Result Fault Session (List Declaration) →
      EStateM.Result Fault Session (List Declaration)
  | .ok back s => .ok (front ++ back) s
  | .error fault s => .error fault s

/-- No classes in front change nothing. -/
lemma prepend_nil (result : EStateM.Result Fault Session (List Declaration)) :
    prepend [] result = result := by
  cases result <;> rfl

/-- Classes are put in front one after the other. -/
lemma prepend_prepend (front middle : List Declaration)
    (result : EStateM.Result Fault Session (List Declaration)) :
    prepend front (prepend middle result) = prepend (front ++ middle) result := by
  cases result with
  | ok back s => rw [prepend, prepend, prepend, List.append_assoc]
  | error fault s => rfl

/-- A class in front of the answer of an activity. -/
lemma run_cons (d : Declaration) (x : Audit (List Declaration)) (s : Session) :
    (do return d :: (← x) : Audit (List Declaration)) tree s = prepend [d] (x tree s) := by
  rw [run_bind]
  cases x tree s <;> rfl

/-- A visit of all declarations. -/
abbrev visitAll : Nat → List String → List String → Option String → Audit (List Declaration) :=
  visit fun _ => false

/-- A trait that was seen is passed over. -/
lemma visitAll_again {name : String} (old : Text.lower name ∈ seen) (steps : Nat)
    (parent : Option String) :
    visitAll steps seen (name :: names) parent = visitAll steps seen names parent := by
  rw [visitAll, visit, if_pos (by simpa using old)]

/-- A trait that is loaded is gathered, and its traits come next. -/
lemma visitAll_trait {name : String} (new : Text.lower name ∉ seen) {t : Declaration}
    (loads : Loads tree s name t s') (steps : Nat) (parent : Option String) :
    visitAll (steps + 1) seen (name :: names) parent tree s =
      prepend [t] (visitAll steps (t.key :: seen) (t.traits ++ names) parent tree s') := by
  rw [visitAll, visit, if_neg (by simpa using new), run_bind, loads.1]
  exact run_cons t _ s'

/-- A parent that is found is visited, unless it was seen before. -/
lemma visitAll_parent {name : String} {p : Declaration} (loads : Loads tree s name p s')
    (steps : Nat) :
    visitAll (steps + 1) seen [] (some name) tree s =
      if p.key ∈ seen then .ok [] s'
      else prepend [p] (visitAll steps (p.key :: seen) p.traits p.parent tree s') := by
  rw [visitAll, visit, run_bind, loads.1]
  by_cases old : p.key ∈ seen
  · rw [if_pos old]
    show (if seen.contains p.key then _ else _ : Audit _) tree s' = _
    rw [if_pos (by simpa using old)]
    rfl
  · rw [if_neg old]
    show (if seen.contains p.key then _ else _ : Audit _) tree s' = _
    rw [if_neg (by simpa using old)]
    exact run_cons p _ s'

/-- Without traits and without a parent a walk is over. -/
lemma visitAll_noParent (steps : Nat) : visitAll steps seen [] none tree s = .ok [] s := by
  rw [visitAll, visit]
  rfl

/-- A visit follows a walk through traits and goes on behind it. -/
lemma visitAll_traitWalk (walk : TraitWalk tree s seen names ds s') (more : List String)
    (parent : Option String) (steps : Nat) :
    visitAll (ds.length + steps) seen (names ++ more) parent tree s =
      prepend ds (visitAll steps (seenAfter ds seen) more parent tree s') := by
  induction walk generalizing more steps with
  | done => rw [prepend_nil, List.length_nil, Nat.zero_add, List.nil_append, seenAfter_nil]
  | again old rest ih => rw [List.cons_append, visitAll_again old, ih]
  | @trait s s₁ s₂ s' seen name names t ds es new loads used rest ihUsed ihRest =>
    have count : (t :: (ds ++ es)).length + steps = ds.length + (es.length + steps) + 1 := by
      rw [List.length_cons, List.length_append]
      omega
    rw [count, List.cons_append, visitAll_trait new loads, ihUsed, ihRest, prepend_prepend,
      prepend_prepend, seenAfter_cons, seenAfter_append]
    rfl

/-- A visit follows a walk from a class to its end. -/
lemma visitAll_classWalk (walk : ClassWalk tree s seen d ds s') (steps : Nat) :
    prepend [d] (visitAll (ds.length + steps) (d.key :: seen) d.traits d.parent tree s) =
      .ok ds s' := by
  induction walk generalizing steps with
  | @root s s' seen d ds used noParent =>
    have run := visitAll_traitWalk used [] d.parent (steps + 1)
    rw [List.append_nil, noParent, visitAll_noParent] at run
    rw [List.length_cons, Nat.add_right_comm, Nat.add_assoc, noParent, run, prepend_prepend]
    exact congrArg (EStateM.Result.ok · s') (List.append_nil (d :: ds))
  | @circle s s₁ s' seen d ds name p used parent loads old =>
    have run := visitAll_traitWalk used [] d.parent (steps + 1)
    rw [List.append_nil, parent, visitAll_parent loads, if_pos old] at run
    rw [List.length_cons, Nat.add_right_comm, Nat.add_assoc, parent, run, prepend_prepend]
    exact congrArg (EStateM.Result.ok · s') (List.append_nil (d :: ds))
  | @child s s₁ s₂ s' seen d ds name p es used parent loads new up ih =>
    have run := visitAll_traitWalk used [] d.parent (es.length + steps + 1)
    rw [List.append_nil, parent, visitAll_parent loads, if_neg new, ih] at run
    have count : (d :: (ds ++ es)).length + steps = ds.length + (es.length + steps + 1) := by
      rw [List.length_cons, List.length_append]
      omega
    rw [count, parent, run, prepend_prepend]
    rfl

/-- A walk from a class is shorter than a visit may get. -/
lemma ClassWalk.length_le (walk : ClassWalk tree s seen d ds s') :
    ds.length ≤ s.classes.classes.length + tree.size + 1 := by
  obtain ⟨others, rfl, visited⟩ := walk.visited
  have known := visited.length_le
  have bound := visited.grows.potential_le
  have unread : tree.unread s.classes.files ≤ tree.size := FileTree.unread_le_size
  rw [ClassTable.potential, ClassTable.potential] at bound
  rw [List.length_cons]
  omega

/-- **The members of a class are those that a walk finds.** -/
theorem members_classWalk (walk : ClassWalk tree s [] d ds s') :
    members (fun _ => false) d tree s = .ok ds s' := by
  -- what the bound exceeds the walk by is left over
  obtain ⟨steps, hsteps⟩ := Nat.exists_eq_add_of_le walk.length_le
  have run := visitAll_classWalk walk steps
  rw [← hsteps] at run
  rw [← run]
  exact run_cons d _ s

/-- There is one walk from a class. -/
lemma ClassWalk.unique {ds' : List Declaration} {s'' : Session}
    (walk : ClassWalk tree s [] d ds s') (walk' : ClassWalk tree s [] d ds' s'') :
    ds = ds' ∧ s' = s'' := by
  have same := (members_classWalk walk).symm.trans (members_classWalk walk')
  exact EStateM.Result.ok.inj same

end RouteAudit.Audit
