import RouteAudit.Proofs.Assoc
import RouteAudit.Proofs.Session
import RouteAudit.Proofs.Text.Cut
import RouteAudit.Project.Check

/-!
# The routes of an index

An index holds exactly the routes that a handle, a class in its namespace and a method of the class
make (`mem_build`).  An index is determined by its routes, so it does not depend on the order in
which handles, classes and methods are listed, and where more of them are listed it holds more
(`build_routes`).
-/

namespace RouteAudit

/-- Whether a table lists a method for a class. -/
def ActionTable.Lists (actions : ActionTable) (className method : String) : Prop :=
  ∃ methods, (className, methods) ∈ actions ∧ method ∈ methods

namespace ActionTable

/-- The empty table lists nothing. -/
lemma not_lists_nil {c m : String} : ¬ Lists [] c m := by
  rintro ⟨_, hmem, -⟩
  exact List.not_mem_nil hmem

/-- A table lists what its first entry lists and what the others list. -/
lemma lists_cons {actions : ActionTable} {className c m : String} {methods : List String} :
    Lists ((className, methods) :: actions) c m ↔
      c = className ∧ m ∈ methods ∨ Lists actions c m := by
  simp only [Lists, List.mem_cons, Prod.mk.injEq, or_and_right, exists_or, and_assoc,
    exists_and_left, exists_eq_left]

variable {table : ActionTable} {className c m : String} {methods : List String}

/-- A method of a union is in one of its parts. -/
lemma mem_of_mem_union {more : List String} (h : m ∈ union methods more) :
    m ∈ methods ∨ m ∈ more := by
  rw [union] at h
  induction more generalizing methods with
  | nil => exact .inl h
  | cons method more ih =>
    rw [List.foldl_cons] at h
    rcases ih h with h | h
    · split at h
      · exact .inl h
      · rcases List.mem_append.1 h with h | h
        · exact .inl h
        · exact .inr (List.mem_cons.2 (.inl (List.mem_singleton.1 h)))
    · exact .inr (List.mem_cons_of_mem method h)

/-- An extended table lists what was there and what was added. -/
lemma lists_extend (h : Lists (extend table className methods) c m) :
    Lists table c m ∨ c = className ∧ m ∈ methods := by
  obtain ⟨listed, hentry, hm⟩ := h
  rcases Assoc.mem_insert hentry with hentry | heq
  · exact .inl ⟨listed, hentry, hm⟩
  · obtain ⟨rfl, rfl⟩ := Prod.mk.inj heq
    suffices both : m ∈ (table.get? c).getD [] ∨ m ∈ methods by
      refine both.imp (fun old => ?_) fun new => ⟨rfl, new⟩
      cases hget : table.get? c with
      | none =>
        rw [hget] at old
        cases old
      | some known =>
        rw [hget] at old
        exact ⟨known, Assoc.mem_of_get? hget, old⟩
    exact mem_of_mem_union hm

/-- A supplied table lists what was there and what was added. -/
lemma lists_supply (h : Lists (supply table className methods) c m) :
    Lists table c m ∨ c = className ∧ m ∈ methods := by
  rw [supply] at h
  split at h
  · exact .inl h
  · obtain ⟨listed, hentry, hm⟩ := h
    rcases Assoc.mem_insert hentry with hentry | heq
    · exact .inl ⟨listed, hentry, hm⟩
    · obtain ⟨rfl, rfl⟩ := Prod.mk.inj heq
      exact .inr ⟨rfl, hm⟩

/-- A merged table lists nothing that was neither collected nor discovered. -/
lemma lists_merge {collected : List (String × List String)} {discovered : ActionTable}
    (h : Lists (merge collected discovered) c m) : Lists collected c m ∨ Lists discovered c m := by
  have folded {step : ActionTable → String × List String → ActionTable}
      (hstep : ∀ table entry, Lists (step table entry) c m →
        Lists table c m ∨ c = entry.1 ∧ m ∈ entry.2)
      {entries : List (String × List String)} {table : ActionTable}
      (h : Lists (entries.foldl step table) c m) : Lists table c m ∨ Lists entries c m := by
    induction entries generalizing table with
    | nil => exact .inl h
    | cons entry entries ih =>
      rcases ih h with h | h
      · exact (hstep table entry h).imp_right fun here => lists_cons.2 (.inl here)
      · exact .inr (lists_cons.2 (.inr h))
  rw [merge] at h
  rcases folded (fun _ _ => lists_supply) h with h | h
  · exact .inl ((folded (fun _ _ => lists_extend) h).resolve_left not_lists_nil)
  · exact .inr h

end ActionTable

namespace HandleMap

/-- What the routes under a handle start with; those of the core framework start with nothing. -/
def routeStart (handle : String) : String :=
  if handle = coreHandle then "" else handle ++ "/"

/-- A handle owns the classes below its namespace. -/
lemma mem_owners {handles : HandleMap} {className handle : String} :
    handle ∈ owners handles className ↔
      ∃ space, (handle, space) ∈ handles ∧ ∃ name, className = space ++ "\\" ++ name := by
  rw [owners, List.mem_map]
  constructor
  · rintro ⟨⟨handle, space⟩, hmem, rfl⟩
    obtain ⟨hmem, inside⟩ := List.mem_filter.1 hmem
    exact ⟨space, hmem, Text.startsWith_iff.1 inside⟩
  · rintro ⟨space, hmem, inside⟩
    exact ⟨(handle, space), List.mem_filter.2 ⟨hmem, Text.startsWith_iff.2 inside⟩, rfl⟩

end HandleMap

namespace RouteIndex

variable {handles handles' : HandleMap} {actions actions' : ActionTable} {index index' : RouteIndex}
  {default : String → String} {r : String}

/-- An index is determined by its routes. -/
lemma eq_of_mem_iff (h : ∀ r, r ∈ index ↔ r ∈ index') : index = index' := by
  obtain ⟨routes, sorted⟩ := index
  obtain ⟨routes', sorted'⟩ := index'
  obtain rfl : routes = routes' := sorted.eq_of_mem_iff sorted' h
  rfl

/-- An index of a list has just its routes. -/
lemma mem_ofList {routes : List String} : r ∈ ofList routes ↔ r ∈ routes := by
  induction routes using List.reverseRecOn with
  | nil => exact Iff.rfl
  | append_singleton routes s ih =>
    rw [ofList] at ih ⊢
    rw [List.foldl_append, List.foldl_cons, List.foldl_nil, List.mem_append, List.mem_singleton,
      ← ih]
    exact mem_insertSorted.trans or_comm

/-! ## The text of a route -/

/-- The route of a default action ends in the controller. -/
lemma format_default (handle controller : String) :
    format handle controller none = HandleMap.routeStart handle ++ controller := by
  rw [format, HandleMap.routeStart]
  by_cases core : handle = ""
  · simp [core, HandleMap.coreHandle]
  · simp [core, HandleMap.coreHandle, String.append_assoc]

/-- The route of an action ends in the action. -/
lemma format_action (handle controller action : String) :
    format handle controller (some action) =
      HandleMap.routeStart handle ++ controller ++ "/" ++ action := by
  rw [format, HandleMap.routeStart]
  by_cases core : handle = ""
  · simp [core, HandleMap.coreHandle, String.append_assoc]
  · simp [core, HandleMap.coreHandle, String.append_assoc]

/-- An action has its own route, and the default action the route of its controller too. -/
lemma mem_routesOf {handle controller action method : String} :
    r ∈ routesOf handle controller action method ↔
      r = HandleMap.routeStart handle ++ controller ++ "/" ++ Identifier.ofAction method ∨
        Identifier.ofAction method = action ∧ r = HandleMap.routeStart handle ++ controller := by
  rw [routesOf, List.mem_cons, format_action, format_default]
  split <;> simp_all

/-! ## The routes of all controllers -/

/-- A route that a handle, a class in its namespace and a method of the class make: with the action,
or without it for the default action of the class. -/
def Made (handles : HandleMap) (actions : ActionTable) (default : String → String) (r : String) :
    Prop :=
  ∃ handle space className method, (handle, space) ∈ handles ∧
    (∃ name, className = space ++ "\\" ++ name) ∧ actions.Lists className method ∧
    (r = HandleMap.routeStart handle ++ Identifier.ofController className ++ "/" ++
        Identifier.ofAction method ∨
      Identifier.ofAction method = default className ∧
        r = HandleMap.routeStart handle ++ Identifier.ofController className)

/-- The routes of an index are those that can be made. -/
lemma mem_build : r ∈ build handles actions default ↔ Made handles actions default r := by
  rw [build, mem_ofList, List.mem_flatMap]
  constructor
  · rintro ⟨⟨className, methods⟩, hclass, hr⟩
    obtain ⟨handle, howner, hr⟩ := List.mem_flatMap.1 hr
    obtain ⟨method, hmethod, hr⟩ := List.mem_flatMap.1 hr
    obtain ⟨space, hhandle, inside⟩ := HandleMap.mem_owners.1 howner
    exact ⟨handle, space, className, method, hhandle, inside, ⟨methods, hclass, hmethod⟩,
      mem_routesOf.1 hr⟩
  · rintro ⟨handle, space, className, method, hhandle, inside, ⟨methods, hclass, hmethod⟩, hr⟩
    refine ⟨(className, methods), hclass, List.mem_flatMap.2 ⟨handle, ?_, ?_⟩⟩
    · exact HandleMap.mem_owners.2 ⟨space, hhandle, inside⟩
    · exact List.mem_flatMap.2 ⟨method, hmethod, mem_routesOf.2 hr⟩

/-- More handles, classes or methods give more routes. -/
lemma mem_build_of_subset (hhandles : handles ⊆ handles')
    (hactions : ∀ c m, actions.Lists c m → actions'.Lists c m)
    (h : r ∈ build handles actions default) : r ∈ build handles' actions' default := by
  obtain ⟨handle, space, className, method, hhandle, inside, hmethod, hr⟩ := mem_build.1 h
  exact mem_build.2 ⟨handle, space, className, method, hhandles hhandle, inside,
    hactions className method hmethod, hr⟩

/-- An index depends on the handles in any order, and on what the table lists. -/
lemma build_congr (hhandles : handles.Perm handles')
    (hactions : ∀ c m, actions.Lists c m ↔ actions'.Lists c m) :
    build handles actions default = build handles' actions' default := by
  refine eq_of_mem_iff fun r => ⟨?_, ?_⟩
  · exact mem_build_of_subset hhandles.subset fun c m => (hactions c m).1
  · exact mem_build_of_subset hhandles.symm.subset fun c m => (hactions c m).2

/-- A class in no namespace of a handle gives no routes. -/
lemma build_of_foreign {className : String}
    (foreign : ∀ handle space name, (handle, space) ∈ handles →
      className ≠ space ++ "\\" ++ name)
    (methods : List String) (front behind : ActionTable) :
    build handles (front ++ (className, methods) :: behind) default =
      build handles (front ++ behind) default := by
  have none : HandleMap.owners handles className = [] := by
    refine List.eq_nil_iff_forall_not_mem.2 fun handle howner => ?_
    obtain ⟨space, hhandle, name, inside⟩ := HandleMap.mem_owners.1 howner
    exact foreign handle space name hhandle inside
  rw [build, build, List.flatMap_append, List.flatMap_append, List.flatMap_cons]
  dsimp only
  rw [none, List.flatMap_nil, List.nil_append]

end RouteIndex

/-! ## The default actions -/

namespace Audit

variable {tree : FileTree}

/-- The default actions that a run finds for some classes, one class after another. -/
inductive FindsDefaults (tree : FileTree) :
    Session → List String → Assoc String String → Session → Prop where
  | none (s : Session) : FindsDefaults tree s [] [] s
  | next {s s' s'' : Session} {className action : String} {classNames : List String}
    {defaults : Assoc String String} :
    defaultActionOf className tree s = .ok action s' →
    FindsDefaults tree s' classNames defaults s'' →
    FindsDefaults tree s (className :: classNames) ((className, action) :: defaults) s''

/-- An activity that is replaced when it fails has an answer. -/
lemma exists_orElse {α : Type} {x y : Audit α} {answer : α} (hy : Answers tree y (.ok answer))
    (s : Session) : ∃ a s', orElse x y tree s = .ok a s' := by
  show ∃ a s', EStateM.tryCatch (x tree) (fun _ => y tree) s = .ok a s'
  rw [EStateM.tryCatch]
  cases x tree s with
  | ok a s' => exact ⟨a, s', rfl⟩
  | error fault s' =>
    obtain ⟨s'', run⟩ := hy s'
    exact ⟨answer, s'', run⟩

/-- A class has a default action, whatever goes wrong when it is looked for. -/
lemma exists_defaultActionOf (tree : FileTree) (className : String) (s : Session) :
    ∃ action s', defaultActionOf className tree s = .ok action s' := by
  have usual : Answers tree (do note (.defaultActionFailed className); return none)
      (.ok (none : Option String)) := (Answers.note _).ok_bind (.pure none)
  obtain ⟨declared, s', run⟩ := exists_orElse (x := declaredAction className) usual s
  rw [defaultActionOf, run_bind, run]
  cases declared with
  | none => exact ⟨_, s', rfl⟩
  | some name => exact ⟨_, s', rfl⟩

/-- The default actions are found to an end. -/
lemma exists_defaultActions (tree : FileTree) (handles : HandleMap) (actions : ActionTable)
    (s : Session) :
    ∃ defaults s', defaultActions handles actions tree s = .ok defaults s' ∧
      FindsDefaults tree s
        (actions.keys.filter fun c => !(HandleMap.owners handles c).isEmpty) defaults s' := by
  induction actions generalizing s with
  | nil => exact ⟨[], s, rfl, .none s⟩
  | cons entry actions ih =>
    obtain ⟨className, methods⟩ := entry
    rw [defaultActions, Assoc.keys, List.map_cons, List.filter_cons]
    cases HandleMap.owners handles className with
    | nil => exact ih s
    | cons owner owners =>
      obtain ⟨action, s', run⟩ := exists_defaultActionOf tree className s
      obtain ⟨defaults, s'', further, found⟩ := ih s'
      refine ⟨(className, action) :: defaults, s'', ?_, .next run found⟩
      show (defaultActionOf className >>= _) tree s = _
      rw [run_bind, run]
      show (defaultActions handles actions >>= _) tree s' = _
      rw [run_bind, further]
      rfl

end Audit

namespace RouteIndex

/-- The index of some handles and controllers holds exactly the routes that a handle, a class in its
namespace and a method of the class make, in full and, for the default action of the class, without
the action.  It can always be built, and the default actions are those that are found for the
classes in turn.  So a class is found under each handle whose namespace holds it, and one that no
namespace holds adds nothing.  Where the default actions do not depend on the run, as when no class
is looked at, the order in which handles, classes and methods are listed has no part in it, and more
of them give more routes. -/
theorem build_routes (handles : HandleMap) (actions : ActionTable) :
    (∀ default r, r ∈ build handles actions default ↔ Made handles actions default r) ∧
    (∀ tree s, ∃ defaults s',
      Audit.FindsDefaults tree s
        (actions.keys.filter fun c => !(HandleMap.owners handles c).isEmpty) defaults s' ∧
      Audit.buildRoutes handles actions tree s = .ok (build handles actions fun className =>
        (defaults.get? className).getD Audit.defaultAction) s') ∧
    (∀ default handle space name method, (handle, space) ∈ handles →
      actions.Lists (space ++ "\\" ++ name) method →
      HandleMap.routeStart handle ++ Identifier.ofController (space ++ "\\" ++ name) ++ "/" ++
        Identifier.ofAction method ∈ build handles actions default) ∧
    (∀ default className methods front behind,
      (∀ handle space name, (handle, space) ∈ handles → className ≠ space ++ "\\" ++ name) →
      actions = front ++ (className, methods) :: behind →
      build handles actions default = build handles (front ++ behind) default) ∧
    (∀ default (handles' : HandleMap) (actions' : ActionTable), handles.Perm handles' →
      (∀ c m, actions.Lists c m ↔ actions'.Lists c m) →
      build handles actions default = build handles' actions' default) ∧
    (∀ default (handles' : HandleMap) (actions' : ActionTable), handles ⊆ handles' →
      (∀ c m, actions.Lists c m → actions'.Lists c m) →
      ∀ r ∈ build handles actions default, r ∈ build handles' actions' default) := by
  refine ⟨fun _ _ => mem_build, ?_, ?_, ?_, fun _ _ _ => build_congr,
    fun _ _ _ hhandles hactions _ => mem_build_of_subset hhandles hactions⟩
  · intro tree s
    obtain ⟨defaults, s', run, found⟩ := Audit.exists_defaultActions tree handles actions s
    refine ⟨defaults, s', found, ?_⟩
    rw [Audit.buildRoutes, Audit.run_bind, run]
    rfl
  · intro default handle space name method hhandle hmethod
    exact mem_build.2 ⟨handle, space, _, method, hhandle, ⟨name, rfl⟩, hmethod, .inl rfl⟩
  · rintro default className methods front behind foreign rfl
    exact build_of_foreign foreign methods front behind

/-- The handles of an application and of a module inside it. -/
def nestedHandles : HandleMap :=
  [("", "app"), ("blog", "app\\blog")]

/-- A controller of the module, and one of another library. -/
def nestedActions : ActionTable :=
  [("app\\blog\\PostController", ["actionIndex"]), ("lib\\TaskController", ["actionRun"])]

/-- The controller of a module inside an application belongs to both. -/
theorem build_routes_nested :
    let build' := fun handles actions => build handles actions fun _ => Audit.defaultAction
    "post/index" ∈ build' nestedHandles nestedActions ∧
    "blog/post/index" ∈ build' nestedHandles nestedActions ∧
    build' nestedHandles nestedActions =
      build' nestedHandles [("app\\blog\\PostController", ["actionIndex"])] ∧
    build' nestedHandles nestedActions =
      build' nestedHandles.reverse [("lib\\TaskController", ["actionRun"]),
        ("app\\blog\\PostController", ["actionIndex", "actionIndex"])] ∧
    ∀ r ∈ build' nestedHandles nestedActions,
      r ∈ build' (nestedHandles ++ [("lib", "lib")]) nestedActions := by
  intro build'
  obtain ⟨-, -, nested, foreign, order, grows⟩ := build_routes nestedHandles nestedActions
  have listed : nestedActions.Lists "app\\blog\\PostController" "actionIndex" :=
    ⟨["actionIndex"], by simp [nestedActions], by simp⟩
  refine ⟨?_, ?_, ?_, ?_, ?_⟩
  · have core := nested (fun _ => Audit.defaultAction) "" "app" "blog\\PostController" "actionIndex"
      (by simp [nestedHandles]) listed
    have text : HandleMap.routeStart "" ++
        Identifier.ofController ("app" ++ "\\" ++ "blog\\PostController") ++ "/" ++
        Identifier.ofAction "actionIndex" = "post/index" := by decide +kernel
    rwa [text] at core
  · have inner := nested (fun _ => Audit.defaultAction) "blog" "app\\blog" "PostController"
      "actionIndex" (by simp [nestedHandles]) listed
    have text : HandleMap.routeStart "blog" ++
        Identifier.ofController ("app\\blog" ++ "\\" ++ "PostController") ++ "/" ++
        Identifier.ofAction "actionIndex" = "blog/post/index" := by decide +kernel
    rwa [text] at inner
  · refine foreign _ "lib\\TaskController" ["actionRun"] [_] [] ?_ rfl
    intro handle space name hhandle inside
    have outside : ∀ entry ∈ nestedHandles,
        Text.startsWith "lib\\TaskController" (entry.2 ++ "\\") = false := by decide +kernel
    have inside := Text.startsWith_iff.2 ⟨name, inside⟩
    rw [outside _ hhandle] at inside
    cases inside
  · refine order _ _ _ (List.reverse_perm _).symm fun c m => ?_
    simp only [nestedActions, ActionTable.lists_cons, ActionTable.not_lists_nil, List.mem_cons,
      List.not_mem_nil, or_false, or_self]
    exact or_comm
  · exact grows _ _ _ (List.subset_append_left _ _) fun _ _ => id

end RouteIndex

end RouteAudit
