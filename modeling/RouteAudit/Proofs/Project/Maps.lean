import RouteAudit.Proofs.ActionTable
import RouteAudit.Proofs.Session
import RouteAudit.Project.Check

/-!
# The maps of a project

The handles of a project and its controllers are put together from several sources, and none of
them stands twice (`buildProject_nodup`).
-/

namespace RouteAudit

namespace Audit

variable {tree : FileTree}

/-- More modules keep the handles different. -/
lemma addModules_nodup (lookUp : Bool) (definitions : List (Source.Key × Source.Value))
    {handles : HandleMap} (h : handles.keys.Nodup) :
    Yields tree (addModules lookUp handles definitions) fun m => m.keys.Nodup := by
  induction definitions generalizing handles with
  | nil => exact Yields.pure h
  | cons entry rest ih =>
    obtain ⟨key, definition⟩ := entry
    refine (Yields.any _).bind fun className? _ => ?_
    cases className? with
    | none => exact (Yields.any _).bind fun _ _ => ih h
    | some className =>
      dsimp only
      cases HandleMap.handleOf key with
      | error fault => exact Yields.throw _
      | ok handle => exact ih (Assoc.nodup_insert h _ _)

/-- Resolved handles are different. -/
lemma resolveHandles_nodup (config : Path) (overrides : HandleMap) (lookUp : Bool)
    (core : String) :
    Yields tree (resolveHandles config overrides lookUp core) fun handles =>
      handles.map.keys.Nodup := by
  have start : Assoc.keys [(HandleMap.coreHandle, core)] |>.Nodup := by simp [Assoc.keys]
  have override {handles : HandleMap} (h : handles.keys.Nodup) :
      (handles.override overrides).keys.Nodup :=
    Assoc.nodup_foldl (fun _ _ hm => Assoc.nodup_insert hm _ _) h overrides
  refine (Yields.any _).bind fun root? _ => ?_
  cases root? with
  | none => exact (Yields.any _).bind fun _ _ => Yields.pure (override start)
  | some root =>
    refine (Yields.any _).bind fun config _ => ?_
    refine (addModules_nodup lookUp _ start).bind fun modules hmodules => ?_
    refine (Yields.any _).bind fun plugins _ => Yields.pure (override ?_)
    exact Assoc.nodup_foldl (fun _ _ hm => Assoc.nodup_insert hm _ _) hmodules plugins

/-- No handle of a project and no controller stands twice. -/
theorem buildProject_nodup (c : CheckConfig) :
    Yields tree (buildProject c) fun project =>
      project.snapshot.handles.map.keys.Nodup ∧ project.actions.keys.Nodup := by
  have snapshot : Yields tree (takeSnapshot c) fun s => s.handles.map.keys.Nodup := by
    refine (Yields.any _).bind fun root _ => ?_
    cases c.autoload
    all_goals
      refine (Yields.any _).bind fun autoload _ => (Yields.any _).bind fun _ _ => ?_
      refine (resolveHandles_nodup _ _ _ _).bind fun handles h => ?_
      exact (Yields.any _).bind fun _ _ => (Yields.any _).bind fun _ _ => Yields.pure h
  have actions (s : Snapshot) : Yields tree (controllerActions s c) fun a => a.keys.Nodup := by
    rw [controllerActions]
    split
    all_goals
      exact (Yields.any _).bind fun scanned _ => Yields.pure (ActionTable.nodup_merge _ _)
  refine snapshot.bind fun s hs => (actions s).bind fun a ha => ?_
  exact (Yields.any _).bind fun index _ => Yields.pure ⟨hs, ha⟩

end Audit

end RouteAudit
