import RouteAudit.Proofs.ClassTable
import RouteAudit.Proofs.Files.Canonical
import RouteAudit.Proofs.Session
import RouteAudit.Proofs.Source.Declaration.Count

/-!
# What a search learns

A search for a class reads files, and by each the table of classes grows.  What is found is known
from then on (`find_found`).
-/

namespace RouteAudit.Audit
open Source (Declaration)

variable {tree : FileTree} {s s' : Session}

/-- How a file is registered: one that was read before is not read again. -/
lemma registerFile_eq (path : Path) (s : Session) :
    registerFile path tree s =
      match tree.identity path with
      | .error fault => .error (.file fault) s
      | .ok file =>
        match s.classes.files.get? file with
        | some declarations => .ok declarations s
        | none =>
          match tree.read path with
          | .error fault =>
            .ok [] { s with
              classes := s.classes.record file []
              notes := s.notes ++ [.sourceUnreadable path (.file fault)] }
          | .ok bytes =>
            .ok (Declaration.parse (some path) (sourceText bytes))
              { s with
                classes := s.classes.record file
                  (Declaration.parse (some path) (sourceText bytes)) } := by
  rw [registerFile, run_bind, run_read]
  dsimp only
  rw [run_bind, run_ofAccess]
  cases tree.identity path with
  | error fault => rfl
  | ok file =>
    show (get >>= _ : Audit _) tree s = _
    rw [run_bind, run_get]
    dsimp only
    cases s.classes.files.get? file with
    | some declarations => rfl
    | none =>
      cases tree.read path with
      | error fault => rfl
      | ok bytes => rfl

/-- Registering a file adds no more classes than the file has bytes. -/
lemma registerFile_grows {path : Path} {declarations : List Declaration}
    (run : registerFile path tree s = .ok declarations s') :
    s.classes.Grows tree s'.classes := by
  rw [registerFile_eq] at run
  cases hid : tree.identity path with
  | error fault =>
    rw [hid] at run
    cases run
  | ok file =>
    rw [hid] at run
    cases hknown : s.classes.files.get? file with
    | some known =>
      simp only [hknown] at run
      cases run
      exact .refl _
    | none =>
      simp only [hknown] at run
      cases hread : tree.read path with
      | error fault =>
        simp only [hread] at run
        cases run
        exact ClassTable.grows_record (List.forall_mem_nil _) (FileTree.unread_insert_le file [])
      | ok bytes =>
        simp only [hread] at run
        cases run
        -- the file is known by the names of its entry, whose bytes were not counted as read
        obtain ⟨names, hnames, entry⟩ := FileTree.identity_of_read hread
        obtain rfl : { slashes := 1, parts := names } = file :=
          Except.ok.inj (hnames.symm.trans hid)
        have count := Declaration.length_parse_le (some path) bytes
        have room := FileTree.unread_insert_add_le entry hknown
          (Declaration.parse (some path) (sourceText bytes))
        exact ClassTable.grows_record (fun d hd => ⟨path, bytes, hread, hd⟩) (by omega)

/-- How files are read until one declares a class. -/
lemma findIn_cons (key : String) (path : Path) (paths : List Path) (s : Session) :
    findIn key (path :: paths) tree s =
      match tree.isFile path with
      | .error fault => .error (.file fault) s
      | .ok false => findIn key paths tree s
      | .ok true =>
        match registerFile path tree s with
        | .error fault s' => .error fault s'
        | .ok _ s' =>
          match s'.classes.get? key with
          | some d => .ok (some d) s'
          | none => findIn key paths tree s' := by
  rw [findIn, run_bind, run_read]
  dsimp only
  rw [run_bind, run_ofAccess]
  cases tree.isFile path with
  | error fault => rfl
  | ok found =>
    cases found with
    | false => rfl
    | true =>
      show (registerFile path >>= _ : Audit _) tree s = _
      rw [run_bind]
      cases registerFile path tree s with
      | error fault s' => rfl
      | ok declarations s' =>
        show (get >>= _ : Audit _) tree s' = _
        rw [run_bind, run_get]
        dsimp only
        cases s'.classes.get? key <;> rfl

/-- What comes of a search for a class: the table grows, and holds what was found. -/
structure Found (tree : FileTree) (key : String) (s : Session) (found : Option Declaration)
    (s' : Session) : Prop where
  grows : s.classes.Grows tree s'.classes
  known : ∀ d, found = some d → s'.classes.get? key = some d

/-- A search through files that comes to its end has found what there is. -/
lemma findIn_found {key : String} {paths : List Path} {found : Option Declaration}
    (run : findIn key paths tree s = .ok found s') : Found tree key s found s' := by
  induction paths generalizing s with
  | nil =>
    cases run
    exact ⟨.refl _, nofun⟩
  | cons path paths ih =>
    rw [findIn_cons] at run
    cases hfile : tree.isFile path with
    | error fault =>
      rw [hfile] at run
      cases run
    | ok isFile =>
      rw [hfile] at run
      cases isFile with
      | false => exact ih run
      | true =>
        cases hregister : registerFile path tree s with
        | error fault s₁ =>
          simp only [hregister] at run
          cases run
        | ok declarations s₁ =>
          simp only [hregister] at run
          have grows := registerFile_grows hregister
          cases hget : s₁.classes.get? key with
          | some d =>
            simp only [hget] at run
            cases run
            exact ⟨grows, fun d hd => hd ▸ hget⟩
          | none =>
            simp only [hget] at run
            exact ⟨grows.trans (ih run).grows, (ih run).known⟩

/-- A class that is known is found without a search. -/
lemma find_of_known {name : String} {d : Declaration}
    (known : s.classes.get? (Source.ClassName.key name) = some d) :
    find name tree s = .ok (some d) s := by
  rw [find, run_bind, run_get]
  simp only [known]
  rfl

/-- **A search lets the table grow, and what it finds is known from then on.** -/
theorem find_found {name : String} {found : Option Declaration}
    (run : find name tree s = .ok found s') :
    Found tree (Source.ClassName.key name) s found s' := by
  cases hget : s.classes.get? (Source.ClassName.key name) with
  | some d =>
    rw [find_of_known hget] at run
    cases run
    exact ⟨.refl _, fun d hd => hd ▸ hget⟩
  | none =>
    rw [find, run_bind, run_get] at run
    simp only [hget] at run
    exact findIn_found run

end RouteAudit.Audit
