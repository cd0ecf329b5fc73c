import Mathlib
import RouteAudit.Session

/-!
# Runs

How an activity is run step by step.  Many activities come to the same answer whatever was learnt
before: they only look at files and take notes (`Answers`).  Of others it is known what all their
answers have in common (`Yields`).
-/

namespace RouteAudit.Audit

variable {α β : Type} {tree : FileTree}

/-- The end of a run with an answer. -/
def finish (answer : Except Fault α) (s : Session) : EStateM.Result Fault Session α :=
  match answer with
  | .ok a => .ok a s
  | .error fault => .error fault s

/-- An activity goes on from the answer and the session of another, or ends in its fault. -/
lemma run_bind (x : Audit α) (f : α → Audit β) (s : Session) :
    (x >>= f) tree s =
      match x tree s with
      | .ok a s' => f a tree s'
      | .error fault s' => .error fault s' := by
  show EStateM.bind (x tree) (fun a => f a tree) s = _
  rw [EStateM.bind]
  cases x tree s <;> rfl

/-- An activity goes on from an answer. -/
lemma run_bind_of_ok {x : Audit α} {a : α} {s s' : Session} (h : x tree s = .ok a s')
    (f : α → Audit β) : (x >>= f) tree s = f a tree s' := by
  rw [run_bind, h]

/-- Where an activity after another has an answer, both have. -/
lemma run_bind_eq_ok {x : Audit α} {f : α → Audit β} {s s' : Session} {b : β}
    (h : (x >>= f) tree s = .ok b s') :
    ∃ a s₁, x tree s = .ok a s₁ ∧ f a tree s₁ = .ok b s' := by
  rw [run_bind] at h
  cases hx : x tree s with
  | ok a s₁ =>
    rw [hx] at h
    exact ⟨a, s₁, rfl, h⟩
  | error fault s₁ =>
    rw [hx] at h
    cases h

/-- An answer that is given leaves the session as it is. -/
lemma run_pure (a : α) (s : Session) : (pure a : Audit α) tree s = .ok a s :=
  rfl

/-- A fault leaves the session as it is. -/
lemma run_throw (fault : Fault) (s : Session) :
    (throw fault : Audit α) tree s = .error fault s :=
  rfl

/-- The tree is answered. -/
lemma run_read (s : Session) : (read : Audit FileTree) tree s = .ok tree s :=
  rfl

/-- The session is answered. -/
lemma run_get (s : Session) : (get : Audit Session) tree s = .ok s s :=
  rfl

/-- A note comes after the others. -/
lemma run_note (n : Note) (s : Session) :
    note n tree s = .ok () { s with notes := s.notes ++ [n] } :=
  rfl

/-- The answer of a file access is taken over. -/
lemma run_ofAccess (answer : Except FileFault α) (s : Session) :
    ofAccess answer tree s = finish (answer.mapError .file) s := by
  cases answer <;> rfl

/-- An activity comes to the same answer in every session. -/
def Answers (tree : FileTree) (x : Audit α) (answer : Except Fault α) : Prop :=
  ∀ s, ∃ s', x tree s = finish answer s'

namespace Answers

/-- An answer that is given is always the same. -/
lemma pure (a : α) : Answers tree (pure a) (.ok a) :=
  fun s => ⟨s, run_pure a s⟩

/-- A fault is always the same. -/
lemma throw (fault : Fault) : Answers tree (throw fault : Audit α) (.error fault) :=
  fun s => ⟨s, run_throw fault s⟩

/-- The tree is the answer to its question. -/
lemma read : Answers tree read (.ok tree) :=
  fun s => ⟨s, run_read s⟩

/-- A note has no other answer. -/
lemma note (n : Note) : Answers tree (note n) (.ok ()) :=
  fun s => ⟨{ s with notes := s.notes ++ [n] }, run_note n s⟩

/-- The answer of a file access is always the same. -/
lemma ofAccess (answer : Except FileFault α) :
    Answers tree (ofAccess answer) (answer.mapError .file) :=
  fun s => ⟨s, run_ofAccess answer s⟩

/-- What follows an answer starts from it. -/
lemma ok_bind {x : Audit α} {f : α → Audit β} {a : α} {answer : Except Fault β}
    (hx : Answers tree x (.ok a)) (hf : Answers tree (f a) answer) :
    Answers tree (x >>= f) answer := by
  intro s
  obtain ⟨s', hs⟩ := hx s
  obtain ⟨s'', hs'⟩ := hf s'
  refine ⟨s'', ?_⟩
  rw [run_bind, hs]
  exact hs'

/-- An activity after one that fails, fails in the same way. -/
lemma error_bind {x : Audit α} (f : α → Audit β) {fault : Fault}
    (hx : Answers tree x (.error fault)) : Answers tree (x >>= f) (.error fault) := by
  intro s
  obtain ⟨s', hs⟩ := hx s
  refine ⟨s', ?_⟩
  rw [run_bind, hs]
  rfl

end Answers

/-- Every answer of an activity has a property. -/
def Yields (tree : FileTree) (x : Audit α) (P : α → Prop) : Prop :=
  ∀ s a s', x tree s = .ok a s' → P a

namespace Yields

variable {P : α → Prop}

/-- What holds of an answer holds where it is given. -/
lemma pure {a : α} (h : P a) : Yields tree (pure a) P := by
  intro s a' s' run
  cases run
  exact h

/-- A fault gives nothing. -/
lemma throw (fault : Fault) : Yields tree (throw fault) P := by
  intro s a s' run
  cases run

/-- Every answer is one. -/
lemma any (x : Audit α) : Yields tree x fun _ => True :=
  fun _ _ _ _ => trivial

/-- What holds of all answers of an activity may be used in what comes after it. -/
lemma bind {x : Audit β} {f : β → Audit α} {Q : β → Prop} (hx : Yields tree x Q)
    (hf : ∀ b, Q b → Yields tree (f b) P) : Yields tree (x >>= f) P := by
  intro s a s' run
  rw [run_bind] at run
  cases h : x tree s with
  | ok b s₁ =>
    rw [h] at run
    exact hf b (hx s b s₁ h) s₁ a s' run
  | error fault s₁ =>
    rw [h] at run
    cases run

end Yields

end RouteAudit.Audit
