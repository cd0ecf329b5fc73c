import Mathlib
import RouteAudit.Source.Token.Group

/-!
# The places of tokens

What a token is does not depend on its place in the source.  So whatever skips tokens skips the same
ones if their places are forgotten.
-/

namespace RouteAudit.Source.Token

/-- The token without its place. -/
def unplaced (t : Token) : Token :=
  { t with offset := 0 }

/-- What a reader returns, without the places of the tokens that it leaves. -/
def forget {α : Type} (x : α × List Token) : α × List Token :=
  (x.1, x.2.map unplaced)

/-- What is read is kept, and the places of what is left are forgotten. -/
@[simp]
lemma forget_mk {α : Type} (a : α) (ts : List Token) : forget (a, ts) = (a, ts.map unplaced) := rfl

/-- What is read is kept. -/
@[simp]
lemma fst_forget {α : Type} (x : α × List Token) : (forget x).1 = x.1 := rfl

/-- The places of what is left are forgotten. -/
@[simp]
lemma snd_forget {α : Type} (x : α × List Token) : (forget x).2 = x.2.map unplaced := rfl

/-- A token without its place has its kind. -/
@[simp]
lemma kind_unplaced (t : Token) : t.unplaced.kind = t.kind := by
  cases t
  rfl

/-- A token without its place has its text. -/
@[simp]
lemma text_unplaced (t : Token) : t.unplaced.text = t.text := by
  cases t
  rfl

/-- An operator is one wherever it stands. -/
@[simp]
lemma isOp_unplaced (t : Token) (ops : List String) : t.unplaced.isOp ops = t.isOp ops := by
  cases t
  rfl

/-- A keyword is one wherever it stands. -/
@[simp]
lemma isKeyword_unplaced (t : Token) (words : List String) :
    t.unplaced.isKeyword words = t.isKeyword words := by
  cases t
  rfl

/-- A bracket opens wherever it stands. -/
@[simp]
lemma opens_unplaced (t : Token) : t.unplaced.opens = t.opens := by
  cases t
  rfl

/-- A bracket closes wherever it stands. -/
@[simp]
lemma closes_unplaced (t : Token) : t.unplaced.closes = t.closes := by
  cases t
  rfl

/-- The end of a group does not depend on places. -/
@[simp]
lemma skipOpen_unplaced (depth : Nat) (ts : List Token) :
    skipOpen depth (ts.map unplaced) = (skipOpen depth ts).map unplaced := by
  induction ts generalizing depth with
  | nil => rfl
  | cons t ts ih =>
    simp only [List.map_cons, skipOpen, opens_unplaced, closes_unplaced, ih]
    split
    · rfl
    · split
      · split <;> rfl
      · rfl

/-- A group is skipped alike wherever it stands. -/
@[simp]
lemma skipGroup_unplaced (ts : List Token) :
    skipGroup (ts.map unplaced) = (skipGroup ts).map unplaced :=
  skipOpen_unplaced 0 ts

/-- A group with its first token is skipped alike wherever it stands. -/
@[simp]
lemma skipGroup_cons_unplaced (t : Token) (ts : List Token) :
    skipGroup (t.unplaced :: ts.map unplaced) = (skipGroup (t :: ts)).map unplaced :=
  skipGroup_unplaced (t :: ts)

/-- A skip to a stop from a depth is the same everywhere. -/
lemma skipUntilFrom_unplaced (stops : List String) (depth : Nat) (ts : List Token) :
    skipUntilFrom stops depth (ts.map unplaced) = (skipUntilFrom stops depth ts).map unplaced := by
  induction ts generalizing depth with
  | nil => cases depth <;> rfl
  | cons t ts ih =>
    cases depth with
    | zero =>
      simp only [List.map_cons, skipUntilFrom, isOp_unplaced, opens_unplaced, closes_unplaced, ih]
      split
      · rfl
      · split
        · rfl
        · split <;> rfl
    | succ depth =>
      simp only [List.map_cons, skipUntilFrom, opens_unplaced, closes_unplaced, ih]
      split
      · rfl
      · split <;> rfl

/-- A skip to a stop is the same everywhere. -/
@[simp]
lemma skipUntil_unplaced (stops : List String) (ts : List Token) :
    skipUntil stops (ts.map unplaced) = (skipUntil stops ts).map unplaced :=
  skipUntilFrom_unplaced stops 0 ts

/-- A skip past a stop is the same everywhere. -/
@[simp]
lemma skipPast_unplaced (stops : List String) (ts : List Token) :
    skipPast stops (ts.map unplaced) = (skipPast stops ts).map unplaced := by
  rw [skipPast, skipUntil_unplaced, ← List.map_drop, skipPast]

/-- A body is skipped alike wherever it stands. -/
@[simp]
lemma skipBody_unplaced (ts : List Token) :
    skipBody (ts.map unplaced) = (skipBody ts).map unplaced := by
  rw [skipBody, skipUntil_unplaced, skipBody]
  cases skipUntil ["\x7b", ";"] ts with
  | nil => rfl
  | cons t rest =>
    simp only [List.map_cons, isOp_unplaced]
    rw [← List.map_cons, skipGroup_unplaced, apply_ite (List.map unplaced),
      apply_ite (List.map unplaced)]

end RouteAudit.Source.Token
