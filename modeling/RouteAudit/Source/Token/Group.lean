import RouteAudit.Source.Token

/-!
# Bracketed groups

A group runs from an opening bracket to the closing bracket that brings the depth back to where it
was; brackets are counted without regard to their shape.  Readers hold the tokens that are still to
come and skip groups whole.  The lemmas say that skipping never makes that list longer.
-/

namespace RouteAudit.Source

namespace Token

/-- The tokens after the group in which `depth` brackets are open. -/
def skipOpen (depth : Nat) : List Token → List Token
  | [] => []
  | t :: ts =>
    if t.opens then skipOpen (depth + 1) ts
    else if t.closes then (if depth ≤ 1 then ts else skipOpen (depth - 1) ts)
    else skipOpen depth ts

/-- The tokens after the group that starts at the first token. -/
def skipGroup (ts : List Token) : List Token :=
  skipOpen 0 ts

/-- To skip to the end of open groups leaves no more tokens. -/
theorem length_skipOpen_le (depth : Nat) (ts : List Token) :
    (skipOpen depth ts).length ≤ ts.length := by
  induction ts generalizing depth with
  | nil => simp [skipOpen]
  | cons t ts ih =>
    have h₁ := ih (depth + 1)
    have h₂ := ih (depth - 1)
    have h₃ := ih depth
    simp only [skipOpen, List.length_cons]
    split
    · omega
    · split
      · split <;> omega
      · omega

/-- To skip a group leaves fewer tokens. -/
theorem length_skipGroup_lt (t : Token) (ts : List Token) :
    (skipGroup (t :: ts)).length < (t :: ts).length := by
  have h₁ := length_skipOpen_le 1 ts
  have h₀ := length_skipOpen_le 0 ts
  simp only [skipGroup, skipOpen, List.length_cons, Nat.zero_add]
  split
  · omega
  · split
    · simp
    · omega

/-- The tokens from the first of the given operators on, or from a closing bracket of an outer group
if that comes before; operators in the `depth` inner groups that are open do not count. -/
def skipUntilFrom (stops : List String) (depth : Nat) : List Token → List Token
  | [] => []
  | t :: ts =>
    match depth with
    | 0 =>
      if t.isOp stops then t :: ts
      else if t.opens then skipUntilFrom stops 1 ts
      else if t.closes then t :: ts
      else skipUntilFrom stops 0 ts
    | depth + 1 =>
      if t.opens then skipUntilFrom stops (depth + 2) ts
      else if t.closes then skipUntilFrom stops depth ts
      else skipUntilFrom stops (depth + 1) ts

/-- The tokens from the first of the given operators on that is in no inner group, or from a closing
bracket of an outer group if that comes before. -/
def skipUntil (stops : List String) (ts : List Token) : List Token :=
  skipUntilFrom stops 0 ts

/-- To skip from inside open groups is to skip to their end first. -/
theorem skipUntilFrom_succ (stops : List String) (depth : Nat) (ts : List Token) :
    skipUntilFrom stops (depth + 1) ts = skipUntil stops (skipOpen (depth + 1) ts) := by
  induction ts generalizing depth with
  | nil => simp [skipUntilFrom, skipUntil, skipOpen]
  | cons t ts ih =>
    simp only [skipUntilFrom, skipOpen]
    split
    · exact ih (depth + 1)
    · split
      · cases depth with
        | zero => simp [skipUntil]
        | succ depth => simpa using ih depth
      · exact ih depth

/-- At an opening bracket the whole group is skipped. -/
theorem skipUntil_cons_of_opens {stops : List String} {t : Token} (ts : List Token)
    (hs : t.isOp stops = false) (ho : t.opens = true) :
    skipUntil stops (t :: ts) = skipUntil stops (skipGroup (t :: ts)) := by
  have h := skipUntilFrom_succ stops 0 ts
  simp only [skipUntil, skipUntilFrom, hs, ho, skipGroup, skipOpen, if_true] at h ⊢
  simpa using h

/-- To skip to a stop from a depth leaves no more tokens. -/
theorem length_skipUntilFrom_le (stops : List String) (depth : Nat) (ts : List Token) :
    (skipUntilFrom stops depth ts).length ≤ ts.length := by
  fun_induction skipUntilFrom stops depth ts <;> simp_all <;> omega

/-- To skip to a stop leaves no more tokens. -/
theorem length_skipUntil_le (stops : List String) (ts : List Token) :
    (skipUntil stops ts).length ≤ ts.length :=
  length_skipUntilFrom_le stops 0 ts

/-- The tokens after the first of the given operators that is in no inner group. -/
def skipPast (stops : List String) (ts : List Token) : List Token :=
  (skipUntil stops ts).drop 1

/-- To skip past a stop leaves no more tokens. -/
theorem length_skipPast_le (stops : List String) (ts : List Token) :
    (skipPast stops ts).length ≤ ts.length := by
  have := length_skipUntil_le stops ts
  simp only [skipPast, List.length_drop]
  omega

/-- The tokens after the body of a function: a group in braces, or nothing but a semicolon. -/
def skipBody (ts : List Token) : List Token :=
  match skipUntil ["\x7b", ";"] ts with
  | [] => []
  | t :: rest =>
    if t.isOp ["\x7b"] then skipGroup (t :: rest)
    else if t.isOp [";"] then rest
    else t :: rest

/-- To skip a body leaves no more tokens. -/
theorem length_skipBody_le (ts : List Token) : (skipBody ts).length ≤ ts.length := by
  have h := length_skipUntil_le ["\x7b", ";"] ts
  unfold skipBody
  split
  · simp
  · next t rest heq =>
    have hg := length_skipGroup_lt t rest
    rw [heq] at h
    split
    · omega
    · split
      · simp only [List.length_cons] at h; omega
      · exact h

/-- The tokens that a reader leaves, no more than it got. -/
abbrev Rest (ts : List Token) := { r : List Token // r.length ≤ ts.length }

/-- What a reader reads, and the tokens that it leaves. -/
def outcome {α : Type} {ts : List Token} (x : α × Rest ts) : α × List Token :=
  (x.1, x.2.1)

/-- All the tokens: nothing is read. -/
def unread (ts : List Token) : Rest ts :=
  ⟨ts, Nat.le_refl _⟩

/-- The tokens from the next of the given operators on. -/
def skipTo (stops : List String) (ts : List Token) : Rest ts :=
  ⟨skipUntil stops ts, length_skipUntil_le stops ts⟩

end Token

end RouteAudit.Source
