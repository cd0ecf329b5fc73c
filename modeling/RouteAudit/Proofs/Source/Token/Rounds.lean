import RouteAudit.Proofs.Source.Token.Balanced
import RouteAudit.Source.UseClause

/-!
# How often skipping goes around

The readers that skip are loops: one takes the tokens of a group, one goes from token to token or
past a whole group up to an operator, and one takes the items of a use clause.  For each the rounds
are counted here.  A round takes a token or is the last one, but a bracket is looked at by two loops,
so there are at most twice as many rounds as tokens are taken, and one more.
-/

namespace RouteAudit.Source

namespace Token

/-- The rounds in which the tokens of a group are taken, when `depth` brackets are open. -/
def openRounds (depth : Nat) : List Token → Nat
  | [] => 0
  | t :: ts =>
    if t.opens then openRounds (depth + 1) ts + 1
    else if t.closes then (if depth ≤ 1 then 1 else openRounds (depth - 1) ts + 1)
    else openRounds depth ts + 1

/-- The rounds in which the group is skipped that starts at the first token. -/
def groupRounds (ts : List Token) : Nat :=
  openRounds 0 ts

/-- The rounds in which tokens are skipped up to an operator, with those for the groups on the way. -/
def untilRounds (stops : List String) : List Token → Nat
  | [] => 0
  | t :: ts =>
    if t.isOp stops then 1
    else if t.opens then groupRounds (t :: ts) + untilRounds stops (skipGroup (t :: ts)) + 1
    else if t.closes then 1
    else untilRounds stops ts + 1
  termination_by ts => ts.length
  decreasing_by
  · exact length_skipGroup_lt t ts
  · exact Nat.lt_succ_self _

/-- The rounds in which a body is skipped.  A semicolon in place of a body takes a round of its own. -/
def bodyRounds (ts : List Token) : Nat :=
  untilRounds ["\x7b", ";"] ts +
    match skipUntil ["\x7b", ";"] ts with
    | [] => 0
    | t :: rest =>
      if t.isOp ["\x7b"] then groupRounds (t :: rest)
      else if t.isOp [";"] then 1
      else 0

/-- Each round takes a token of the group. -/
lemma openRounds_add (depth : Nat) (ts : List Token) :
    openRounds depth ts + (skipOpen depth ts).length = ts.length := by
  induction ts generalizing depth with
  | nil => rfl
  | cons t ts ih =>
    have inner := ih (depth + 1)
    have outer := ih (depth - 1)
    have same := ih depth
    simp only [openRounds, skipOpen, List.length_cons]
    split
    · omega
    · split
      · split <;> omega
      · omega

/-- Each round takes a token. -/
lemma groupRounds_add (ts : List Token) :
    groupRounds ts + (skipGroup ts).length = ts.length :=
  openRounds_add 0 ts

/-- Each token that is taken is paid for at most twice. -/
lemma untilRounds_le (stops : List String) (ts : List Token) :
    untilRounds stops ts + 2 * (skipUntil stops ts).length ≤ 2 * ts.length + 1 := by
  fun_induction untilRounds stops ts with
  | case1 => simp [skipUntil, skipUntilFrom]
  | case2 t ts hstop =>
    rw [skipUntil_stop hstop]
    omega
  | case3 t ts hstop hopen ih =>
    have group := groupRounds_add (t :: ts)
    have fewer := length_skipGroup_lt t ts
    rw [skipUntil_cons_of_opens ts (Bool.eq_false_iff.2 hstop) hopen]
    omega
  | case4 t ts _ _ hclose =>
    rw [skipUntil_closes hclose]
    omega
  | case5 t ts hstop hopen hclose ih =>
    have behind : skipUntil stops (t :: ts) = skipUntil stops ts := by
      simp [skipUntil, skipUntilFrom, hstop, hopen, hclose]
    rw [behind, List.length_cons]
    omega

/-- A body is skipped in at most two rounds for each token, and one more. -/
lemma bodyRounds_le (ts : List Token) :
    bodyRounds ts + 2 * (skipBody ts).length ≤ 2 * ts.length + 1 := by
  have front := untilRounds_le ["\x7b", ";"] ts
  rw [bodyRounds, skipBody]
  cases hleft : skipUntil ["\x7b", ";"] ts with
  | nil =>
    rw [hleft] at front
    exact front
  | cons t rest =>
    have group := groupRounds_add (t :: rest)
    rw [hleft] at front
    simp only [List.length_cons] at *
    split
    · omega
    · split
      · omega
      · simp only [List.length_cons]
        omega

end Token

namespace UseClause
open Token

/-- The rounds in which the items of a clause are read. -/
def itemRounds : List Token → Nat
  | [] => 0
  | t :: ts =>
    if t.isOp [";"] then 1
    else if t.isOp ["\x7d"] then itemRounds ts + 1
    else if t.kind ≠ .name then itemRounds ts + 1
    else match ts with
      | [] => 1
      | mark :: ts =>
        if isGroupMark mark then itemRounds ts + 1
        else if mark.isKeyword ["as"] then
          match ts with
          | [] => 1
          | _ :: ts => itemRounds ts + 1
        else itemRounds (mark :: ts) + 1

/-- The rounds in which a clause is read. -/
def rounds : List Token → Nat
  | [] => 0
  | t :: ts =>
    if t.isKeyword ["function", "const"] then untilRounds [";"] (t :: ts)
    else itemRounds (t :: ts)

/-- Each round takes a token. -/
lemma itemRounds_le (start : String) (scope : NameScope) (ts : List Token) :
    itemRounds ts + (readItems start scope ts).2.length ≤ ts.length := by
  fun_induction readItems start scope ts <;> rw [itemRounds.eq_def] <;> simp_all <;> omega

/-- A use clause is read in at most two rounds for each token, and one more. -/
lemma rounds_le (scope : NameScope) (ts : List Token) :
    rounds ts + 2 * (read scope ts).2.length ≤ 2 * ts.length + 1 := by
  cases ts with
  | nil => exact Nat.zero_le _
  | cons t ts =>
    rw [rounds, read]
    split
    · have front := untilRounds_le [";"] (t :: ts)
      simp only [skipPast, List.length_drop]
      omega
    · have items := itemRounds_le "" scope (t :: ts)
      omega

end UseClause

end RouteAudit.Source
