import RouteAudit.Proofs.Source.Expr.Step
import RouteAudit.Proofs.Source.Token.Rounds

/-!
# The readers of expressions call by call

The readers of expressions call each other, and what is called for does not show in what they
return.  `Task.plan` is the body of a reader with its calls still to be made: a reader returns what
its plan returns when the readers answer the calls (`Task.result_plan`), and `Plan.Takes` counts the
calls that are made until then.  A round of a loop is a call of the loop, so the loop of an
expression and the loop of an array are tasks of their own.  A loop that skips tokens makes no calls,
and its rounds are counted at once.
-/

namespace RouteAudit.Source.Expr
open Token

/-- What the readers of expressions call for. -/
inductive Task where
  | expression
  /-- The loop of an expression, at what follows its first operands. -/
  | chain (left : Expr)
  | operand
  /-- What a name and the tokens behind it stand for. -/
  | named (name : String)
  /-- The call of `dirname`, behind its opening parenthesis. -/
  | parent
  /-- An array, behind its opening bracket. -/
  | array
  /-- The loop of an array, where `before` puts the first elements in front of the others. -/
  | elements (before : Elements → Elements)

/-- What is read for a task, and the tokens that are left. -/
def Task.answer : Task → List Token → Expr × List Token
  | .expression, ts => outcome (read ts)
  | .chain left, ts => outcome (readChain left ts)
  | .operand, ts => outcome (readOperand ts)
  | .named name, ts => outcome (readNamed name ts)
  | .parent, ts => outcome (readParent ts)
  | .array, ts => (.array (outcome (readElements ts)).1, (outcome (readElements ts)).2)
  | .elements before, ts =>
    (.array (before (outcome (readElements ts)).1), (outcome (readElements ts)).2)

/-- What a reader does next: it returns, it skips tokens in a number of rounds, or it makes a call and
goes on with the answer. -/
inductive Plan (α : Type) where
  | leave (x : α)
  | loop (rounds : Nat) (next : Plan α)
  | call (task : Task) (ts : List Token) (next : Expr × List Token → Plan α)

/-- The rounds in which the call of a member is skipped; `ts` follows the colons. -/
def memberRounds (ts : List Token) : Nat :=
  match ts with
  | [] => 0
  | member :: ts =>
    if member.isKeyword ["class"] then 0
    else
      match ts with
      | [] => 0
      | call :: ts => if call.isOp ["("] then groupRounds (call :: ts) else 0

/-- What is done where nothing is understood: tokens are skipped up to the end of the expression. -/
def skipped (t : Token) (ts : List Token) : Plan (Expr × List Token) :=
  .loop (untilRounds terminators (t :: ts))
    (.leave (unsupported, skipUntil terminators (t :: ts)))

/-- The body of the reader for a task. -/
def Task.plan : Task → List Token → Plan (Expr × List Token)
  | .expression, ts => .call .operand ts fun x => .call (.chain x.1) x.2 .leave
  | .chain left, [] => .leave (left, [])
  | .chain left, t :: ts =>
    if t.isOp terminators then .leave (left, t :: ts)
    else if t.isOp ["."] then
      .call .operand ts fun x => .call (.chain (.concat left x.1)) x.2 .leave
    else
      .loop (untilRounds terminators (t :: ts))
        (.leave (.discarded left, skipUntil terminators (t :: ts)))
  | .operand, [] => .leave (unsupported, [])
  | .operand, t :: ts =>
    match t.kind with
    | .string => .leave (ofString t, ts)
    | .number => .leave (ofNumber t.text, ts)
    | .variable => .leave (.variable t.text, ts)
    | .heredoc => .leave (unsupported, ts)
    | .name => .call (.named t.text) ts .leave
    | .op =>
      if t.isOp ["["] then .call .array ts .leave
      else if t.isOp ["("] then .call .expression ts fun x => .leave (x.1, (dropClose x.2).1)
      else skipped t ts
    | .other => skipped t ts
  | .named name, [] => .leave ((ofWord? (Text.lower name)).getD unsupported, [])
  | .named name, t :: ts =>
    match ofWord? (Text.lower name) with
    | some e => .leave (e, t :: ts)
    | none =>
      if t.isOp ["("] then
        if Text.lower name = "array" then .call .array ts .leave
        else if Text.lower name = "dirname" then .call .parent ts .leave
        else .loop (groupRounds (t :: ts)) (.leave (unsupported, skipGroup (t :: ts)))
      else if t.isOp ["::"] then .loop (memberRounds ts) (.leave (outcome (readMember name ts)))
      else .leave (unsupported, t :: ts)
  | .parent, ts =>
    .call .expression ts fun path =>
      match path.2 with
      | [] => .leave (.parent path.1 (.constant (.integer 1)), [])
      | t :: r =>
        if t.isOp [","] then
          .call .expression r fun levels =>
            .leave (.parent path.1 levels.1, (dropClose levels.2).1)
        else .leave (.parent path.1 (.constant (.integer 1)), (dropClose (t :: r)).1)
  | .array, ts => .call (.elements id) ts .leave
  | .elements before, [] => .leave (.array (before .nil), [])
  | .elements before, t :: ts =>
    if t.closes then .leave (.array (before .nil), ts)
    else if t.isOp [","] then .call (.elements before) ts .leave
    else if t.isOp ["..."] then
      .loop (untilRounds [","] ts + 1) (.call (.elements before) (skipUntil [","] ts) .leave)
    else
      .call .expression (t :: ts) fun first =>
        match first.2 with
        | [] => .call (.elements (before ∘ .item first.1)) [] .leave
        | arrow :: r =>
          if arrow.isOp ["=>"] then
            .call .expression r fun value =>
              .call (.elements (before ∘ .pair first.1 value.1)) value.2 .leave
          else if r.length < ts.length then
            .call (.elements (before ∘ .item first.1)) (arrow :: r) .leave
          else .call (.elements (before ∘ .item first.1)) ts .leave

namespace Plan

/-- What a plan returns when the readers answer its calls. -/
def result {α : Type} : Plan α → α
  | leave x => x
  | loop _ next => next.result
  | call task ts next => (next (task.answer ts)).result

/-- Whether a plan makes a call itself, when the readers answer its calls. -/
def Makes {α : Type} : Plan α → Task → List Token → Prop
  | leave _, _, _ => False
  | loop _ next, task', ts' => next.Makes task' ts'
  | call task ts next, task', ts' =>
    (task' = task ∧ ts' = ts) ∨ (next (task.answer ts)).Makes task' ts'

/-- Whether a plan returns something after a number of calls and rounds: those that it makes itself,
and those that the plans for its calls make in turn. -/
inductive Takes : {α : Type} → Plan α → α → Nat → Prop where
  | leave {α} {x : α} :
    Takes (.leave x) x 0
  | loop {α rounds} {next : Plan α} {x n} :
    Takes next x n →
    Takes (.loop rounds next) x (rounds + n)
  | call {α task ts} {next : Expr × List Token → Plan α} {e x m n} :
    Takes (task.plan ts) e m →
    Takes (next e) x n →
    Takes (.call task ts next) x (m + n + 1)

end Plan

/-- Readers do what is planned for them. -/
lemma Task.result_plan (task : Task) (ts : List Token) :
    (task.plan ts).result = task.answer ts := by
  cases task with
  | expression => exact (outcome_read ts).symm
  | chain left =>
    cases ts with
    | nil => rw [answer, readChain]; rfl
    | cons t ts =>
      rw [answer, outcome_readChain, plan]
      split
      · rfl
      · split <;> rfl
  | operand =>
    cases ts with
    | nil => rw [answer, readOperand]; rfl
    | cons t ts =>
      rw [answer, outcome_readOperand, plan]
      cases t.kind with
      | op =>
        simp only
        split
        · rfl
        · split <;> rfl
      | _ => rfl
  | named name =>
    cases ts with
    | nil => exact (outcome_readNamed_nil name).symm
    | cons t ts =>
      rw [answer, outcome_readNamed, plan]
      cases ofWord? (Text.lower name) with
      | some e => rfl
      | none =>
        simp only
        split
        · split
          · rfl
          · split <;> rfl
        · split <;> rfl
  | parent =>
    rw [answer, outcome_readParent, plan, Plan.result, answer]
    rcases outcome (read ts) with ⟨path, _ | ⟨t, r⟩⟩
    · rfl
    · simp only
      split <;> rfl
  | array => rfl
  | elements before =>
    cases ts with
    | nil => rw [answer, readElements]; rfl
    | cons t ts =>
      rw [answer, outcome_readElements, plan]
      split
      · rfl
      · split
        · rfl
        · split
          · rfl
          · rw [Plan.result, answer]
            rcases outcome (read (t :: ts)) with ⟨first, _ | ⟨arrow, r⟩⟩
            · rw [Plan.result, answer, readElements]; rfl
            · simp only
              split
              · rfl
              · split <;> rfl

/-- A plan returns what the readers return. -/
lemma Plan.Takes.result {α : Type} {p : Plan α} {x : α} {n : Nat} (h : p.Takes x n) :
    p.result = x := by
  induction h with
  | leave => rfl
  | loop _ ih => exact ih
  | @call _ task ts next e x m n _ _ ihe ihx =>
    rw [Task.result_plan] at ihe
    rw [Plan.result, ihe, ihx]

/-- A plan takes one number of calls and rounds. -/
lemma Plan.Takes.unique {α : Type} {p : Plan α} {x y : α} {n m : Nat} (h : p.Takes x n)
    (h' : p.Takes y m) : n = m := by
  induction h generalizing m with
  | leave =>
    cases h' with
    | leave => rfl
  | loop _ ih =>
    cases h' with
    | loop h' => rw [ih h']
  | call he _ ihe ihx =>
    cases h' with
    | call he' hx' =>
      cases he.result.symm.trans he'.result
      rw [ihe he', ihx hx']

end RouteAudit.Source.Expr
