import Mathlib
import RouteAudit.Source.Script

/-!
# The steps of the readers of expressions

What each reader of expressions returns, where the definitions also prove that the readers end.
-/

namespace RouteAudit.Source.Expr
open Token

/-- What a member access reads. -/
lemma outcome_readMember_class {name : String} {member : Token}
    (h : member.isKeyword ["class"] = true) (ts : List Token) :
    outcome (readMember name (member :: ts)) = (.className name, ts) := by
  simp [readMember, h, outcome]

/-- A closing bracket is dropped if it comes first. -/
lemma dropClose_cons (t : Token) (ts : List Token) :
    (dropClose (t :: ts)).1 = if t.isOp [")"] then ts else t :: ts := by
  rw [dropClose]
  split <;> rfl

/-- An expression is an operand and what goes on behind it. -/
lemma outcome_read (ts : List Token) :
    outcome (read ts) =
      outcome (readChain (outcome (readOperand ts)).1 (outcome (readOperand ts)).2) := by
  rw [read]
  rfl

/-- An expression goes on with points between operands. -/
lemma outcome_readChain (left : Expr) (t : Token) (ts : List Token) :
    outcome (readChain left (t :: ts)) =
      if t.isOp terminators then (left, t :: ts)
      else if t.isOp ["."] then
        outcome (readChain (.concat left (outcome (readOperand ts)).1) (outcome (readOperand ts)).2)
      else (.discarded left, skipUntil terminators (t :: ts)) := by
  rw [readChain]
  split
  · rfl
  · split <;> rfl

/-- What an operand is depends on its first token. -/
lemma outcome_readOperand (t : Token) (ts : List Token) :
    outcome (readOperand (t :: ts)) =
      match t.kind with
      | .string => (ofString t, ts)
      | .number => (ofNumber t.text, ts)
      | .variable => (.variable t.text, ts)
      | .heredoc => (unsupported, ts)
      | .name => outcome (readNamed t.text ts)
      | .op =>
        if t.isOp ["["] then
          (.array (outcome (readElements ts)).1, (outcome (readElements ts)).2)
        else if t.isOp ["("] then
          ((outcome (read ts)).1, (dropClose (outcome (read ts)).2).1)
        else (unsupported, skipUntil terminators (t :: ts))
      | .other => (unsupported, skipUntil terminators (t :: ts)) := by
  rw [readOperand]
  cases t.kind with
  | op =>
    simp only
    split
    · rfl
    · split <;> rfl
  | _ => rfl

/-- A name is a constant, or it is told by the token behind it. -/
lemma outcome_readNamed (name : String) (t : Token) (ts : List Token) :
    outcome (readNamed name (t :: ts)) =
      match ofWord? (Text.lower name) with
      | some e => (e, t :: ts)
      | none =>
        if t.isOp ["("] then
          if Text.lower name = "array" then
            (.array (outcome (readElements ts)).1, (outcome (readElements ts)).2)
          else if Text.lower name = "dirname" then outcome (readParent ts)
          else (unsupported, skipGroup (t :: ts))
        else if t.isOp ["::"] then outcome (readMember name ts)
        else (unsupported, t :: ts) := by
  rw [readNamed]
  cases ofWord? (Text.lower name) with
  | some e => rfl
  | none =>
    simp only
    split
    · split
      · rfl
      · split <;> rfl
    · split <;> rfl

/-- A name with nothing behind it is a word, or is not supported. -/
lemma outcome_readNamed_nil (name : String) :
    outcome (readNamed name []) = ((ofWord? (Text.lower name)).getD unsupported, []) := by
  rw [readNamed]
  cases ofWord? (Text.lower name) <;> rfl

/-- A name that stands for a value by itself is read alone. -/
lemma readNamed_of_word {name : String} {e : Expr} (h : ofWord? (Text.lower name) = some e)
    (rest : List Token) : outcome (readNamed name rest) = (e, rest) := by
  cases rest with
  | nil => rw [outcome_readNamed_nil, h]; rfl
  | cons t rest => rw [outcome_readNamed, h]

/-- The path of a parent directory is read up to a comma, or up to the closing parenthesis. -/
lemma outcome_readParent (ts : List Token) :
    outcome (readParent ts) =
      match outcome (read ts) with
      | (path, []) => (.parent path (.constant (.integer 1)), [])
      | (path, t :: r) =>
        if t.isOp [","] then
          (.parent path (outcome (read r)).1, (dropClose (outcome (read r)).2).1)
        else (.parent path (.constant (.integer 1)), (dropClose (t :: r)).1) := by
  rw [readParent]
  obtain ⟨path, r, hr⟩ := read ts
  cases r with
  | nil => rfl
  | cons t r =>
    simp only [outcome]
    split <;> rfl

/-- The elements of an array are told by the first token of the next one. -/
lemma outcome_readElements (t : Token) (ts : List Token) :
    outcome (readElements (t :: ts)) =
      if t.closes then (.nil, ts)
      else if t.isOp [","] then outcome (readElements ts)
      else if t.isOp ["..."] then outcome (readElements (skipUntil [","] ts))
      else
        match outcome (read (t :: ts)) with
        | (first, []) => (.item first .nil, [])
        | (first, arrow :: r) =>
          if arrow.isOp ["=>"] then
            (.pair first (outcome (read r)).1 (outcome (readElements (outcome (read r)).2)).1,
              (outcome (readElements (outcome (read r)).2)).2)
          else if r.length < ts.length then
            (.item first (outcome (readElements (arrow :: r))).1,
              (outcome (readElements (arrow :: r))).2)
          else
            (.item first (outcome (readElements ts)).1, (outcome (readElements ts)).2) := by
  rw [readElements]
  split
  · rfl
  · split
    · rfl
    · split
      · rfl
      · obtain ⟨first, r, hr⟩ := read (t :: ts)
        cases r with
        | nil => rfl
        | cons arrow r =>
          simp only [outcome]
          split
          · rfl
          · split <;> rfl

end RouteAudit.Source.Expr
