import RouteAudit.Source.Expr
import RouteAudit.Source.Literal
import RouteAudit.Source.Token.Group

/-!
# Reading expressions

An expression is read from the tokens to come, and every source of tokens gives one: what is not
understood is skipped to the end of the expression.  Each reader returns the tokens that it leaves
and a proof that they are no more than it got, which is what makes the readers end.
-/

namespace RouteAudit.Source.Expr

open Token (Rest skipTo unread)

/-- The operators at which an expression ends. -/
def terminators : List String :=
  [",", ";", ")", "]", "\x7d", "=>"]

/-- What is not understood. -/
def unsupported : Expr :=
  .constant .unresolved

/-- The value of a number token. -/
def ofNumber (text : String) : Expr :=
  match Text.Numeral.read? text with
  | some (.integer n) => .constant (.integer n)
  | some (.double bits) => .constant (.double bits)
  | none => unsupported

/-- The value of a string token. -/
def ofString (t : Token) : Expr :=
  match t.stringValue? with
  | some s => .constant (.text s)
  | none => unsupported

/-- What a lower-case name stands for by itself. -/
def ofWord? (word : String) : Option Expr :=
  if word = "true" then some (.constant (.bool true))
  else if word = "false" then some (.constant (.bool false))
  else if word = "null" then some (.constant .null)
  else if word = "__dir__" then some .directory
  else if word = "__file__" then some .file
  else none

/-- The tokens after a leading closing parenthesis, if there is one. -/
def dropClose : (ts : List Token) → Rest ts
  | [] => unread []
  | t :: ts => if t.isOp [")"] then ⟨ts, by simp⟩ else unread (t :: ts)

/-- What a name and two colons stand for; `ts` follows the colons. -/
def readMember (name : String) : (ts : List Token) → Expr × Rest ts
  | [] => (unsupported, unread [])
  | member :: ts =>
    if member.isKeyword ["class"] then (.className name, ⟨ts, by simp⟩)
    else match ts with
      | [] => (unsupported, ⟨[], by simp⟩)
      | call :: ts =>
        if call.isOp ["("] then
          (unsupported, ⟨Token.skipGroup (call :: ts), by
            have := Token.length_skipGroup_lt call ts; simp at *; omega⟩)
        else (unsupported, ⟨call :: ts, by simp⟩)

mutual

/-- Reads an expression up to a terminator or the end. -/
def read (ts : List Token) : Expr × Rest ts :=
  match readOperand ts with
  | (left, ⟨r, hr⟩) =>
    match readChain left r with
    | (e, ⟨r', hr'⟩) => (e, ⟨r', by omega⟩)
  termination_by 3 * ts.length + 1

/-- Reads what follows the first operands of an expression. -/
def readChain (left : Expr) (ts : List Token) : Expr × Rest ts :=
  match ts with
  | [] => (left, unread [])
  | t :: ts =>
    if t.isOp terminators then (left, unread (t :: ts))
    else if t.isOp ["."] then
      match readOperand ts with
      | (right, ⟨r, hr⟩) =>
        match readChain (.concat left right) r with
        | (e, ⟨r', hr'⟩) => (e, ⟨r', by simp only [List.length_cons]; omega⟩)
    else (.discarded left, skipTo terminators (t :: ts))
  termination_by 3 * ts.length + 0

/-- Reads one operand. -/
def readOperand (ts : List Token) : Expr × Rest ts :=
  match ts with
  | [] => (unsupported, unread [])
  | t :: ts =>
    match t.kind with
    | .string => (ofString t, ⟨ts, by simp⟩)
    | .number => (ofNumber t.text, ⟨ts, by simp⟩)
    | .variable => (.variable t.text, ⟨ts, by simp⟩)
    | .heredoc => (unsupported, ⟨ts, by simp⟩)
    | .name =>
      match readNamed t.text ts with
      | (e, ⟨r, hr⟩) => (e, ⟨r, by simp only [List.length_cons]; omega⟩)
    | .op =>
      if t.isOp ["["] then
        match readElements ts with
        | (es, ⟨r, hr⟩) => (.array es, ⟨r, by simp only [List.length_cons]; omega⟩)
      else if t.isOp ["("] then
        match read ts with
        | (e, ⟨r, hr⟩) =>
          match dropClose r with
          | ⟨r', hr'⟩ => (e, ⟨r', by simp only [List.length_cons]; omega⟩)
      else (unsupported, skipTo terminators (t :: ts))
    | .other => (unsupported, skipTo terminators (t :: ts))
  termination_by 3 * ts.length + 0

/-- Reads what a name and the tokens after it stand for. -/
def readNamed (name : String) (ts : List Token) : Expr × Rest ts :=
  match ofWord? (Text.lower name) with
  | some e => (e, unread ts)
  | none =>
    match ts with
    | [] => (unsupported, unread [])
    | t :: ts =>
      if t.isOp ["("] then
        if Text.lower name = "array" then
          match readElements ts with
          | (es, ⟨r, hr⟩) => (.array es, ⟨r, by simp only [List.length_cons]; omega⟩)
        else if Text.lower name = "dirname" then
          match readParent ts with
          | (e, ⟨r, hr⟩) => (e, ⟨r, by simp only [List.length_cons]; omega⟩)
        else
          (unsupported, ⟨Token.skipGroup (t :: ts), Nat.le_of_lt (Token.length_skipGroup_lt t ts)⟩)
      else if t.isOp ["::"] then
        match readMember name ts with
        | (e, ⟨r, hr⟩) => (e, ⟨r, by simp only [List.length_cons]; omega⟩)
      else (unsupported, unread (t :: ts))
  termination_by 3 * ts.length + 0

/-- Reads the path of a parent directory, and how many levels up it is. -/
def readParent (ts : List Token) : Expr × Rest ts :=
  match read ts with
  | (path, ⟨r, hr⟩) =>
    match r with
    | [] => (.parent path (.constant (.integer 1)), ⟨[], by simp⟩)
    | t :: r =>
      have hr : r.length + 1 ≤ ts.length := hr
      if t.isOp [","] then
        match read r with
        | (levels, ⟨r', hr'⟩) =>
          match dropClose r' with
          | ⟨r'', hr''⟩ => (.parent path levels, ⟨r'', by omega⟩)
      else
        match dropClose (t :: r) with
        | ⟨r', hr'⟩ =>
          (.parent path (.constant (.integer 1)),
            ⟨r', by simp only [List.length_cons] at hr'; omega⟩)
  termination_by 3 * ts.length + 2

/-- Reads the elements of an array up to the closing bracket.  An element at which nothing can be
read takes one token. -/
def readElements (ts : List Token) : Elements × Rest ts :=
  match ts with
  | [] => (.nil, unread [])
  | t :: ts =>
    if t.closes then (.nil, ⟨ts, by simp⟩)
    else if t.isOp [","] then
      match readElements ts with
      | (es, ⟨r, hr⟩) => (es, ⟨r, by simp only [List.length_cons]; omega⟩)
    else if t.isOp ["..."] then
      match skipTo [","] ts with
      | ⟨r, hr⟩ =>
        match readElements r with
        | (es, ⟨r', hr'⟩) => (es, ⟨r', by simp only [List.length_cons]; omega⟩)
    else
      match read (t :: ts) with
      | (first, ⟨r, hr⟩) =>
        match r with
        | [] => (.item first .nil, ⟨[], by simp⟩)
        | arrow :: r =>
          have hr : r.length ≤ ts.length := Nat.le_of_succ_le_succ hr
          if arrow.isOp ["=>"] then
            match read r with
            | (value, ⟨r', hr'⟩) =>
              match readElements r' with
              | (es, ⟨r'', hr''⟩) =>
                (.pair first value es, ⟨r'', by simp only [List.length_cons]; omega⟩)
          else if hlt : r.length < ts.length then
            match readElements (arrow :: r) with
            | (es, ⟨r', hr'⟩) =>
              (.item first es, ⟨r', by simp only [List.length_cons] at hr' ⊢; omega⟩)
          else
            match readElements ts with
            | (es, ⟨r', hr'⟩) =>
              (.item first es, ⟨r', by simp only [List.length_cons]; omega⟩)
  termination_by 3 * ts.length + 2

end

end RouteAudit.Source.Expr
