import RouteAudit.Source.NameScope
import RouteAudit.Source.Token.Group

/-!
# Use clauses

What a `use` statement adds to the scope: a comma list of class names, each possibly with an alias,
and possibly in braces behind a common start.  A clause that imports functions or constants adds
nothing.
-/

namespace RouteAudit.Source.UseClause

/-- Whether the token is the lone backslash between the common start and the brace of a group. -/
def isGroupMark (t : Token) : Bool :=
  t.kind == .other && t.text == "\\"

/-- Reads the items up to the semicolon; `start` is what the names of an open group begin with. -/
def readItems (start : String) (scope : NameScope) : List Token → NameScope × List Token
  | [] => (scope, [])
  | t :: ts =>
    if t.isOp [";"] then (scope, ts)
    else if t.isOp ["\x7d"] then readItems "" scope ts
    else if t.kind ≠ .name then readItems start scope ts
    else match ts with
      | [] => (scope.addImport (start ++ t.text) none, [])
      | mark :: ts =>
        if isGroupMark mark then readItems (Text.trimStart (· == '\\') t.text ++ "\\") scope ts
        else if mark.isKeyword ["as"] then
          match ts with
          | [] => (scope.addImport (start ++ t.text) none, [])
          | short :: ts => readItems start (scope.addImport (start ++ t.text) short.text) ts
        else readItems start (scope.addImport (start ++ t.text) none) (mark :: ts)

/-- Reads a clause whose first token follows the word `use`: the scope and the tokens after it. -/
def read (scope : NameScope) (ts : List Token) : NameScope × List Token :=
  match ts with
  | [] => (scope, [])
  | t :: _ =>
    if t.isKeyword ["function", "const"] then (scope, Token.skipPast [";"] ts)
    else readItems "" scope ts

/-- The reader of items leaves no more tokens than it finds. -/
theorem length_readItems_le (start : String) (scope : NameScope) (ts : List Token) :
    (readItems start scope ts).2.length ≤ ts.length := by
  fun_induction readItems start scope ts <;> simp_all <;> omega

/-- The reader of clauses leaves no more tokens than it finds. -/
theorem length_read_le (scope : NameScope) (ts : List Token) :
    (read scope ts).2.length ≤ ts.length := by
  unfold read
  split
  · simp
  · split
    · exact Token.length_skipPast_le _ _
    · exact length_readItems_le _ _ _

end RouteAudit.Source.UseClause
