import RouteAudit.Source.Expr.Parser
import RouteAudit.Source.Token.Lexer
import RouteAudit.Source.UseClause

/-!
# Scripts

A configuration file is a script that returns a value.  Its statements are read in order: namespaces
and imports change the scope, assignments to variables are remembered, the bodies of functions and
classes are skipped, and the first `return` ends the script.  Nothing else has an effect.
-/

namespace RouteAudit.Source.Script

/-- The value that the statements return. -/
def run (missing : Fault) (env : Env) (ts : List Token) : Except Fault Value :=
  match ts with
  | [] => .error missing
  | t :: ts =>
    if t.isKeyword ["namespace"] then
      match ts with
      | [] => .error missing
      | name :: ts =>
        if name.kind = .name then run missing { env with scope := .entering name.text } ts
        else run missing env ts
    else if t.isKeyword ["use"] then
      have := UseClause.length_read_le env.scope ts
      run missing { env with scope := (UseClause.read env.scope ts).1 }
        (UseClause.read env.scope ts).2
    else if t.isKeyword ["function", "class"] then
      have := Token.length_skipBody_le ts
      run missing env (Token.skipBody ts)
    else if t.kind = .variable then
      match ts with
      | [] => .error missing
      | sign :: ts =>
        if sign.isOp ["="] then
          match Expr.read ts with
          | (e, ⟨rest, _⟩) =>
            match e.eval env with
            | .error fault => .error fault
            | .ok v => run missing { env with bindings := env.bindings.insert t.text v } rest
        else run missing env (sign :: ts)
    else if t.isKeyword ["return"] then (Expr.read ts).1.eval env
    else run missing env ts
  termination_by ts.length
  decreasing_by all_goals simp_all <;> omega

/-- The value that a source returns.  The file, if there is one, is relative to `directory`. -/
def evaluate (directory : Path) (file : Option Path) (source : List Char) : Except Fault Value :=
  run (.noReturn file) { file := file.map directory.join } (Token.scan source)

end RouteAudit.Source.Script
