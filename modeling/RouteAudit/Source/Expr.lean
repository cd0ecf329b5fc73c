import RouteAudit.Source.NameScope
import RouteAudit.Source.Value

/-!
# Expressions

The expressions that a configuration file may use, and their values in an environment.
-/

namespace RouteAudit.Source

mutual

/-- An expression. -/
inductive Expr where
  /-- A literal or a named constant; `unresolved` stands for whatever is not understood. -/
  | constant (v : Value)
  | variable (name : String)
  /-- The directory of the file. -/
  | directory
  /-- The path of the file. -/
  | file
  /-- The full name of a class. -/
  | className (name : String)
  | concat (left right : Expr)
  | array (elements : Elements)
  /-- The directory of a path, some levels up. -/
  | parent (path levels : Expr)
  /-- An expression that goes on in a way that is not understood. -/
  | discarded (e : Expr)

/-- The elements of an array. -/
inductive Elements where
  | nil
  | item (value : Expr) (rest : Elements)
  | pair (key value : Expr) (rest : Elements)

end

/-- What the value of an expression depends on. -/
structure Env where
  scope : NameScope := {}
  bindings : Assoc String Value := []
  /-- The absolute path of the file, if the source is from a file. -/
  file : Option Path := none

mutual

/-- The value of an expression.  The parts of a discarded expression are evaluated all the same, so
that a fault in one of them is found. -/
def Expr.eval (env : Env) : Expr → Except Fault Value
  | .constant v => .ok v
  | .variable name => .ok ((env.bindings.get? name).getD .unresolved)
  | .directory => .ok ((env.file.map fun p => .text p.parent.toString).getD .unresolved)
  | .file => .ok ((env.file.map fun p => .text p.toString).getD .unresolved)
  | .className name => .ok (.text (env.scope.resolve name))
  | .concat left right => do
    let a ← left.eval env
    let b ← right.eval env
    a.concat b
  | .array elements => do
    let builder ← elements.eval env {}
    return builder.build
  | .parent path levels => do
    let p ← path.eval env
    let l ← levels.eval env
    return p.directory l
  | .discarded e => do
    let _ ← e.eval env
    return .unresolved

/-- The array under construction with further elements. -/
def Elements.eval (env : Env) (b : ArrayBuilder) : Elements → Except Fault ArrayBuilder
  | .nil => .ok b
  | .item value rest => do
    let v ← value.eval env
    rest.eval env (b.push v)
  | .pair key value rest => do
    let k ← key.eval env
    let key? ← Key.ofValue? k
    let v ← value.eval env
    rest.eval env (b.insert key? v)

end

end RouteAudit.Source
