import RouteAudit.Files.Walk
import RouteAudit.Identifier
import RouteAudit.Session
import RouteAudit.Source.Declaration.Parser
import RouteAudit.Text.Newline
import RouteAudit.Text.Utf8

/-!
# Looking up classes

A class that is not known is looked for in the files that the autoload table leads to.  From there
its ancestors and the traits that it uses are found in the same way, and so its methods and the
defaults of its properties.

A class hierarchy may be circular.  No declaration is visited twice, so a visit has at most as many
steps as there can be classes; `reach` bounds that number.
-/

namespace RouteAudit

open Source (Declaration)

/-- The text of a source file. -/
def sourceText (bytes : List UInt8) : List Char :=
  Text.unifyNewlines (Text.Utf8.decodeLossy bytes)

namespace Audit

/-- Remembers the declarations of a file. -/
def record (file : Path) (declarations : List Declaration) : Audit Unit :=
  modify fun s => { s with classes := s.classes.record file declarations }

/-- The declarations of a file, which is read if it was not before. -/
def registerFile (path : Path) : Audit (List Declaration) := do
  let tree ← read
  let file ← ofAccess (tree.identity path)
  match (← get).classes.files.get? file with
  | some declarations => return declarations
  | none =>
    match tree.read path with
    | .error fault =>
      record file []
      note (.sourceUnreadable path (.file fault))
      return []
    | .ok bytes =>
      let declarations := Declaration.parse (some path) (sourceText bytes)
      record file declarations
      return declarations

/-- Reads the given files until one declares the class. -/
def findIn (key : String) : List Path → Audit (Option Declaration)
  | [] => return none
  | path :: paths => do
    if ← ofAccess ((← read).isFile path) then
      let _ ← registerFile path
      match (← get).classes.get? key with
      | some d => return some d
      | none => findIn key paths
    else findIn key paths

/-- The declaration of a class-like name. -/
def find (name : String) : Audit (Option Declaration) := do
  let table := (← get).classes
  match table.get? (Source.ClassName.key name) with
  | some d => return some d
  | none => findIn (Source.ClassName.key name) (table.candidates (Source.ClassName.bare name))

/-- The declaration of a class; traits, interfaces and enums are none. -/
def findClass (name : String) : Audit (Option Declaration) := do
  return (← find name).filter fun d => d.kind = .class

/-- A bound on the number of classes that can ever be known: those that are, and one for each byte
that can be read. -/
def reach : Audit Nat := do
  return (← get).classes.classes.length + (← read).size + 1

/-- Whether a class is reached from a parent; `steps` bounds the number of ancestors. -/
def ascends (target : String) : (steps : Nat) → (seen : List String) → Option String → Audit Bool
  | _, _, none => return false
  | 0, _, some parent => return Text.lower parent == target
  | steps + 1, seen, some parent => do
    let key := Text.lower parent
    if key = target then return true
    else if seen.contains key then return false
    else
      match ← find parent with
      | none => return false
      | some d => ascends target steps (key :: seen) d.parent

/-- Whether a class is a proper descendant of another, which need not be known itself. -/
def isSubclassOf (d : Declaration) (base : String) : Audit Bool := do
  ascends (Source.ClassName.key base) (← reach) [d.key] d.parent

/-- Visits the declarations that have a part in a class: after each class the traits that it uses,
in depth, then its parent.  The visit ends at the first declaration that is `enough`. -/
def visit (enough : Declaration → Bool) (steps : Nat) (seen traits : List String)
    (parent : Option String) : Audit (List Declaration) :=
  match traits with
  | name :: traits =>
    if seen.contains (Text.lower name) then visit enough steps seen traits parent
    else do
      match ← find name with
      | none => visit enough steps seen traits parent
      | some d =>
        if enough d then return [d]
        else
          match steps with
          | 0 => return [d]
          | steps + 1 =>
            return d :: (← visit enough steps (d.key :: seen) (d.traits ++ traits) parent)
  | [] =>
    match parent with
    | none => return []
    | some name => do
      match ← find name with
      | none => return []
      | some d =>
        if seen.contains d.key then return []
        else if enough d then return [d]
        else
          match steps with
          | 0 => return [d]
          | steps + 1 => return d :: (← visit enough steps (d.key :: seen) d.traits d.parent)
  termination_by (steps, traits.length)

/-- The declarations that have a part in a class, itself first, up to the first that is `enough`. -/
def members (enough : Declaration → Bool) (d : Declaration) : Audit (List Declaration) := do
  if enough d then return [d]
  else return d :: (← visit enough (← reach) [d.key] d.traits d.parent)

/-- The methods with those of one more declaration, unless they are there in another case. -/
def addMethods (names : List String) (d : Declaration) : List String :=
  d.methods.foldl (fun names m =>
    if (names.map Text.lower).contains (Text.lower m) then names else names ++ [m]) names

/-- The methods of a class that can be called from outside, inherited ones too. -/
def publicMethods (d : Declaration) : Audit (List String) := do
  return (← members (fun _ => false) d).foldl addMethods []

/-- The default of a property in the nearest declaration of it, if it is a string. -/
def declaredDefault (d : Declaration) (property : String) : Audit (Option String) := do
  let visited ← members (fun m => (m.default? property).isSome) d
  return (visited.findSome? (·.default? property)).getD none

/-- The action methods of a class. -/
def actionMethods (d : Declaration) : Audit (List String) := do
  return (← publicMethods d).filter Identifier.isAction

/-- The class that every controller extends. -/
def baseController : String := "yii\\web\\Controller"

/-- Whether a class is a controller: concrete, and a descendant of the base. -/
def isController (d : Declaration) (base : String) : Audit Bool := do
  if d.isAbstract then return false
  else isSubclassOf d base

end Audit

end RouteAudit
