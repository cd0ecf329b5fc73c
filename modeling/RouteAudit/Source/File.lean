import RouteAudit.ClassSearch
import RouteAudit.Json.Parser
import RouteAudit.Source.Script

/-!
# Configuration files

The values that configuration files hold: a PHP file holds the value that it returns, and a JSON
file the document that it is.
-/

namespace RouteAudit

namespace Source.Value

mutual

/-- The value of a JSON document.  No reader asks for a number, so none is resolved. -/
def ofJson : Json → Value
  | .null => .null
  | .bool b => .bool b
  | .integer _ => .unresolved
  | .decimal _ => .unresolved
  | .string s => .text s
  | .array items => .list (ofItems items)
  | .object members => .keyed (ofMembers members)

/-- The values of the items of an array. -/
def ofItems : List Json → List Value
  | [] => []
  | item :: items => ofJson item :: ofItems items

/-- The entries for the members of an object. -/
def ofMembers : List (String × Json) → List (Key × Value)
  | [] => []
  | (name, value) :: members => (.text name, ofJson value) :: ofMembers members

end

/-- The value of an entry of a keyed array. -/
def get? (v : Value) (name : String) : Option Value :=
  match v with
  | .keyed entries => Assoc.get? entries (.text name)
  | _ => none

/-- The text that a value is. -/
def text? : Value → Option String
  | .text s => some s
  | _ => none

end Source.Value

namespace FileTree

/-- The value that a PHP file returns. -/
def readReturn (tree : FileTree) (path : Path) : Except Cause Source.Value :=
  match tree.read path with
  | .error fault => .error (.file fault)
  | .ok bytes =>
    match Source.Script.evaluate tree.workingDirectory (some path) (sourceText bytes) with
    | .ok v => .ok v
    | .error fault => .error (.source fault)

/-- The JSON document that a file is. -/
def readJson (tree : FileTree) (path : Path) : Except Cause Json :=
  match tree.read path with
  | .error fault => .error (.file fault)
  | .ok bytes =>
    match (Text.Utf8.decode? bytes).bind Json.parse? with
    | some j => .ok j
    | none => .error .malformed

/-- Whether a file is a JSON document in which a string holds half of a character. -/
def writesHalf (tree : FileTree) (path : Path) : Bool :=
  match tree.read path with
  | .error _ => false
  | .ok bytes =>
    (Text.Utf8.decode? bytes).any fun cs => (Json.parse? cs).isSome && Json.writesHalf cs

end FileTree

/-- The fault with which a cause ends a run, if it does; a file with any other cause is left out. -/
def Cause.fatal? : Cause → Option Fault
  | .source .overlong => some (.source .overlong)
  | .file .invalidPath => some (.file .invalidPath)
  | _ => none

namespace Audit

/-- The value that a PHP file returns, or a note of why there is none. -/
def readReturn (path : Path) (onFailure : Cause → Note) : Audit (Option Source.Value) := do
  match (← read).readReturn path with
  | .ok v => return some v
  | .error cause =>
    match cause.fatal? with
    | some fault => throw fault
    | none =>
      note (onFailure cause)
      return none

end Audit

end RouteAudit
