import RouteAudit.Assoc

/-!
# JSON documents

A number is an integer if it is written without fraction and exponent; any other number is kept as
it is written, since nothing is computed with it.
-/

namespace RouteAudit

/-- A JSON document. -/
inductive Json where
  | null
  | bool (b : Bool)
  | integer (n : Int)
  | decimal (literal : String)
  | string (s : String)
  | array (items : List Json)
  | object (members : List (String × Json))
  deriving Inhabited, Repr, BEq

namespace Json

/-- The value of a member of an object. -/
def get? (j : Json) (name : String) : Option Json :=
  match j with
  | .object members => Assoc.get? members name
  | _ => none

end Json

end RouteAudit
