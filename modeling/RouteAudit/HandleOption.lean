import RouteAudit.Text.Blank
import RouteAudit.Text.Quoted
import RouteAudit.Text.Trim

/-!
# Handle options

A handle on the command line is written with its namespace behind an equals sign.  Blanks around
either do not count.
-/

namespace RouteAudit.HandleOption

/-- The handle and the namespace of an option, unless one of them is missing. -/
def parse? (value : String) : Option (String × String) :=
  match Text.cut? '=' value with
  | none => none
  | some (handle, space) =>
    if space.isEmpty then none
    else some (Text.trim Text.isBlank handle, Text.trim Text.isBlank space)

/-- What is wrong with an option that cannot be read. -/
def complaint (value : String) : String :=
  "Invalid --handle " ++ Text.Quoted.encode value ++ ": expected HANDLE=NAMESPACE"

end RouteAudit.HandleOption
