import RouteAudit.Text.Lowercase
import RouteAudit.Text.Trim

/-!
# Class names

A fully qualified class name is a list of segments between backslashes, without one at either end.
Two names that differ in letter case only name the same class.
-/

namespace RouteAudit.Source.ClassName

/-- The character between the segments of a name. -/
def separator : Char := '\\'

/-- The name without backslashes at its ends. -/
def bare (name : String) : String :=
  Text.trim (· == separator) name

/-- The key under which a class is known, equal for all spellings of its name. -/
def key (name : String) : String :=
  Text.lower (bare name)

/-- The last segment of a name. -/
def short (name : String) : String :=
  Text.afterLast separator name

/-- The name of a member of a namespace; the empty namespace is global. -/
def join (space name : String) : String :=
  if space.isEmpty then name else space ++ "\\" ++ name

end RouteAudit.Source.ClassName
