import RouteAudit.Route.Index
import RouteAudit.Text.Distance

/-!
# Suggestions

For a text that is no route the nearest route is suggested, if there is one near enough.
-/

namespace RouteAudit.RouteIndex

/-- The better of a candidate and the best route so far, which comes with its distance or, while
there is none, with a bound.  Lengths that differ by that much decide without more work. -/
def nearer (route : String) (best : Option String × Int) (candidate : String) :
    Option String × Int :=
  let gap : Int := ((candidate.length : Int) - route.length).natAbs
  if best.2 ≤ gap then best
  else
    let distance : Int := Text.distance route candidate
    if distance < best.2 then (some candidate, distance) else best

/-- The nearest route within a distance; of several the first in order. -/
def closest? (index : RouteIndex) (route : String) (within : Int) : Option String :=
  (index.routes.foldl (nearer route) (none, within + 1)).1

end RouteAudit.RouteIndex
