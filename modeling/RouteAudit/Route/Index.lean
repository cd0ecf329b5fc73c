import RouteAudit.ActionTable
import RouteAudit.HandleMap
import RouteAudit.Identifier

/-!
# Route indices

A route is a handle, the identifier of a controller and the identifier of an action, with slashes
between them.  The handle of the core framework is left out, and so may be the default action of a
controller.  An index is the set of the routes of a project, listed in order.
-/

namespace RouteAudit

/-- The empty list is in order. -/
theorem RouteIndex.sorted_nil : ([] : List String).Pairwise (· < ·) := by
  simp

/-- A set of routes. -/
structure RouteIndex where
  routes : List String := []
  sorted : routes.Pairwise (· < ·) := by exact RouteIndex.sorted_nil

namespace RouteIndex

/-- The route of an action, or of the default action of a controller. -/
def format (handle controller : String) (action? : Option String) : String :=
  "/".intercalate ((if handle.isEmpty then [] else [handle]) ++ [controller] ++ action?.toList)

/-- The ordered list with one more text. -/
def insertSorted (r : String) : List String → List String
  | [] => [r]
  | s :: rest =>
    if r < s then r :: s :: rest
    else if r = s then s :: rest
    else s :: insertSorted r rest

/-- An inserted route is in the list with those that were there. -/
theorem mem_insertSorted {r t : String} {l : List String} :
    t ∈ insertSorted r l ↔ t = r ∨ t ∈ l := by
  induction l with
  | nil => simp [insertSorted]
  | cons s rest ih =>
    simp only [insertSorted]
    split
    · simp
    · split
      · next h => subst h; simp
      · simp only [List.mem_cons, ih]
        exact ⟨fun h => by rcases h with h | h | h <;> simp [h],
          fun h => by rcases h with h | h | h <;> simp [h]⟩

/-- An inserted route keeps the list in order. -/
theorem pairwise_insertSorted {r : String} {l : List String} (h : l.Pairwise (· < ·)) :
    (insertSorted r l).Pairwise (· < ·) := by
  induction l with
  | nil => simp [insertSorted]
  | cons s rest ih =>
    obtain ⟨hs, hrest⟩ := List.pairwise_cons.1 h
    simp only [insertSorted]
    split
    · next hlt =>
      refine List.pairwise_cons.2 ⟨fun t ht => ?_, h⟩
      rcases List.mem_cons.1 ht with rfl | ht
      · exact hlt
      · exact String.lt_trans hlt (hs t ht)
    · split
      · exact h
      · next hnlt hne =>
        refine List.pairwise_cons.2 ⟨fun t ht => ?_, ih hrest⟩
        rcases mem_insertSorted.1 ht with rfl | ht
        · exact Std.lt_of_le_of_ne (String.not_lt.1 hnlt) fun h => hne h.symm
        · exact hs t ht

/-- The index with one more route. -/
def insert (index : RouteIndex) (r : String) : RouteIndex :=
  ⟨insertSorted r index.routes, pairwise_insertSorted index.sorted⟩

/-- The index of the given routes. -/
def ofList (routes : List String) : RouteIndex :=
  routes.foldl insert {}

/-- A route is in an index if it is among its routes. -/
instance : Membership String RouteIndex :=
  ⟨fun index r => r ∈ index.routes⟩

/-- Whether a route is in an index can be decided. -/
instance (r : String) (index : RouteIndex) : Decidable (r ∈ index) :=
  inferInstanceAs (Decidable (r ∈ index.routes))

/-- The number of routes. -/
def size (index : RouteIndex) : Nat :=
  index.routes.length

/-- The routes of a method under a handle; `default` is the default action of the controller. -/
def routesOf (handle controller default method : String) : List String :=
  let action := Identifier.ofAction method
  format handle controller (some action) ::
    if action = default then [format handle controller none] else []

/-- The routes of the controllers, each under every handle whose namespace holds it; `default` tells
the default action of a controller. -/
def build (handles : HandleMap) (actions : ActionTable) (default : String → String) :
    RouteIndex :=
  ofList <| actions.flatMap fun (className, methods) =>
    (HandleMap.owners handles className).flatMap fun handle =>
      methods.flatMap (routesOf handle (Identifier.ofController className) (default className))

end RouteIndex

end RouteAudit
