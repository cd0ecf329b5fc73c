import RouteAudit.Proofs.Text.Distance
import RouteAudit.Route.Suggestion

/-!
# The nearest route

The routes of an index are looked at in order, and one is kept only if it is nearer than all before
(`Found`).  So in the end the first of the nearest routes is there, if it is near enough
(`closest?_nearest`).  A route that is passed over for its length would not have been kept: texts
are at least as far from each other as their lengths are (`nearer_eq`).
-/

namespace RouteAudit.RouteIndex

open Text (leastEdits)

/-- The better of a candidate and the best route so far, with the distance computed in any case. -/
def nearerInFull (route : String) (best : Option String × Int) (candidate : String) :
    Option String × Int :=
  let distance : Int := Text.distance route candidate
  if distance < best.2 then (some candidate, distance) else best

/-- The first in order of the routes that take the fewest edits. -/
structure Nearest (route : String) (routes : List String) (r : String) : Prop where
  mem : r ∈ routes
  least : ∀ s ∈ routes, leastEdits route r ≤ leastEdits route s
  first : ∀ s ∈ routes, leastEdits route s = leastEdits route r → r ≤ s

variable {route r c : String} {routes : List String} {bound : Int} {best : Option String × Int}

/-- There is one nearest route. -/
lemma Nearest.unique {r' : String} (h : Nearest route routes r) (h' : Nearest route routes r') :
    r = r' := by
  have same := Nat.le_antisymm (h.least r' h'.mem) (h'.least r h.mem)
  exact le_antisymm (h.first r' h'.mem same.symm) (h'.first r h.mem same)

/-- Looking at the lengths first changes nothing. -/
lemma nearer_eq (route : String) : nearer route = nearerInFull route := by
  funext best candidate
  rw [nearer]
  dsimp only
  split
  · next far =>
    have longer := Text.length_le_distance route candidate
    have shorter := Text.length_le_distance candidate route
    rw [Text.distance_comm candidate route] at shorter
    rw [nearerInFull, if_neg (by omega)]
  · rfl

/-- What is kept when some routes have been looked at: nothing while all are beyond the bound, and
then the first of the nearest. -/
inductive Found (route : String) (bound : Int) (routes : List String) :
    Option String × Int → Prop where
  | none : (∀ s ∈ routes, bound ≤ leastEdits route s) → Found route bound routes (none, bound)
  | some {r : String} : Nearest route routes r → (leastEdits route r : Int) < bound →
    Found route bound routes (some r, leastEdits route r)

/-- A nearer route that comes later in the order is the new best. -/
lemma Nearest.of_nearer (h : ∀ s ∈ routes, leastEdits route c < leastEdits route s) :
    Nearest route (routes ++ [c]) c where
  mem := List.mem_append_right _ (List.mem_singleton_self c)
  least := by
    rw [List.forall_mem_append, List.forall_mem_singleton]
    exact ⟨fun s hs => (h s hs).le, le_rfl⟩
  first := by
    rw [List.forall_mem_append, List.forall_mem_singleton]
    exact ⟨fun s hs same => absurd same (h s hs).ne', fun _ => le_rfl⟩

/-- A route that comes later in the order and is not nearer leaves the best as it is. -/
lemma Nearest.concat (h : Nearest route routes r) (hc : r < c)
    (far : leastEdits route r ≤ leastEdits route c) : Nearest route (routes ++ [c]) r where
  mem := List.mem_append_left _ h.mem
  least := by
    rw [List.forall_mem_append, List.forall_mem_singleton]
    exact ⟨h.least, far⟩
  first := by
    rw [List.forall_mem_append, List.forall_mem_singleton]
    exact ⟨h.first, fun _ => hc.le⟩

/-- One step of the search. -/
lemma Found.next (h : Found route bound routes best) (hc : ∀ s ∈ routes, s < c) :
    Found route bound (routes ++ [c]) (nearerInFull route best c) := by
  rw [nearerInFull, ← Text.leastEdits_eq]
  cases h with
  | none far =>
    dsimp only
    split
    · next near =>
      refine .some (.of_nearer fun s hs => ?_) near
      have := far s hs
      omega
    · next farther =>
      refine .none ?_
      rw [List.forall_mem_append, List.forall_mem_singleton]
      exact ⟨far, not_lt.1 farther⟩
  | @some r nearest near =>
    dsimp only
    split
    · next nearer =>
      have nearer := Int.ofNat_lt.1 nearer
      refine .some (.of_nearer fun s hs => nearer.trans_le (nearest.least s hs)) ?_
      omega
    · next farther =>
      have farther := Int.ofNat_le.1 (not_lt.1 farther)
      exact .some (nearest.concat (hc r nearest.mem) farther) near

/-- The whole search, when no route comes before an earlier one. -/
lemma found_foldl (sorted : routes.Pairwise (· < ·)) :
    Found route bound routes (routes.foldl (nearerInFull route) (none, bound)) := by
  induction routes using List.reverseRecOn with
  | nil => exact .none (List.forall_mem_nil _)
  | append_singleton routes c ih =>
    rw [List.pairwise_append] at sorted
    obtain ⟨before, -, last⟩ := sorted
    rw [List.foldl_append, List.foldl_cons, List.foldl_nil]
    exact (ih before).next fun s hs => last s hs c (List.mem_singleton_self c)

/-- A search finds the best route within the bound, if there is one. -/
lemma found_closest? (index : RouteIndex) (route : String) (within : Int) :
    ∃ best, index.closest? route within = best.1 ∧ Found route (within + 1) index.routes best := by
  rw [closest?, nearer_eq]
  exact ⟨_, rfl, found_foldl index.sorted⟩

/-- The suggestion is the first in order of the routes with the fewest edits, if these are not too
many.  There is none exactly where all routes take too many, and where routes are passed over for
their length the answer is the same as if every distance were computed. -/
theorem closest?_nearest (index : RouteIndex) (route : String) (within : Int) :
    (∀ r, index.closest? route within = some r ↔
      Nearest route index.routes r ∧ (leastEdits route r : Int) ≤ within) ∧
    (index.closest? route within = none ↔ ∀ s ∈ index, within < leastEdits route s) ∧
    index.closest? route within =
      (index.routes.foldl (nearerInFull route) (none, within + 1)).1 := by
  refine ⟨?_, ?_, by rw [closest?, nearer_eq]⟩
  · intro r
    obtain ⟨best, answer, found⟩ := found_closest? index route within
    rw [answer]
    cases found with
    | none far =>
      refine ⟨nofun, fun ⟨nearest, near⟩ => ?_⟩
      have := far r nearest.mem
      omega
    | @some r' nearest near =>
      constructor
      · rintro ⟨⟩
        exact ⟨nearest, Int.lt_add_one_iff.1 near⟩
      · rintro ⟨other, -⟩
        exact congrArg some (nearest.unique other)
  · obtain ⟨best, answer, found⟩ := found_closest? index route within
    rw [answer]
    cases found with
    | none far => exact ⟨fun _ s hs => far s hs, fun _ => rfl⟩
    | @some r nearest near =>
      refine ⟨nofun, fun far => ?_⟩
      have := far r nearest.mem
      omega

end RouteAudit.RouteIndex
