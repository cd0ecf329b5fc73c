import RouteAudit.Proofs.Identifier.Segment
import RouteAudit.Proofs.Route.Index

/-!
# The segments of routes

Nothing is missing between the slashes of a route if the handle, the identifier of the controller
and that of the action are segments and not empty.  So in an index only the controllers that have no
identifier make routes with a gap (`full_iff_notMem_build`).
-/

namespace RouteAudit

namespace RouteIndex
open Identifier

/-- Whether a segment stands before, between and behind the slashes of a text. -/
def Full (r : String) : Prop :=
  "" ∉ Text.split '/' r

/-- A joined route has no gaps if both parts have none. -/
lemma full_append {front back : String} : Full (front ++ "/" ++ back) ↔ Full front ∧ Full back := by
  have slash : "/" = String.singleton '/' := rfl
  rw [Full, slash, Text.split_append, List.mem_append, not_or]
  exact Iff.rfl

/-- A single segment is full just if it is not empty. -/
lemma full_iff_ne_empty {s : String} (h : '/' ∉ s.toList) : Full s ↔ s ≠ "" := by
  rw [Full, Text.split_of_notMem h, List.mem_singleton]
  exact ne_comm

/-- Behind its start a route is full just if the rest is. -/
lemma full_routeStart {handle : String} (h : handle = HandleMap.coreHandle ∨ Full handle)
    (s : String) : Full (HandleMap.routeStart handle ++ s) ↔ Full s := by
  rw [HandleMap.routeStart]
  split
  · rw [String.empty_append]
  · next hne => rw [full_append, and_iff_right (h.resolve_left hne)]

variable {handles : HandleMap} {actions : ActionTable} {default : String → String} {r : String}

/-- Another sign than those between the words of a route stands in it only if it stands in a handle
or in the name of a class or of a method. -/
lemma mem_of_mem_route {c : Char} (sign : Text.isSign c = true) (hyphen : c ≠ '-') (slash : c ≠ '/')
    (hr : r ∈ build handles actions default) (h : c ∈ r.toList) :
    (∃ entry ∈ handles, c ∈ entry.1.toList) ∨
      ∃ className method, actions.Lists className method ∧
        (c ∈ className.toList ∨ c ∈ method.toList) := by
  obtain ⟨handle, space, className, method, hhandle, -, lists, hr⟩ := mem_build.1 hr
  have between : c ∉ "/".toList := by simpa using slash
  have start (hstart : c ∈ (HandleMap.routeStart handle).toList) : c ∈ handle.toList := by
    rw [HandleMap.routeStart] at hstart
    split at hstart
    · cases hstart
    · rw [String.toList_append, List.mem_append] at hstart
      exact hstart.resolve_right between
  have controller (hcontroller : c ∈ (ofController className).toList) :=
    mem_of_mem_ofController sign hyphen hcontroller
  have action (haction : c ∈ (ofAction method).toList) := mem_of_mem_ofAction sign hyphen haction
  rcases hr with rfl | ⟨-, rfl⟩
  · simp only [String.toList_append, List.mem_append, between, or_false] at h
    rcases h with (h | h) | h
    · exact .inl ⟨_, hhandle, start h⟩
    · exact .inr ⟨className, method, lists, .inl (controller h)⟩
    · exact .inr ⟨className, method, lists, .inr (action h)⟩
  · rw [String.toList_append, List.mem_append] at h
    rcases h with h | h
    · exact .inl ⟨_, hhandle, start h⟩
    · exact .inr ⟨className, method, lists, .inl (controller h)⟩

/-- The handles and the actions of a table make segments of routes, and none of them is empty.  The
controllers make segments, but some may be empty. -/
structure Segmented (handles : HandleMap) (actions : ActionTable) : Prop where
  handles : ∀ entry ∈ handles, entry.1 = HandleMap.coreHandle ∨ Full entry.1
  controllers : ∀ entry ∈ actions, IsSegment (ofController entry.1)
  actions : ∀ entry ∈ actions, ∀ m ∈ entry.2, NamesAction m

/-- The controllers without an identifier. -/
def unnamed (actions : ActionTable) : ActionTable :=
  actions.filter fun entry => ofController entry.1 = ""

/-- A route has a gap exactly where its controller has no identifier. -/
lemma Segmented.full_iff (h : Segmented handles actions) {handle space className method : String}
    (hhandle : (handle, space) ∈ handles) (lists : actions.Lists className method)
    (hr : r = HandleMap.routeStart handle ++ ofController className ++ "/" ++ ofAction method ∨
      ofAction method = default className ∧
        r = HandleMap.routeStart handle ++ ofController className) :
    Full r ↔ ofController className ≠ "" := by
  obtain ⟨methods, hclass, hmethod⟩ := lists
  have controller : Full (HandleMap.routeStart handle ++ ofController className) ↔
      ofController className ≠ "" :=
    (full_routeStart (h.handles _ hhandle) _).trans
      (full_iff_ne_empty (h.controllers _ hclass).whole)
  rcases hr with rfl | ⟨-, rfl⟩
  · obtain ⟨segment, hne⟩ := h.actions _ hclass method hmethod
    have action : Full (ofAction method) := (full_iff_ne_empty segment.whole).2 hne
    rw [full_append, controller, and_iff_left action]
  · exact controller

/-- The routes with a gap are those of the controllers without an identifier. -/
lemma Segmented.full_iff_notMem_build (h : Segmented handles actions)
    (hr : r ∈ build handles actions default) :
    Full r ↔ r ∉ build handles (unnamed actions) default := by
  constructor
  · intro full hgap
    obtain ⟨handle, space, className, method, hhandle, -, ⟨methods, hclass, hmethod⟩, hr⟩ :=
      mem_build.1 hgap
    obtain ⟨hclass, hempty⟩ := List.mem_filter.1 hclass
    exact (h.full_iff hhandle ⟨methods, hclass, hmethod⟩ hr).1 full (of_decide_eq_true hempty)
  · intro noGap
    obtain ⟨handle, space, className, method, hhandle, inside, lists, hr⟩ := mem_build.1 hr
    refine (h.full_iff hhandle lists hr).2 fun hempty => noGap ?_
    obtain ⟨methods, hclass, hmethod⟩ := lists
    have hunnamed : (className, methods) ∈ unnamed actions :=
      List.mem_filter.2 ⟨hclass, decide_eq_true hempty⟩
    exact mem_build.2
      ⟨handle, space, className, method, hhandle, inside, ⟨methods, hunnamed, hmethod⟩, hr⟩

end RouteIndex

end RouteAudit
