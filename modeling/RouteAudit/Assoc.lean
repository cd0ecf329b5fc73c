/-!
# Association lists

Finite maps that remember in which order their keys came.  A new value for a key takes the place of
the old one.
-/

namespace RouteAudit

universe u v

/-- Keys with their values, each key in the place where it came first. -/
abbrev Assoc (κ : Type u) (α : Type v) := List (κ × α)

namespace Assoc

variable {κ : Type u} {α : Type v} [BEq κ]

/-- The map with a value for a key. -/
def insert (k : κ) (v : α) : Assoc κ α → Assoc κ α
  | [] => [(k, v)]
  | (k', v') :: rest => if k' == k then (k', v) :: rest else (k', v') :: insert k v rest

/-- An entry of a list with an insertion was there before or is the new one. -/
theorem mem_insert [LawfulBEq κ] {k : κ} {v : α} {m : Assoc κ α} {p : κ × α}
    (h : p ∈ insert k v m) : p ∈ m ∨ p = (k, v) := by
  induction m with
  | nil => exact .inr (List.mem_singleton.1 h)
  | cons q m ih =>
    rw [insert] at h
    split at h
    · next hk =>
      rcases List.mem_cons.1 h with rfl | h
      · exact .inr (by rw [eq_of_beq hk])
      · exact .inl (List.mem_cons_of_mem _ h)
    · rcases List.mem_cons.1 h with rfl | h
      · exact .inl List.mem_cons_self
      · exact (ih h).imp_left (List.mem_cons_of_mem _)

/-- The value for a key. -/
def get? (m : Assoc κ α) (k : κ) : Option α :=
  (m.find? (·.1 == k)).map (·.2)

/-- Whether the key has a value. -/
def contains (m : Assoc κ α) (k : κ) : Bool :=
  m.any (·.1 == k)

/-- The map with the given pairs; of two pairs with one key the later value counts. -/
def ofList (pairs : List (κ × α)) : Assoc κ α :=
  pairs.foldl (fun m p => insert p.1 p.2 m) []

/-- The keys in order. -/
def keys (m : Assoc κ α) : List κ :=
  m.map (·.1)

/-- The values in the order of their keys. -/
def values (m : Assoc κ α) : List α :=
  m.map (·.2)

end Assoc

end RouteAudit
