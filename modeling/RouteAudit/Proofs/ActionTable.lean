import RouteAudit.ActionTable
import RouteAudit.Proofs.Assoc

/-!
# Merged action tables

The pairs of a collected class come to one entry, in which each method stands where it came first
(`get?_gather`).  A discovered class has an entry of its own only if it was not collected
(`get?_supplyAll`).  A table is known by its keys in order and by what a look-up finds
(`Assoc.ext_get?`), so these two say all that there is to say of a merged table
(`merge_collected`).
-/

namespace RouteAudit.ActionTable

/-! ## Repetitions -/

section Repetitions

variable {α : Type} [DecidableEq α]

/-- One more element is dropped if it came before, and else stays. -/
lemma eraseDups_concat (xs : List α) (y : α) :
    (xs ++ [y]).eraseDups = if y ∈ xs then xs.eraseDups else xs.eraseDups ++ [y] := by
  rw [List.eraseDups_append]
  by_cases h : y ∈ xs
  · simp [List.removeAll, h]
  · simp [List.removeAll, h, List.eraseDups_cons]

/-- Without its repetitions a list has no duplicates. -/
lemma nodup_eraseDups (xs : List α) : xs.eraseDups.Nodup := by
  induction xs using List.reverseRecOn with
  | nil => exact List.nodup_nil
  | append_singleton xs y ih =>
    rw [eraseDups_concat]
    split
    · exact ih
    · next hy =>
      refine List.nodup_append.2 ⟨ih, List.nodup_singleton y, ?_⟩
      intro a ha b hb e
      obtain rfl := List.mem_singleton.1 hb
      exact hy (List.mem_eraseDups.1 (e ▸ ha))

/-- A list without duplicates has no repetitions to leave out. -/
lemma eraseDups_of_nodup {xs : List α} (h : xs.Nodup) : xs.eraseDups = xs := by
  induction xs using List.reverseRecOn with
  | nil => rfl
  | append_singleton xs y ih =>
    obtain ⟨hxs, -, hnew⟩ := List.nodup_append.1 h
    have hy : y ∉ xs := fun hy => hnew y hy y (List.mem_singleton_self y) rfl
    rw [eraseDups_concat, if_neg hy, ih hxs]

end Repetitions

/-- Adding methods to some without repetitions is dropping the repetitions in all of them. -/
lemma union_eraseDups (methods more : List String) :
    union methods.eraseDups more = (methods ++ more).eraseDups := by
  induction more generalizing methods with
  | nil =>
    rw [List.append_nil]
    rfl
  | cons m more ih =>
    have step : (if methods.eraseDups.contains m then methods.eraseDups
        else methods.eraseDups ++ [m]) = (methods ++ [m]).eraseDups := by
      rw [eraseDups_concat]
      simp only [List.contains_iff_mem, List.mem_eraseDups]
    calc union methods.eraseDups (m :: more)
        = union (methods ++ [m]).eraseDups more := congrArg (fun ms => union ms more) step
      _ = (methods ++ [m] ++ more).eraseDups := ih _
      _ = (methods ++ m :: more).eraseDups := by rw [List.append_assoc, List.singleton_append]

/-! ## What was collected -/

/-- The table of some collected pairs. -/
def gather (collected : List (String × List String)) : ActionTable :=
  collected.foldl (fun t (name, methods) => extend t name methods) []

/-- The methods in the pairs of a class, in order. -/
def methodsOf (collected : List (String × List String)) (className : String) : List String :=
  (collected.filter (·.1 = className)).flatMap (·.2)

/-- One more pair extends the table gathered from the pairs before it. -/
lemma gather_concat (collected : List (String × List String)) (p : String × List String) :
    gather (collected ++ [p]) = extend (gather collected) p.1 p.2 := by
  rw [gather, List.foldl_append]
  rfl

/-- One more pair adds its methods to those of its own class. -/
lemma methodsOf_concat (collected : List (String × List String)) (p : String × List String)
    (className : String) :
    methodsOf (collected ++ [p]) className =
      methodsOf collected className ++ if p.1 = className then p.2 else [] := by
  rw [methodsOf, List.filter_append, List.flatMap_append, ← methodsOf]
  by_cases h : p.1 = className
  · simp [h]
  · simp [h]

/-- A class without pairs has no methods. -/
lemma methodsOf_of_notMem {collected : List (String × List String)} {className : String}
    (h : className ∉ Assoc.keys collected) : methodsOf collected className = [] := by
  have none : collected.filter (·.1 = className) = [] := by
    refine List.filter_eq_nil_iff.2 fun p hp same => h ?_
    exact List.mem_map.2 ⟨p, hp, of_decide_eq_true same⟩
  rw [methodsOf, none, List.flatMap_nil]

/-- The collected classes stand in the order in which they came first. -/
lemma keys_gather (collected : List (String × List String)) :
    (gather collected).keys = (Assoc.keys collected).eraseDups := by
  induction collected using List.reverseRecOn with
  | nil => rfl
  | append_singleton collected p ih =>
    have hkeys : Assoc.keys (collected ++ [p]) = Assoc.keys collected ++ [p.1] :=
      List.map_append
    rw [gather_concat, extend, hkeys, eraseDups_concat, ← ih]
    by_cases hp : p.1 ∈ Assoc.keys collected
    · rw [if_pos hp]
      apply Assoc.keys_insert_of_mem
      rwa [ih, List.mem_eraseDups]
    · rw [if_neg hp]
      apply Assoc.keys_insert_of_notMem
      rwa [ih, List.mem_eraseDups]

/-- A collected class has the methods of all its pairs, each where it came first. -/
lemma get?_gather (collected : List (String × List String)) (className : String) :
    (gather collected).get? className =
      if className ∈ Assoc.keys collected then some (methodsOf collected className).eraseDups
      else none := by
  induction collected using List.reverseRecOn generalizing className with
  | nil => rfl
  | append_singleton collected p ih =>
    have hmem : className ∈ Assoc.keys (collected ++ [p]) ↔
        className ∈ Assoc.keys collected ∨ className = p.1 := by
      rw [Assoc.keys, List.map_append, List.mem_append, List.map_singleton, List.mem_singleton]
      rfl
    rw [gather_concat, extend, methodsOf_concat]
    by_cases hp : className = p.1
    · subst hp
      have before : ((gather collected).get? p.1).getD [] = (methodsOf collected p.1).eraseDups := by
        rw [ih]
        split
        · rfl
        · next hnew =>
          rw [methodsOf_of_notMem hnew]
          rfl
      rw [Assoc.get?_insert_self, before, union_eraseDups, if_pos (hmem.2 (.inr rfl)), if_pos rfl]
    · rw [Assoc.get?_insert_of_ne hp, ih, if_neg (Ne.symm hp), List.append_nil]
      exact if_congr (hmem.trans (or_iff_left hp)).symm rfl rfl

/-! ## Pairs of one class -/

/-- Two pairs of a class add what one pair with the methods of both adds. -/
lemma extend_extend (table : ActionTable) (className : String) (methods more : List String) :
    extend (extend table className methods) className more =
      extend table className (methods ++ more) := by
  rw [extend, extend, Assoc.get?_insert_self, Option.getD_some, Assoc.insert_insert, extend, union,
    union, union, List.foldl_append]

/-- Any number of pairs of a class add what one pair with the methods of all adds. -/
lemma foldl_extend (table : ActionTable) (className : String) {parts : List (List String)}
    (hparts : parts ≠ []) :
    parts.foldl (fun t methods => extend t className methods) table =
      extend table className parts.flatten := by
  induction parts using List.reverseRecOn with
  | nil => exact absurd rfl hparts
  | append_singleton parts last ih =>
    rw [List.foldl_append, List.foldl_cons, List.foldl_nil, List.flatten_append,
      List.flatten_singleton]
    by_cases first : parts = []
    · subst first
      rfl
    · rw [ih first, extend_extend]

/-- So a pair may be cut into some. -/
lemma gather_parts (before after : List (String × List String)) (className : String)
    {parts : List (List String)} (hparts : parts ≠ []) :
    gather (before ++ parts.map (className, ·) ++ after) =
      gather (before ++ (className, parts.flatten) :: after) := by
  rw [gather, gather, List.foldl_append, List.foldl_append, List.foldl_append, List.foldl_cons,
    List.foldl_map, foldl_extend _ _ hparts]

/-! ## What was discovered -/

/-- The table with some classes that it does not have yet. -/
def supplyAll (table discovered : ActionTable) : ActionTable :=
  discovered.foldl (fun t (name, methods) => supply t name methods) table

/-- To merge is to gather what was collected, and to supply what was discovered. -/
lemma merge_eq (collected : List (String × List String)) (discovered : ActionTable) :
    merge collected discovered = supplyAll (gather collected) discovered :=
  rfl

/-- A supplied class is found unless it was there before; the others are found as before. -/
lemma get?_supply (table : ActionTable) (className : String) (methods : List String)
    (other : String) :
    (supply table className methods).get? other =
      (table.get? other).or (Assoc.get? [(className, methods)] other) := by
  rw [supply, Assoc.contains_eq_isSome]
  by_cases same : other = className
  · subst same
    cases known : table.get? other with
    | some old =>
      rw [Option.isSome_some, if_pos rfl, known, Option.some_or]
    | none =>
      rw [Option.isSome_none, if_neg Bool.false_ne_true, Assoc.get?_insert_self, Option.none_or]
      simp [Assoc.get?]
  · have absent : Assoc.get? [(className, methods)] other = none := by
      simp [Assoc.get?, Ne.symm same]
    rw [absent, Option.or_none]
    split
    · rfl
    · exact Assoc.get?_insert_of_ne same _ _

/-- A class that the table does not have has what was discovered for it. -/
lemma get?_supplyAll (table discovered : ActionTable) (className : String) :
    (supplyAll table discovered).get? className =
      (table.get? className).or (discovered.get? className) := by
  induction discovered generalizing table with
  | nil => exact Option.or_none.symm
  | cons p discovered ih =>
    have cut : Assoc.get? (p :: discovered) className =
        (Assoc.get? [p] className).or (Assoc.get? discovered className) := by
      rw [Assoc.get?, ← List.singleton_append, List.find?_append, Option.map_or]
      rfl
    show (supplyAll (supply table p.1 p.2) discovered).get? className = _
    rw [ih, get?_supply, cut, Option.or_assoc]

/-- The classes that the table does not have come behind, in their order. -/
lemma keys_supplyAll (table : ActionTable) {discovered : ActionTable}
    (map : discovered.keys.Nodup) :
    (supplyAll table discovered).keys =
      table.keys ++ discovered.keys.filter (· ∉ table.keys) := by
  induction discovered using List.reverseRecOn with
  | nil => exact (List.append_nil _).symm
  | append_singleton discovered p ih =>
    have hkeys : Assoc.keys (discovered ++ [p]) = Assoc.keys discovered ++ [p.1] :=
      List.map_append
    rw [hkeys] at map ⊢
    obtain ⟨hold, -, hnew⟩ := List.nodup_append.1 map
    have new : p.1 ∉ Assoc.keys discovered := fun hp => hnew p.1 hp p.1 (List.mem_singleton_self _) rfl
    have one : supplyAll table (discovered ++ [p]) =
        supply (supplyAll table discovered) p.1 p.2 := by
      rw [supplyAll, List.foldl_append]
      rfl
    -- a class is there before its turn only if the table has it
    have known : p.1 ∈ (supplyAll table discovered).keys ↔ p.1 ∈ table.keys := by
      rw [ih hold, List.mem_append, List.mem_filter]
      exact or_iff_left fun h => new h.1
    rw [one, supply, Assoc.contains_eq_isSome, List.filter_append, ← List.append_assoc, ← ih hold]
    by_cases hp : p.1 ∈ table.keys
    · have found : ((supplyAll table discovered).get? p.1).isSome := by
        rw [Option.isSome_iff_ne_none, Ne, Assoc.get?_eq_none, not_not]
        exact known.2 hp
      rw [if_pos found]
      simp [hp]
    · have absent : (supplyAll table discovered).get? p.1 = none :=
        Assoc.get?_eq_none.2 (known.not.2 hp)
      rw [absent, Option.isSome_none, if_neg Bool.false_ne_true,
        Assoc.keys_insert_of_notMem (known.not.2 hp)]
      simp [hp]

/-! ## Merged tables -/

section Merged

variable (collected : List (String × List String)) {discovered : ActionTable}

/-- A merged table has the collected classes first, in their order, and then the other discovered
ones. -/
lemma keys_merge (map : discovered.keys.Nodup) :
    (merge collected discovered).keys =
      (Assoc.keys collected).eraseDups ++
        discovered.keys.filter (· ∉ Assoc.keys collected) := by
  rw [merge_eq, keys_supplyAll _ map, keys_gather]
  simp only [List.mem_eraseDups]

/-- In a merged table a collected class has its collected methods, any other the discovered ones. -/
lemma get?_merge (discovered : ActionTable) (className : String) :
    (merge collected discovered).get? className =
      if className ∈ Assoc.keys collected then some (methodsOf collected className).eraseDups
      else discovered.get? className := by
  rw [merge_eq, get?_supplyAll, get?_gather]
  split
  · exact Option.some_or
  · exact Option.none_or

/-- No class stands twice in a merged table. -/
lemma nodup_merge (discovered : ActionTable) : (merge collected discovered).keys.Nodup := by
  have gathered : (gather collected).keys.Nodup := by
    rw [keys_gather]
    exact nodup_eraseDups _
  refine Assoc.nodup_foldl (fun table p h => ?_) gathered discovered
  show (supply table p.1 p.2).keys.Nodup
  rw [supply]
  split
  · exact h
  · exact Assoc.nodup_insert h _ _

variable {collected}

/-- The only pair of a class holds its methods. -/
lemma methodsOf_of_get? {table : ActionTable} (map : table.keys.Nodup) {className : String}
    {methods : List String} (h : table.get? className = some methods) :
    methodsOf table className = methods := by
  induction table with
  | nil => cases h
  | cons p table ih =>
    obtain ⟨hnew, htable⟩ := List.nodup_cons.1 map
    by_cases hp : p.1 = className
    · subst hp
      obtain rfl : p.2 = methods := by simpa [Assoc.get?] using h
      have rest : methodsOf table p.1 = [] := methodsOf_of_notMem hnew
      rw [methodsOf, List.filter_cons_of_pos (by simp), List.flatMap_cons, ← methodsOf, rest,
        List.append_nil]
    · have found : Assoc.get? table className = some methods := by
        rwa [Assoc.get?, List.find?_cons_of_neg (by simpa using hp), ← Assoc.get?] at h
      rw [methodsOf, List.filter_cons_of_neg (by simpa using hp)]
      exact ih htable found

/-- Where no methods are repeated, nor are those of a merged table. -/
lemma nodup_of_get?_merge (distinct : ∀ entry ∈ discovered, entry.2.Nodup) {className : String}
    {methods : List String} (h : (merge collected discovered).get? className = some methods) :
    methods.Nodup := by
  rw [get?_merge] at h
  split at h
  · cases h
    exact nodup_eraseDups _
  · exact distinct _ (Assoc.mem_of_get? h)

/-- Once merged, a table is not changed by what was discovered already. -/
lemma merge_merge (map : discovered.keys.Nodup)
    (distinct : ∀ entry ∈ discovered, entry.2.Nodup) :
    merge (merge collected discovered) discovered = merge collected discovered := by
  have nodup : (merge collected discovered).keys.Nodup := nodup_merge collected discovered
  -- all that was discovered has been merged
  have all : ∀ className ∈ discovered.keys, className ∈ (merge collected discovered).keys := by
    intro className h
    rw [keys_merge collected map, List.mem_append, List.mem_eraseDups, List.mem_filter]
    by_cases hc : className ∈ Assoc.keys collected
    · exact .inl hc
    · exact .inr ⟨h, decide_eq_true hc⟩
  apply Assoc.ext_get?
  · have nothing :
        discovered.keys.filter (· ∉ (merge collected discovered).keys) = [] := by
      refine List.filter_eq_nil_iff.2 fun className h => ?_
      simpa using all className h
    rw [keys_merge _ map, eraseDups_of_nodup nodup, nothing, List.append_nil]
  · exact nodup_merge _ _
  · intro className
    rw [get?_merge]
    split
    · next known =>
      cases h : (merge collected discovered).get? className with
      | none => exact absurd known (Assoc.get?_eq_none.1 h)
      | some methods =>
        rw [methodsOf_of_get? nodup h, eraseDups_of_nodup (nodup_of_get?_merge distinct h)]
    · next unknown =>
      rw [Assoc.get?_eq_none.2 unknown, Assoc.get?_eq_none.2 fun h => unknown (all className h)]

/-- **What was collected takes the place of what was discovered, and nothing is lost.**  First come
the collected classes in the order in which they came first, then the other discovered classes in
their order.  A collected class has the methods of all its pairs, each where it came first, and
nothing else, even if these are none; any other class has what was discovered for it.  So a pair may
be cut into several, and a merged table may be merged again. -/
theorem merge_collected (collected : List (String × List String)) {discovered : ActionTable}
    (map : discovered.keys.Nodup) :
    (merge collected discovered).keys =
        (Assoc.keys collected).eraseDups ++
          discovered.keys.filter (· ∉ Assoc.keys collected) ∧
      (∀ className ∈ Assoc.keys collected, (merge collected discovered).get? className =
        some (methodsOf collected className).eraseDups) ∧
      (∀ className ∉ Assoc.keys collected,
        (merge collected discovered).get? className = discovered.get? className) ∧
      (∀ before className parts after, parts ≠ [] →
        merge (before ++ parts.map (className, ·) ++ after) discovered =
          merge (before ++ (className, parts.flatten) :: after) discovered) ∧
      ((∀ entry ∈ discovered, entry.2.Nodup) →
        merge (merge collected discovered) discovered = merge collected discovered) := by
  refine ⟨keys_merge collected map, fun className h => ?_, fun className h => ?_,
    fun before className parts after hparts => ?_, merge_merge map⟩
  · rw [get?_merge, if_pos h]
  · rw [get?_merge, if_neg h]
  · rw [merge_eq, gather_parts before after className hparts, ← merge_eq]

/-- A class of two pairs, one without actions, and one that was only discovered. -/
theorem merge_collected_cart :
    let collected := [("Cart", ["actionAdd", "actionShow"]), ("Blog", []),
      ("Cart", ["actionShow", "actionDrop"])]
    let discovered : ActionTable := [("Blog", ["actionRead"]), ("User", ["actionLogin"])]
    (merge collected discovered).keys = ["Cart", "Blog", "User"] ∧
      (merge collected discovered).get? "Cart" = some ["actionAdd", "actionShow", "actionDrop"] ∧
      (merge collected discovered).get? "Blog" = some [] ∧
      (merge collected discovered).get? "User" = some ["actionLogin"] ∧
      merge [("Cart", ["actionAdd"]), ("Cart", ["actionShow"]), ("Blog", []),
        ("Cart", ["actionShow", "actionDrop"])] discovered = merge collected discovered ∧
      merge (merge collected discovered) discovered = merge collected discovered := by
  intro collected discovered
  have map : discovered.keys.Nodup := by decide
  obtain ⟨keys, known, others, parts, again⟩ := merge_collected collected map
  refine ⟨keys, known "Cart" (by decide), known "Blog" (by decide), others "User" (by decide), ?_,
    again (by decide)⟩
  exact parts [] "Cart" [["actionAdd"], ["actionShow"]] _ (List.cons_ne_nil _ _)

end Merged

end RouteAudit.ActionTable
