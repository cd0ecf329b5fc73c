import Mathlib
import RouteAudit.Assoc

/-!
# Association lists as maps

What a look-up finds after an insertion, and where an insertion puts a new key.  A key never stands
twice.
-/

namespace RouteAudit.Assoc

universe u v

variable {κ : Type u} {α : Type v} [BEq κ] [LawfulBEq κ]

/-- What a look-up finds stands in the map. -/
lemma mem_of_get? {k : κ} {v : α} {m : Assoc κ α} (h : get? m k = some v) : (k, v) ∈ m := by
  obtain ⟨p, found, rfl⟩ := Option.map_eq_some_iff.1 h
  have key := List.find?_some found
  obtain rfl : p.1 = k := eq_of_beq key
  exact List.mem_of_find?_eq_some found

/-- A new key comes last. -/
lemma insert_of_new {k : κ} {m : Assoc κ α} (h : ∀ p ∈ m, p.1 ≠ k) (v : α) :
    insert k v m = m ++ [(k, v)] := by
  induction m with
  | nil => rfl
  | cons p m ih =>
    rw [List.forall_mem_cons] at h
    rw [insert, if_neg (by simpa using h.1), ih h.2, List.cons_append]

/-- What is inserted is found. -/
lemma get?_insert_self (k : κ) (v : α) (m : Assoc κ α) : get? (insert k v m) k = some v := by
  induction m with
  | nil => simp [insert, get?]
  | cons p m ih =>
    rw [insert]
    by_cases h : p.1 = k
    · simp [get?, h]
    · rw [if_neg (by simpa using h)]
      rw [get?] at ih ⊢
      rwa [List.find?_cons_of_neg (by simpa using h)]

/-- An insertion changes nothing for the other keys. -/
lemma get?_insert_of_ne {k k' : κ} (h : k' ≠ k) (v : α) (m : Assoc κ α) :
    get? (insert k v m) k' = get? m k' := by
  induction m with
  | nil => simp [insert, get?, Ne.symm h]
  | cons p m ih =>
    rw [insert]
    by_cases hk : p.1 = k
    · have hp : p.1 ≠ k' := fun e => h (e.symm.trans hk)
      simp [get?, hk, Ne.symm h]
    · rw [if_neg (by simpa using hk)]
      by_cases hp : p.1 = k'
      · simp [get?, hp]
      · rw [get?, get?] at ih ⊢
        rwa [List.find?_cons_of_neg (by simpa using hp),
          List.find?_cons_of_neg (by simpa using hp)]

/-- Of two values for a key the second takes the place of the first. -/
lemma insert_insert (k : κ) (u v : α) (m : Assoc κ α) : insert k v (insert k u m) = insert k v m := by
  induction m with
  | nil => simp [insert]
  | cons p m ih =>
    by_cases h : p.1 = k
    · simp [insert, h]
    · rw [insert, if_neg (by simpa using h), insert, if_neg (by simpa using h), ih, insert,
        if_neg (by simpa using h)]

/-- To insert under a key that is there changes no key. -/
lemma keys_insert_of_mem {k : κ} {m : Assoc κ α} (h : k ∈ keys m) (v : α) :
    keys (insert k v m) = keys m := by
  induction m with
  | nil => cases h
  | cons p m ih =>
    by_cases hk : p.1 = k
    · simp [insert, keys, hk]
    · rw [insert, if_neg (by simpa using hk)]
      obtain rfl | h := List.mem_cons.1 h
      · exact absurd rfl hk
      · exact congrArg (p.1 :: ·) (ih h)

/-- A new key comes last. -/
lemma keys_insert_of_notMem {k : κ} {m : Assoc κ α} (h : k ∉ keys m) (v : α) :
    keys (insert k v m) = keys m ++ [k] := by
  rw [insert_of_new fun p hp hk => h (List.mem_map.2 ⟨p, hp, hk⟩), keys, List.map_append]
  rfl

/-- The keys of an insertion are those that are there and its own. -/
lemma mem_keys_insert {k k' : κ} {v : α} {m : Assoc κ α} :
    k' ∈ keys (insert k v m) ↔ k' ∈ keys m ∨ k' = k := by
  by_cases h : k ∈ keys m
  · rw [keys_insert_of_mem h]
    exact ⟨.inl, fun hk => hk.elim id fun e => e ▸ h⟩
  · rw [keys_insert_of_notMem h, List.mem_append, List.mem_singleton]

omit [LawfulBEq κ] in
/-- An insertion adds at most one entry. -/
lemma length_insert_le (k : κ) (v : α) (m : Assoc κ α) :
    (insert k v m).length ≤ m.length + 1 := by
  induction m with
  | nil => exact Nat.le_refl _
  | cons p m ih =>
    rw [insert]
    split
    · exact Nat.le_succ _
    · exact Nat.succ_le_succ ih

/-- Nothing is found just for the keys that are not there. -/
lemma get?_eq_none {k : κ} {m : Assoc κ α} : get? m k = none ↔ k ∉ keys m := by
  rw [get?, Option.map_eq_none_iff, List.find?_eq_none, keys, List.mem_map]
  constructor
  · rintro h ⟨p, hp, rfl⟩
    exact h p hp (beq_self_eq_true p.1)
  · intro h p hp hk
    exact h ⟨p, hp, eq_of_beq hk⟩

omit [LawfulBEq κ] in
/-- A key is there if something is found for it. -/
lemma contains_eq_isSome (k : κ) (m : Assoc κ α) : contains m k = (get? m k).isSome := by
  rw [contains, get?, Option.isSome_map, List.isSome_find?]

/-- An insertion keeps the keys different. -/
lemma nodup_insert {m : Assoc κ α} (h : (keys m).Nodup) (k : κ) (v : α) :
    (keys (insert k v m)).Nodup := by
  by_cases hk : k ∈ keys m
  · rwa [keys_insert_of_mem hk]
  · rw [keys_insert_of_notMem hk]
    refine List.nodup_append.2 ⟨h, List.nodup_cons.2 ⟨List.not_mem_nil, List.nodup_nil⟩, ?_⟩
    intro a ha b hb e
    exact hk (List.mem_singleton.1 hb ▸ e ▸ ha)

omit [BEq κ] [LawfulBEq κ] in
/-- A map that is put together by insertions has no key twice. -/
lemma nodup_foldl {β : Type*} {step : Assoc κ α → β → Assoc κ α}
    (hstep : ∀ m b, (keys m).Nodup → (keys (step m b)).Nodup) {m : Assoc κ α}
    (h : (keys m).Nodup) (more : List β) : (keys (more.foldl step m)).Nodup :=
  List.foldlRecOn more step h fun m hm b _ => hstep m b hm

/-- A map is known by its keys in order and by what a look-up finds. -/
lemma ext_get? {m m' : Assoc κ α} (hkeys : keys m = keys m') (h : (keys m).Nodup)
    (hget : ∀ k, get? m k = get? m' k) : m = m' := by
  induction m generalizing m' with
  | nil => exact (List.map_eq_nil_iff.1 hkeys.symm).symm
  | cons p m ih =>
    cases m' with
    | nil => cases hkeys
    | cons p' m' =>
      obtain ⟨hp, hrest⟩ : p.1 = p'.1 ∧ keys m = keys m' := List.cons.inj hkeys
      obtain ⟨hnew, hm⟩ := List.nodup_cons.1 h
      have hvalue : p.2 = p'.2 := by
        have hfirst := hget p.1
        simpa [get?, hp] using hfirst
      have later : ∀ k, get? m k = get? m' k := by
        intro k
        by_cases hk : p.1 = k
        · subst hk
          have hnew' : p.1 ∉ keys m' := hrest ▸ hnew
          rw [get?_eq_none.2 hnew, get?_eq_none.2 hnew']
        · have hk' : p'.1 ≠ k := hp ▸ hk
          have hfind := hget k
          rwa [get?, get?, List.find?_cons_of_neg (by simpa using hk),
            List.find?_cons_of_neg (by simpa using hk')] at hfind
      rw [Prod.ext hp hvalue, ih hrest hm later]

/-- A look-up among pairs that are kept or left out for their values. -/
lemma get?_filterMap {β : Type*} (f : α → Option β) {pairs : List (κ × α)}
    (h : (keys pairs).Nodup) (k : κ) :
    get? (pairs.filterMap fun p => (f p.2).map (p.1, ·)) k = (get? pairs k).bind f := by
  induction pairs with
  | nil => rfl
  | cons p pairs ih =>
    obtain ⟨hnew, hpairs⟩ := List.nodup_cons.1 h
    have ih := ih hpairs
    by_cases hk : p.1 = k
    · subst hk
      have hnone : get? pairs p.1 = none := get?_eq_none.2 hnew
      cases hp : f p.2 with
      | none =>
        rw [List.filterMap_cons_none (by rw [hp]; rfl), ih, hnone]
        simp [get?, hp]
      | some b => simp [get?, hp]
    · have hrest : get? (p :: pairs) k = get? pairs k := by
        rw [get?, List.find?_cons_of_neg (by simpa using hk), get?]
      rw [hrest, ← ih]
      cases hp : f p.2 with
      | none => rw [List.filterMap_cons_none (by rw [hp]; rfl)]
      | some b => simp [get?, hp, hk]

/-- The last value that some pairs have for a key. -/
def latest? (pairs : List (κ × α)) (k : κ) : Option α :=
  get? pairs.reverse k

omit [LawfulBEq κ] in
/-- The last of some pairs counts before the others. -/
lemma latest?_concat (pairs : List (κ × α)) (p : κ × α) (k : κ) :
    latest? (pairs ++ [p]) k = if p.1 == k then some p.2 else latest? pairs k := by
  rw [latest?, List.reverse_append, List.reverse_singleton, List.singleton_append, get?,
    List.find?_cons]
  cases p.1 == k <;> rfl

/-- For the key of a pair there is a last pair. -/
lemma isSome_latest? {pairs : List (κ × α)} {p : κ × α} (h : p ∈ pairs) :
    (latest? pairs p.1).isSome := by
  rw [latest?, Option.isSome_iff_ne_none, Ne, get?_eq_none, not_not]
  exact List.mem_map.2 ⟨p, List.mem_reverse.2 h, rfl⟩

/-- After some insertions a key has the last of its new values, or else its old one. -/
lemma get?_foldl_insert {β : Type*} (f : β → α) (pairs : List (κ × β)) (m : Assoc κ α) (k : κ) :
    get? (pairs.foldl (fun m p => insert p.1 (f p.2) m) m) k =
      ((latest? pairs k).map f).or (get? m k) := by
  induction pairs using List.reverseRecOn with
  | nil => rfl
  | append_singleton pairs p ih =>
    rw [List.foldl_append, List.foldl_cons, List.foldl_nil, latest?_concat]
    by_cases hk : p.1 = k
    · rw [← hk, get?_insert_self, beq_self_eq_true, if_pos rfl]
      rfl
    · rw [get?_insert_of_ne (Ne.symm hk), ih, if_neg (by simpa using hk)]

/-- Where keys do not come twice, the last value is the only one. -/
lemma latest?_of_nodup {pairs : List (κ × α)} (h : (keys pairs).Nodup) (k : κ) :
    latest? pairs k = get? pairs k := by
  induction pairs with
  | nil => rfl
  | cons p pairs ih =>
    obtain ⟨hnew, hpairs⟩ := List.nodup_cons.1 h
    have hlast : latest? (p :: pairs) k = (get? pairs k).or (get? [p] k) := by
      rw [← ih hpairs, latest?, List.reverse_cons, get?, List.find?_append, Option.map_or]
      rfl
    by_cases hk : p.1 = k
    · have hnone : get? pairs k = none := get?_eq_none.2 (hk ▸ hnew)
      rw [hlast, hnone, Option.none_or]
      simp [get?, hk]
    · have hnone : get? [p] k = none := by simp [get?, hk]
      rw [hlast, hnone, Option.or_none, get?, get?, List.find?_cons_of_neg (by simpa using hk)]

/-- Pairs with different keys are a map as they are. -/
lemma ofList_of_nodup {pairs : List (κ × α)} (h : (pairs.map (·.1)).Nodup) :
    ofList pairs = pairs := by
  induction pairs using List.reverseRecOn with
  | nil => rfl
  | append_singleton pairs p ih =>
    rw [List.map_append, List.nodup_append] at h
    have hnew : ∀ q ∈ pairs, q.1 ≠ p.1 := by
      intro q hq
      exact h.2.2 q.1 (List.mem_map_of_mem hq) p.1 (List.mem_singleton_self _)
    have hpairs : ofList pairs = pairs := ih h.1
    rw [ofList] at hpairs ⊢
    rw [List.foldl_append, hpairs]
    exact insert_of_new hnew p.2

end RouteAudit.Assoc
