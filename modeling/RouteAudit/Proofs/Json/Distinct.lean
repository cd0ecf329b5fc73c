import RouteAudit.Proofs.Source.Distinct
import RouteAudit.Source.File

/-!
# The names of members are different

No two members of an object have the same name, in whatever document is read (`parse?_distinct`).
-/

namespace RouteAudit

namespace Source.Value

/-- The items of an array become the items of a list. -/
lemma ofItems_eq_map (items : List Json) : ofItems items = items.map ofJson := by
  induction items with
  | nil => rfl
  | cons item items ih => rw [ofItems, ih, List.map_cons]

/-- The members of an object become entries under the texts of their names. -/
lemma ofMembers_eq_map (members : List (String × Json)) :
    ofMembers members = members.map fun member => (.text member.1, ofJson member.2) := by
  induction members with
  | nil => rfl
  | cons member members ih => rw [ofMembers, ih, List.map_cons]

end Source.Value

namespace Json

open Source.Value (ofJson)

variable {limit : Nat}

/-- At every depth, the members of an object have different names. -/
def Distinct (j : Json) : Prop :=
  (ofJson j).Distinct

/-- Members have different names, and so have those in their values. -/
structure DistinctMembers (members : Assoc String Json) : Prop where
  nodup : members.keys.Nodup
  values : ∀ member ∈ members, member.2.Distinct

/-- No members have no name twice. -/
lemma DistinctMembers.empty : DistinctMembers [] where
  nodup := List.nodup_nil
  values := List.forall_mem_nil _

/-- With one more member no name comes twice, since it may replace another. -/
lemma DistinctMembers.insert {members : Assoc String Json} (h : DistinctMembers members)
    (name : String) {value : Json} (hvalue : value.Distinct) :
    DistinctMembers (Assoc.insert name value members) where
  nodup := Assoc.nodup_insert h.nodup name value
  values member hmember := by
    rcases Assoc.mem_insert hmember with hold | rfl
    · exact h.values member hold
    · exact hvalue

/-- An array is distinct if its items are. -/
lemma distinct_array {items : List Json} (h : ∀ item ∈ items, item.Distinct) :
    (array items).Distinct := by
  rw [Distinct, ofJson, Source.Value.ofItems_eq_map, Source.Value.distinct_list_iff]
  exact List.forall_mem_map.2 h

/-- An object is distinct if its members are, and no name comes twice. -/
lemma distinct_object {members : Assoc String Json} (h : DistinctMembers members) :
    (object members).Distinct := by
  rw [Distinct, ofJson, Source.Value.ofMembers_eq_map, Source.Value.distinct_keyed_iff,
    List.map_map]
  exact ⟨h.nodup, List.forall_mem_map.2 h.values⟩

/-- A scalar that is read is distinct. -/
lemma scalar?_distinct {cs : List Char} {j : Json} {n : Nat} (h : scalar? limit cs = some (j, n)) :
    j.Distinct := by
  rw [scalar?] at h
  split at h
  · next word value hfind =>
    cases h
    have known : ∀ word ∈ words, word.2.Distinct := by
      simp [words, Distinct, ofJson, Source.Value.Distinct]
    exact known _ (List.mem_of_find?_eq_some hfind)
  · rw [number?] at h
    obtain ⟨whole, -, h⟩ := Option.bind_eq_some_iff.1 h
    dsimp only at h
    split_ifs at h <;> cases h <;> trivial

/-! ## What the readers return -/

/-- What a reader of values returns. -/
inductive ValueRead (limit : Nat) (cs : List Char) : Json → Prop
  | string (s : String) : ValueRead limit cs (.string s)
  | scalar {j : Json} {n : Nat} : scalar? limit cs = some (j, n) → ValueRead limit cs j
  | emptyArray : ValueRead limit cs (.array [])
  | array {r : List Char} {items : List Json} {left : Left r} : r.length < cs.length →
    readItems limit r = some (items, left) → ValueRead limit cs (.array items)
  | emptyObject : ValueRead limit cs (.object [])
  | object {r : List Char} {members : Assoc String Json} {left : Left r} : r.length < cs.length →
    readMembers limit [] r = some (members, left) → ValueRead limit cs (.object members)

/-- A value that is read follows the rules. -/
lemma valueRead_of_readValue {cs : List Char} {j : Json} {left : Left cs}
    (h : readValue limit cs = some (j, left)) : ValueRead limit cs j := by
  cases cs with
  | nil =>
    rw [readValue.eq_def] at h
    cases h
  | cons c cs =>
    rw [readValue.eq_def] at h
    dsimp only at h
    split at h
    · split at h <;> cases h
      exact .string _
    · split at h
      · generalize skipSpace cs = skipped at h
        obtain ⟨_ | ⟨d, r⟩, hr⟩ := skipped
        · cases h
        · dsimp only at h
          split at h
          · cases h
            exact .emptyArray
          · split at h
            · cases h
            · next hitems =>
              cases h
              exact .array (Nat.lt_succ_of_le hr) hitems
      · split at h
        · generalize skipSpace cs = skipped at h
          obtain ⟨_ | ⟨d, r⟩, hr⟩ := skipped
          · cases h
          · dsimp only at h
            split at h
            · cases h
              exact .emptyObject
            · split at h
              · cases h
              · next hmembers =>
                cases h
                exact .object (Nat.lt_succ_of_le hr) hmembers
        · rw [readScalar] at h
          split at h
          · cases h
          · next hscalar =>
            split at h <;> cases h
            exact .scalar hscalar

/-- What a reader of items returns. -/
inductive ItemsRead (limit : Nat) (cs : List Char) : List Json → Prop
  | last {item : Json} {left : Left cs} : readValue limit cs = some (item, left) →
    ItemsRead limit cs [item]
  | cons {item : Json} {items : List Json} {left : Left cs} {r : List Char} {left' : Left r} :
    readValue limit cs = some (item, left) → r.length < cs.length →
    readItems limit r = some (items, left') → ItemsRead limit cs (item :: items)

/-- Items that are read follow the rules. -/
lemma itemsRead_of_readItems {cs : List Char} {items : List Json} {left : Left cs}
    (h : readItems limit cs = some (items, left)) : ItemsRead limit cs items := by
  rw [readItems.eq_def] at h
  split at h
  · cases h
  · next item r hr hitem =>
    generalize skipSpace r = skipped at h
    obtain ⟨_ | ⟨d, r'⟩, hr'⟩ := skipped
    · cases h
    · dsimp only at h
      split at h
      · cases h
        exact .last hitem
      · split at h
        · generalize skipSpace r' = skipped at h
          obtain ⟨r'', hr''⟩ := skipped
          split at h
          · cases h
          · next hitems =>
            cases h
            have hlt : r''.length < cs.length := by
              rw [List.length_cons] at hr'
              omega
            exact .cons hitem hlt hitems
        · cases h

/-- What a reader of members returns. -/
inductive MembersRead (limit : Nat) (before : Assoc String Json) (cs : List Char) :
    Assoc String Json → Prop
  | last (name : String) {r : List Char} {value : Json} {left : Left r} : r.length < cs.length →
    readValue limit r = some (value, left) →
    MembersRead limit before cs (Assoc.insert name value before)
  | cons (name : String) {r r' : List Char} {value : Json} {members : Assoc String Json}
    {left : Left r} {left' : Left r'} : r.length < cs.length →
    readValue limit r = some (value, left) → r'.length < cs.length →
    readMembers limit (Assoc.insert name value before) r' = some (members, left') →
    MembersRead limit before cs members

/-- Members that are read follow the rules. -/
lemma membersRead_of_readMembers {before : Assoc String Json} {cs : List Char}
    {members : Assoc String Json} {left : Left cs}
    (h : readMembers limit before cs = some (members, left)) :
    MembersRead limit before cs members := by
  rw [readMembers.eq_def] at h
  cases cs with
  | nil => cases h
  | cons c cs =>
    dsimp only at h
    split at h
    · split at h
      · cases h
      · next name r hr _ =>
        generalize skipSpace r = skipped at h
        obtain ⟨_ | ⟨colon, r₁⟩, hr₁⟩ := skipped
        · cases h
        · dsimp only at h
          split at h
          · generalize skipSpace r₁ = skipped at h
            obtain ⟨r₂, hr₂⟩ := skipped
            split at h
            · cases h
            · next value r₃ hr₃ hvalue =>
              generalize skipSpace r₃ = skipped at h
              obtain ⟨_ | ⟨comma, r₄⟩, hr₄⟩ := skipped
              · cases h
              · rw [List.length_cons] at hr₁ hr₄
                have hr₃ : r₃.length < r₂.length := hr₃
                have hlt : r₂.length < (c :: cs).length := by
                  rw [List.length_cons]
                  omega
                dsimp only at h
                split at h
                · cases h
                  exact .last name hlt hvalue
                · split at h
                  · generalize skipSpace r₄ = skipped at h
                    obtain ⟨r₅, hr₅⟩ := skipped
                    split at h
                    · cases h
                    · next hmembers =>
                      cases h
                      have hlt' : r₅.length < (c :: cs).length := by omega
                      exact .cons name hlt hvalue hlt' hmembers
                  · cases h
          · cases h
    · cases h

/-! ## Documents -/

mutual

/-- A value that is read is distinct. -/
lemma readValue_distinct {cs : List Char} {j : Json} {left : Left cs}
    (h : readValue limit cs = some (j, left)) : j.Distinct := by
  cases valueRead_of_readValue h with
  | string s => trivial
  | scalar hscalar => exact scalar?_distinct hscalar
  | emptyArray => exact distinct_array (List.forall_mem_nil _)
  | array hr hitems => exact distinct_array (readItems_distinct hitems)
  | emptyObject => exact distinct_object .empty
  | object hr hmembers => exact distinct_object (readMembers_distinct .empty hmembers)
  termination_by 2 * cs.length

/-- Items that are read are distinct. -/
lemma readItems_distinct {cs : List Char} {items : List Json} {left : Left cs}
    (h : readItems limit cs = some (items, left)) : ∀ item ∈ items, item.Distinct := by
  cases itemsRead_of_readItems h with
  | last hitem => exact List.forall_mem_singleton.2 (readValue_distinct hitem)
  | cons hitem hr hitems =>
    exact List.forall_mem_cons.2 ⟨readValue_distinct hitem, readItems_distinct hitems⟩
  termination_by 2 * cs.length + 1

/-- Members that are read are distinct, and no name comes twice. -/
lemma readMembers_distinct {before : Assoc String Json} (hbefore : DistinctMembers before)
    {cs : List Char} {members : Assoc String Json} {left : Left cs}
    (h : readMembers limit before cs = some (members, left)) : DistinctMembers members := by
  cases membersRead_of_readMembers h with
  | last name hr hvalue => exact hbefore.insert name (readValue_distinct hvalue)
  | cons name hr hvalue hr' hmembers =>
    exact readMembers_distinct (hbefore.insert name (readValue_distinct hvalue)) hmembers
  termination_by 2 * cs.length

end

/-- **The names of members are different**, in whatever document is read. -/
theorem parse?_distinct {cs : List Char} {j : Json} (h : parse? cs = some j) : j.Distinct := by
  rw [parse?, parseWithin?] at h
  split at h
  · cases h
  · next hvalue =>
    split at h <;> cases h
    exact readValue_distinct hvalue

end Json

end RouteAudit
