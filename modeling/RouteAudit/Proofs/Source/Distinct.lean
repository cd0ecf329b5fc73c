import RouteAudit.Proofs.Assoc
import RouteAudit.Proofs.Source.Expr.Place
import RouteAudit.Proofs.Text.Decimal

/-!
# The keys of an array are different

No two entries of an array are written with the same key, in whatever a script returns
(`Script.evaluate_distinct`).  A text that could be mistaken for an index is one.
-/

namespace RouteAudit.Source

/-- How a key is written. -/
def Key.written : Key → String
  | .index n => Nat.repr n
  | .text s => s

mutual

/-- At every depth, the entries of an array have keys that are written differently. -/
def Value.Distinct : Value → Prop
  | .list items => Value.DistinctItems items
  | .keyed entries => (entries.map fun entry => entry.1.written).Nodup ∧
      Value.DistinctEntries entries
  | _ => True

/-- At every depth of some values, the entries of an array have keys that are written
differently. -/
def Value.DistinctItems : List Value → Prop
  | [] => True
  | v :: items => v.Distinct ∧ Value.DistinctItems items

/-- At every depth below some entries, the entries of an array have keys that are written
differently. -/
def Value.DistinctEntries : List (Key × Value) → Prop
  | [] => True
  | (_, v) :: entries => v.Distinct ∧ Value.DistinctEntries entries

end

namespace Value

/-- Items are distinct if each of them is. -/
lemma distinctItems_iff {items : List Value} : DistinctItems items ↔ ∀ v ∈ items, v.Distinct := by
  induction items with
  | nil => simp [DistinctItems]
  | cons v items ih => rw [DistinctItems, List.forall_mem_cons, ih]

/-- The values of entries are distinct if each of them is. -/
lemma distinctEntries_iff {entries : List (Key × Value)} :
    DistinctEntries entries ↔ ∀ entry ∈ entries, entry.2.Distinct := by
  induction entries with
  | nil => simp [DistinctEntries]
  | cons entry entries ih => rw [DistinctEntries, List.forall_mem_cons, ih]

/-- A list is distinct if its items are. -/
lemma distinct_list_iff {items : List Value} :
    (list items).Distinct ↔ ∀ v ∈ items, v.Distinct := by
  rw [Distinct, distinctItems_iff]

/-- A keyed value is distinct if its values are, and no key is written twice. -/
lemma distinct_keyed_iff {entries : List (Key × Value)} :
    (keyed entries).Distinct ↔
      (entries.map fun entry => entry.1.written).Nodup ∧
        ∀ entry ∈ entries, entry.2.Distinct := by
  rw [Distinct, distinctEntries_iff]

/-- The digits of an integer are put to use, unless there are too many. -/
lemma exists_decimalText {n : Nat} {use : String → Except Fault Value} {v : Value}
    (h : (decimalText n >>= use) = .ok v) : ∃ digits, use digits = .ok v := by
  cases hn : decimalText n with
  | error fault =>
    rw [hn] at h
    cases h
  | ok digits =>
    rw [hn] at h
    exact ⟨digits, h⟩

/-- A concatenation is distinct. -/
lemma concat_distinct {a b v : Value} (h : a.concat b = .ok v) : v.Distinct := by
  rw [concat.eq_def] at h
  split at h
  · cases h
    trivial
  · obtain ⟨digits, h⟩ := exists_decimalText h
    cases h
    trivial
  · obtain ⟨digits, h⟩ := exists_decimalText h
    cases h
    trivial
  · obtain ⟨digits, h⟩ := exists_decimalText h
    obtain ⟨digits', h⟩ := exists_decimalText h
    cases h
    trivial
  · cases h
    trivial

/-- A directory is distinct. -/
lemma directory_distinct (path levels : Value) : (path.directory levels).Distinct := by
  have either {c : Prop} [Decidable c] {s : String} :
      (if c then unresolved else text s).Distinct := by
    split <;> trivial
  cases path with
  | text s => exact either
  | _ => trivial

end Value

namespace Key

/-- A text that could be mistaken for an index is none. -/
def Normal : Key → Prop
  | .index _ => True
  | .text s => ∀ n, s ≠ Nat.repr n

/-- Keys that are written alike are the same. -/
lemma eq_of_written {k k' : Key} (hk : k.Normal) (hk' : k'.Normal) (h : k.written = k'.written) :
    k = k' := by
  cases k with
  | index n =>
    cases k' with
    | index m => exact congrArg Key.index (Nat.repr_injective h)
    | text s => exact absurd h.symm (hk' n)
  | text s =>
    cases k' with
    | index m => exact absurd h (hk m)
    | text t => exact congrArg Key.text h

/-- A key that a value is taken for is normal. -/
lemma ofValue?_normal {v : Value} {k : Key} (h : ofValue? v = .ok (some k)) : k.Normal := by
  cases v with
  | text s =>
    rw [ofValue?] at h
    split at h
    · split at h <;> cases h
      trivial
    · next hs =>
      cases h
      rintro n rfl
      exact hs (isIndexText_iff.2 ⟨n, Nat.toList_repr⟩)
  | bool b =>
    cases h
    trivial
  | integer n =>
    cases h
    trivial
  | _ => cases h

end Key

/-- The entries of an array that is being built have different keys. -/
structure ArrayBuilder.Distinct (b : ArrayBuilder) : Prop where
  nodup : b.entries.keys.Nodup
  normal : ∀ entry ∈ b.entries, entry.1.Normal
  values : ∀ entry ∈ b.entries, entry.2.Distinct

namespace ArrayBuilder.Distinct

variable {b : ArrayBuilder} {v : Value}

/-- An array without entries is distinct. -/
lemma empty : ArrayBuilder.Distinct {} where
  nodup := List.nodup_nil
  normal := List.forall_mem_nil _
  values := List.forall_mem_nil _

/-- One more item keeps an array distinct. -/
lemma push (h : b.Distinct) (hv : v.Distinct) : (b.push v).Distinct where
  nodup := Assoc.nodup_insert h.nodup _ _
  normal entry hentry := by
    rcases Assoc.mem_insert hentry with hold | rfl
    · exact h.normal entry hold
    · trivial
  values entry hentry := by
    rcases Assoc.mem_insert hentry with hold | rfl
    · exact h.values entry hold
    · exact hv

/-- One more entry keeps an array distinct, since it may replace another. -/
lemma insert (h : b.Distinct) {key? : Option Key} (hkey : ∀ k ∈ key?, k.Normal)
    (hv : v.Distinct) : (b.insert key? v).Distinct := by
  cases key? with
  | none => exact ⟨h.nodup, h.normal, h.values⟩
  | some k =>
    refine ⟨Assoc.nodup_insert h.nodup _ _, fun entry hentry => ?_, fun entry hentry => ?_⟩
    · rcases Assoc.mem_insert hentry with hold | rfl
      · exact h.normal entry hold
      · exact hkey k rfl
    · rcases Assoc.mem_insert hentry with hold | rfl
      · exact h.values entry hold
      · exact hv

/-- An array is distinct when it is built. -/
lemma build (h : b.Distinct) : b.build.Distinct := by
  rw [ArrayBuilder.build]
  split
  · rw [Value.distinct_keyed_iff]
    refine ⟨?_, h.values⟩
    have written := h.nodup.map_on (f := Key.written) fun k hk k' hk' => ?_
    · rwa [Assoc.keys, List.map_map] at written
    · obtain ⟨entry, hentry, rfl⟩ := List.mem_map.1 hk
      obtain ⟨entry', hentry', rfl⟩ := List.mem_map.1 hk'
      exact Key.eq_of_written (h.normal entry hentry) (h.normal entry' hentry')
  · rw [Value.distinct_list_iff]
    intro v hv
    obtain ⟨entry, hentry, rfl⟩ := List.mem_map.1 hv
    exact h.values entry hentry

end ArrayBuilder.Distinct

/-! ## Expressions -/

mutual

/-- The arrays among the constants of an expression have different keys. -/
def Expr.Distinct : Expr → Prop
  | .constant v => v.Distinct
  | .concat left right => left.Distinct ∧ right.Distinct
  | .array elements => elements.Distinct
  | .parent path levels => path.Distinct ∧ levels.Distinct
  | .discarded e => e.Distinct
  | _ => True

/-- The arrays among the constants of some elements have different keys. -/
def Elements.Distinct : Elements → Prop
  | .nil => True
  | .item value rest => value.Distinct ∧ rest.Distinct
  | .pair key value rest => key.Distinct ∧ value.Distinct ∧ rest.Distinct

end

/-- The arrays that are remembered have different keys. -/
def Env.Distinct (env : Env) : Prop :=
  ∀ binding ∈ env.bindings, binding.2.Distinct

/-- What is computed from what was computed before. -/
lemma exists_of_bind {α β : Type} {x : Except Fault α} {f : α → Except Fault β} {b : β}
    (h : x >>= f = .ok b) : ∃ a, x = .ok a ∧ f a = .ok b := by
  cases x with
  | error fault => cases h
  | ok a => exact ⟨a, rfl, h⟩

variable {env : Env}

mutual

/-- An expression has a distinct value. -/
lemma Expr.eval_distinct (henv : env.Distinct) {e : Expr} {v : Value} (he : e.Distinct)
    (h : e.eval env = .ok v) : v.Distinct := by
  cases e with
  | constant w =>
    cases h
    exact he
  | «variable» name =>
    cases h
    cases hv : env.bindings.get? name with
    | none => trivial
    | some w => exact henv _ (Assoc.mem_of_get? hv)
  | directory =>
    cases h
    cases env.file <;> trivial
  | file =>
    cases h
    cases env.file <;> trivial
  | className name =>
    cases h
    trivial
  | concat left right =>
    obtain ⟨a, -, h⟩ := exists_of_bind h
    obtain ⟨b, -, h⟩ := exists_of_bind h
    exact Value.concat_distinct h
  | array elements =>
    obtain ⟨b, hb, h⟩ := exists_of_bind h
    cases h
    exact (Elements.eval_distinct henv he .empty hb).build
  | parent path levels =>
    obtain ⟨p, -, h⟩ := exists_of_bind h
    obtain ⟨l, -, h⟩ := exists_of_bind h
    cases h
    exact Value.directory_distinct p l
  | discarded e =>
    obtain ⟨w, -, h⟩ := exists_of_bind h
    cases h
    trivial

/-- Elements keep an array distinct. -/
lemma Elements.eval_distinct (henv : env.Distinct) {es : Elements} {b b' : ArrayBuilder}
    (hes : es.Distinct) (hb : b.Distinct) (h : es.eval env b = .ok b') : b'.Distinct := by
  cases es with
  | nil =>
    cases h
    exact hb
  | item value rest =>
    obtain ⟨v, hv, h⟩ := exists_of_bind h
    exact Elements.eval_distinct henv hes.2 (hb.push (Expr.eval_distinct henv hes.1 hv)) h
  | pair key value rest =>
    obtain ⟨k, -, h⟩ := exists_of_bind h
    obtain ⟨key?, hkey, h⟩ := exists_of_bind h
    obtain ⟨v, hv, h⟩ := exists_of_bind h
    have normal : ∀ key ∈ key?, key.Normal := by
      rintro key rfl
      exact Key.ofValue?_normal hkey
    exact Elements.eval_distinct henv hes.2.2
      (hb.insert normal (Expr.eval_distinct henv hes.2.1 hv)) h

end

/-! ## Readers of expressions -/

namespace Expr
open Token

/-- A number is a distinct expression. -/
lemma ofNumber_distinct (text : String) : (ofNumber text).Distinct := by
  rw [ofNumber]
  split <;> trivial

/-- A string is a distinct expression. -/
lemma ofString_distinct (t : Token) : (ofString t).Distinct := by
  rw [ofString]
  split <;> trivial

/-- A word is a distinct expression. -/
lemma ofWord?_distinct {word : String} {e : Expr} (h : ofWord? word = some e) : e.Distinct := by
  rw [ofWord?] at h
  split_ifs at h <;> cases h <;> trivial

/-- The member of a class is a distinct expression. -/
lemma readMember_distinct (name : String) (ts : List Token) :
    (outcome (readMember name ts)).1.Distinct := by
  rw [readMember.eq_def]
  split
  · trivial
  · split
    · trivial
    · split
      · trivial
      · split <;> trivial

mutual

/-- An expression that is read is distinct. -/
lemma read_distinct (ts : List Token) : (outcome (read ts)).1.Distinct := by
  have hr := length_outcome_le (readOperand ts)
  rw [outcome_read]
  exact readChain_distinct (readOperand_distinct ts) _
  termination_by 3 * ts.length + 1

/-- A chain that is read is distinct. -/
lemma readChain_distinct {left : Expr} (h : left.Distinct) (ts : List Token) :
    (outcome (readChain left ts)).1.Distinct := by
  cases ts with
  | nil =>
    rw [readChain]
    exact h
  | cons t ts =>
    have hr := length_outcome_le (readOperand ts)
    rw [outcome_readChain]
    split
    · exact h
    · split
      · have hconcat : (left.concat (outcome (readOperand ts)).1).Distinct :=
          ⟨h, readOperand_distinct ts⟩
        exact readChain_distinct hconcat _
      · exact h
  termination_by 3 * ts.length + 0

/-- An operand that is read is distinct. -/
lemma readOperand_distinct (ts : List Token) : (outcome (readOperand ts)).1.Distinct := by
  cases ts with
  | nil =>
    rw [readOperand]
    trivial
  | cons t ts =>
    rw [outcome_readOperand]
    cases t.kind with
    | string => exact ofString_distinct t
    | number => exact ofNumber_distinct t.text
    | name => exact readNamed_distinct t.text ts
    | op =>
      dsimp only
      split
      · exact readElements_distinct ts
      · split
        · exact read_distinct ts
        · trivial
    | _ => trivial
  termination_by 3 * ts.length + 0

/-- What is read from a name is distinct. -/
lemma readNamed_distinct (name : String) (ts : List Token) :
    (outcome (readNamed name ts)).1.Distinct := by
  cases hword : ofWord? (Text.lower name) with
  | some e =>
    rw [readNamed_of_word hword]
    exact ofWord?_distinct hword
  | none =>
    cases ts with
    | nil =>
      rw [outcome_readNamed_nil, hword]
      trivial
    | cons t ts =>
      rw [outcome_readNamed, hword]
      dsimp only
      split
      · split
        · exact readElements_distinct ts
        · split
          · exact readParent_distinct ts
          · trivial
      · split
        · exact readMember_distinct name ts
        · trivial
  termination_by 3 * ts.length + 0

/-- The parent of a path that is read is distinct. -/
lemma readParent_distinct (ts : List Token) : (outcome (readParent ts)).1.Distinct := by
  have hr := length_outcome_le (read ts)
  have hpath := read_distinct ts
  rw [outcome_readParent]
  rcases hx : outcome (read ts) with ⟨path, _ | ⟨t, r⟩⟩
  · rw [hx] at hpath
    exact ⟨hpath, trivial⟩
  · rw [hx] at hr hpath
    have hlt : r.length < ts.length := hr
    dsimp only
    split
    · exact ⟨hpath, read_distinct r⟩
    · exact ⟨hpath, trivial⟩
  termination_by 3 * ts.length + 2

/-- Elements that are read are distinct. -/
lemma readElements_distinct (ts : List Token) : (outcome (readElements ts)).1.Distinct := by
  cases ts with
  | nil =>
    rw [readElements]
    trivial
  | cons t ts =>
    have hskip := length_skipUntil_le [","] ts
    have hr := length_outcome_le (read (t :: ts))
    have hfirst := read_distinct (t :: ts)
    rw [outcome_readElements]
    split
    · trivial
    · split
      · exact readElements_distinct ts
      · split
        · exact readElements_distinct (skipUntil [","] ts)
        · rcases hx : outcome (read (t :: ts)) with ⟨first, _ | ⟨arrow, r⟩⟩
          · rw [hx] at hfirst
            exact ⟨hfirst, trivial⟩
          · rw [hx] at hr hfirst
            have hle : r.length ≤ ts.length := Nat.le_of_succ_le_succ hr
            have hr' := length_outcome_le (read r)
            dsimp only
            split
            · exact ⟨hfirst, read_distinct r, readElements_distinct _⟩
            · split
              · exact ⟨hfirst, readElements_distinct (arrow :: r)⟩
              · exact ⟨hfirst, readElements_distinct ts⟩
  termination_by 3 * ts.length + 2

end

end Expr

/-! ## Scripts -/

namespace Script

/-- A script returns a distinct value. -/
lemma run_distinct {missing : Fault} {ts : List Token} {v : Value} (henv : env.Distinct)
    (h : run missing env ts = .ok v) : v.Distinct := by
  fun_induction run missing env ts with
  | case1 | case2 | case7 | case8 => cases h
  | case3 _ _ _ _ _ _ ih => exact ih henv h
  | case4 _ _ _ _ _ _ ih => exact ih henv h
  | case5 _ _ _ _ _ _ ih => exact ih henv h
  | case6 _ _ _ _ _ _ _ ih => exact ih henv h
  | case9 _ _ _ _ _ _ _ ts _ e rest _ hread w hw ih =>
    refine ih ?_ h
    intro binding hbinding
    rcases Assoc.mem_insert hbinding with hold | rfl
    · exact henv binding hold
    · have he := Expr.read_distinct ts
      rw [hread] at he
      exact Expr.eval_distinct henv he hw
  | case10 _ _ _ _ _ _ _ _ _ ih => exact ih henv h
  | case11 _ _ ts => exact Expr.eval_distinct henv (Expr.read_distinct ts) h
  | case12 _ _ _ _ _ _ _ _ ih => exact ih henv h

/-- **The keys of an array are different**, in whatever a script returns. -/
theorem evaluate_distinct {directory : Path} {file : Option Path} {source : List Char} {v : Value}
    (h : evaluate directory file source = .ok v) : v.Distinct := by
  rw [evaluate] at h
  refine run_distinct ?_ h
  exact List.forall_mem_nil _

end Script

end RouteAudit.Source
